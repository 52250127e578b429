import SessionHub.Json.StringBody
import SessionHub.Proofs.Json.Text

set_option autoImplicit false

/-! # Strings read back

A string that is written and then read is the same string. Each character is written either as it
is, or as an escape that stands for it (`readStringBytes_escape`). -/

namespace SessionHub.Json

/-- What is read before more of a string. -/
def withFront (front : Bytes) (r : Except Failure (Bytes × Bytes)) :
    Except Failure (Bytes × Bytes) :=
  r.map fun p => (front ++ p.1, p.2)

/-- Whether a byte stands for itself in a string. -/
def IsPlain (b : UInt8) : Prop :=
  b ≠ Mark.quote ∧ b ≠ Mark.backslash ∧ ¬ b < 0x20

/-- A step that is neither the end nor a failure. -/
theorem readStringBytes_step {state next : StringState} {b : UInt8} {front rest : Bytes}
    (goes : state.endsAt b = false) (step : stringStep state b = .ok (front, next)) :
    readStringBytes state (b :: rest) = withFront front (readStringBytes next rest) := by
  rw [readStringBytes]
  simp only [goes, Bool.false_eq_true, if_false, step]
  show (readStringBytes next rest).bind (fun p => .ok (front ++ p.1, p.2)) = _
  cases readStringBytes next rest <;> rfl

theorem readStringBytes_plain {bs : Bytes} (plain : ∀ b ∈ bs, IsPlain b) (rest : Bytes) :
    readStringBytes .plain (bs ++ rest) = withFront bs (readStringBytes .plain rest) := by
  induction bs with
  | nil =>
    rw [List.nil_append]
    cases readStringBytes .plain rest <;> rfl
  | cons b bs ih =>
    obtain ⟨quote, backslash, control⟩ := plain b List.mem_cons_self
    have step : stringStep .plain b = .ok ([b], .plain) := by
      simp [stringStep, backslash, control]
    rw [List.cons_append, readStringBytes_step (by simp [StringState.endsAt, quote]) step,
      ih fun c hc => plain c (List.mem_cons_of_mem b hc)]
    cases readStringBytes .plain rest <;> rfl

/-! ## Characters -/

/-- The bytes of a character are its code point, if that is below 128, and 128 or more otherwise. -/
theorem mem_utf8EncodeChar {c : Char} {b : UInt8} (hb : b ∈ String.utf8EncodeChar c) :
    (c.toNat < 128 ∧ b = UInt8.ofNat c.toNat) ∨ ¬ b < 128 := by
  have large : ∀ n k : Nat, 128 ≤ k → n + k < 256 → ¬ UInt8.ofNat (n + k) < 128 := by
    intro n k hk small
    rw [UInt8.lt_iff_toNat_lt, UInt8.toNat_ofNat', Nat.mod_eq_of_lt small]
    show ¬ n + k < 128
    omega
  unfold String.utf8EncodeChar at hb
  dsimp only at hb
  split at hb
  · next small =>
    have small : c.toNat ≤ 127 := small
    exact .inl ⟨by omega, List.mem_singleton.mp hb⟩
  · right
    split at hb
    · simp only [List.mem_cons, List.not_mem_nil, or_false] at hb
      rcases hb with rfl | rfl <;> exact large _ _ (by decide) (by omega)
    · split at hb
      · simp only [List.mem_cons, List.not_mem_nil, or_false] at hb
        rcases hb with rfl | rfl | rfl <;> exact large _ _ (by decide) (by omega)
      · simp only [List.mem_cons, List.not_mem_nil, or_false] at hb
        rcases hb with rfl | rfl | rfl | rfl <;> exact large _ _ (by decide) (by omega)

/-- A character that needs no escape has plain bytes. -/
theorem isPlain_utf8EncodeChar {c : Char} (quote : c ≠ '"') (backslash : c ≠ '\\')
    (control : ¬ c.toNat < 0x20) : ∀ b ∈ String.utf8EncodeChar c, IsPlain b := by
  intro b hb
  rcases mem_utf8EncodeChar hb with ⟨small, rfl⟩ | large
  · have plain : ∀ n, n < 128 → (UInt8.ofNat n = Mark.quote → n = 0x22) ∧
        (UInt8.ofNat n = Mark.backslash → n = 0x5C) ∧ (UInt8.ofNat n < 0x20 → n < 0x20) := by
      decide
    have of_code : ∀ {n : Nat} {d : Char}, c.toNat = n → d.toNat = n → c = d := by
      intro n d hc hd
      rw [← Char.ofNat_toNat c, ← Char.ofNat_toNat d, hc, hd]
    obtain ⟨quote', backslash', control'⟩ := plain c.toNat small
    exact ⟨fun h => quote (of_code (quote' h) rfl), fun h => backslash (of_code (backslash' h) rfl),
      fun h => control (control' h)⟩
  · refine ⟨?_, ?_, ?_⟩
    · rintro rfl
      exact large (by decide)
    · rintro rfl
      exact large (by decide)
    · exact fun below => large (UInt8.lt_trans below (by decide))

/-- Reading an escape of one letter. -/
theorem readStringBytes_letter {b front : UInt8} (letter : escaped? b = some front) (rest : Bytes) :
    readStringBytes .plain (Mark.backslash :: b :: rest)
      = withFront [front] (readStringBytes .plain rest) := by
  have first : stringStep .plain Mark.backslash = .ok ([], .escape) := rfl
  have second : stringStep .escape b = .ok ([front], .plain) := by
    simp only [stringStep, letter]
  rw [readStringBytes_step rfl first, readStringBytes_step rfl second]
  cases readStringBytes .plain rest <;> rfl

/-- Reading an escape by number, of a control. -/
theorem readStringBytes_unit {n : Nat} (control : n < 0x20) (rest : Bytes) :
    readStringBytes .plain
        (Bytes.ofString "\\u00" ++ [hexDigit (n / 16), hexDigit (n % 16)] ++ rest)
      = withFront [UInt8.ofNat n] (readStringBytes .plain rest) := by
  have escape : Bytes.ofString "\\u00" = [Mark.backslash, Mark.unit, 0x30, 0x30] := by decide
  have number : ∀ n, n < 0x20 →
      hexNumber? [0x30, 0x30, hexDigit (n / 16), hexDigit (n % 16)] = some n := by
    decide
  have first : stringStep .plain Mark.backslash = .ok ([], .escape) := rfl
  have second : stringStep .escape Mark.unit = .ok ([], .unit none []) := rfl
  have third : stringStep (.unit none []) 0x30 = .ok ([], .unit none [0x30]) := rfl
  have fourth : stringStep (.unit none [0x30]) 0x30 = .ok ([], .unit none [0x30, 0x30]) := rfl
  have fifth : stringStep (.unit none [0x30, 0x30]) (hexDigit (n / 16))
      = .ok ([], .unit none [0x30, 0x30, hexDigit (n / 16)]) := rfl
  have low : isLowSurrogate n = false := by
    simp [isLowSurrogate]
    omega
  have high : isHighSurrogate n = false := by
    simp [isHighSurrogate]
    omega
  have last : stringStep (.unit none [0x30, 0x30, hexDigit (n / 16)]) (hexDigit (n % 16))
      = .ok ([UInt8.ofNat n], .plain) := by
    simp only [stringStep, List.length_cons, List.length_nil, Nat.lt_irrefl, if_false,
      List.cons_append, List.nil_append, unitMeaning, number n control, low, high,
      Bool.false_eq_true]
    rw [Bytes.utf8EncodeChar_ofNat (by omega)]
  rw [escape]
  simp only [List.cons_append, List.nil_append]
  rw [readStringBytes_step rfl first, readStringBytes_step rfl second,
    readStringBytes_step rfl third, readStringBytes_step rfl fourth,
    readStringBytes_step rfl fifth, readStringBytes_step rfl last]
  cases readStringBytes .plain rest <;> rfl

/-- Reading what stands for one character. -/
theorem readStringBytes_escape (c : Char) (rest : Bytes) :
    readStringBytes .plain (escape c ++ rest)
      = withFront (String.utf8EncodeChar c) (readStringBytes .plain rest) := by
  unfold escape
  split
  · exact readStringBytes_letter (b := 0x22) rfl rest
  · exact readStringBytes_letter (b := 0x5C) rfl rest
  · exact readStringBytes_letter (b := 0x62) rfl rest
  · exact readStringBytes_letter (b := 0x74) rfl rest
  · exact readStringBytes_letter (b := 0x6E) rfl rest
  · exact readStringBytes_letter (b := 0x66) rfl rest
  · exact readStringBytes_letter (b := 0x72) rfl rest
  · next quote backslash _ _ _ _ _ =>
    split
    · next control =>
      rw [readStringBytes_unit control, ← Bytes.utf8EncodeChar_ofNat (by omega), Char.ofNat_toNat]
    · next control =>
      exact readStringBytes_plain (isPlain_utf8EncodeChar quote backslash control) rest

/-! ## Strings -/

theorem readStringBytes_flatMap (cs : List Char) (rest : Bytes) :
    readStringBytes .plain (cs.flatMap escape ++ Mark.quote :: rest)
      = .ok (cs.flatMap String.utf8EncodeChar, rest) := by
  induction cs with
  | nil => rfl
  | cons c cs ih =>
    rw [List.flatMap_cons, List.append_assoc, readStringBytes_escape, ih]
    rfl

/-- A string reads back. -/
theorem readString_write (s : String) (rest : Bytes) :
    ∃ body, writeString s ++ rest = Mark.quote :: body ∧ readString body = .ok (s, rest) := by
  have quote : Bytes.ascii '"' = Mark.quote := by decide
  refine ⟨s.toList.flatMap escape ++ Mark.quote :: rest, ?_, ?_⟩
  · simp only [writeString, quote, List.cons_append, List.append_assoc, List.nil_append]
  · have text : Bytes.text? (s.toList.flatMap String.utf8EncodeChar) = some s := by
      rw [← Bytes.ofString_eq, Bytes.text?_ofString]
    rw [readString, readStringBytes_flatMap]
    simp only [bind, Except.bind, text]

end SessionHub.Json
