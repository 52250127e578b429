import SessionHub.Proofs.Json.Prefixes

set_option autoImplicit false

/-! # Natural numbers in texts

A natural number is read exactly where a text starts with a numeral for it, of digits only and
without a zero in front, and does not go on with something that could belong to a number
(`read_natural_iff`). Each number has one numeral, the one that is written for it
(`isNumeral_iff_eq_write`), so that a text with blanks around a numeral says which number it is
(`Spells.unique`). -/

namespace SessionHub.Json

/-! ## Numerals -/

/-- Whether bytes are a decimal numeral: digits, of which the first is zero only if it is the only
    one. -/
structure IsNumeral (numeral : Bytes) : Prop where
  nonempty : numeral ≠ []
  digits : ∀ b ∈ numeral, Digits.isDigit b
  leading : numeral.head? = some Mark.zero → numeral.length = 1

/-- The number that a numeral stands for. -/
def numeralValue (numeral : Bytes) : Nat :=
  Number.continued 0 numeral

theorem isNumeral_write (n : Nat) : IsNumeral (Digits.write n) := by
  by_cases hn : 0 < n
  · obtain ⟨b, rest, eq, zero, -⟩ := Number.head_write hn
    refine ⟨?_, fun b hb => Digits.isDigit_of_mem_write hb, fun first => ?_⟩
    · simp [eq]
    · simp [eq, zero] at first
  · obtain rfl : n = 0 := by omega
    rw [Digits.write_of_lt (by decide)]
    exact ⟨by simp, List.forall_mem_singleton.mpr (by decide), fun _ => rfl⟩

theorem value_lt_ten {b : UInt8} (digit : Digits.isDigit b) : Digits.value b < 10 := by
  obtain ⟨n, small, rfl⟩ := Digits.eq_ofNat_of_isDigit digit
  rwa [Digits.value_ofNat small]

theorem eq_ofNat_value {b : UInt8} (digit : Digits.isDigit b) :
    b = UInt8.ofNat (0x30 + Digits.value b) := by
  obtain ⟨n, small, rfl⟩ := Digits.eq_ofNat_of_isDigit digit
  rw [Digits.value_ofNat small]

/-- Digits behind a number that is not zero are written as they stand. -/
theorem write_continued {m : Nat} (positive : 0 < m) {digits : Bytes}
    (all : ∀ b ∈ digits, Digits.isDigit b) :
    Digits.write (Number.continued m digits) = Digits.write m ++ digits := by
  induction digits generalizing m with
  | nil => exact (List.append_nil _).symm
  | cons b digits ih =>
    obtain ⟨digit, others⟩ := List.forall_mem_cons.mp all
    have small := value_lt_ten digit
    have large : 10 ≤ 10 * m + Digits.value b := by omega
    have tenth : (10 * m + Digits.value b) / 10 = m := by omega
    have last : (10 * m + Digits.value b) % 10 = Digits.value b := by omega
    have rest := ih (m := 10 * m + Digits.value b) (by omega) others
    calc Digits.write (Number.continued m (b :: digits))
      _ = Digits.write (10 * m + Digits.value b) ++ digits := rest
      _ = (Digits.write m ++ [b]) ++ digits := by
        rw [Digits.write_of_le large, tenth, last, ← eq_ofNat_value digit]
      _ = Digits.write m ++ b :: digits := by simp

/-- The numeral of a number is what is written for it. -/
theorem isNumeral_iff_eq_write {numeral : Bytes} {n : Nat} :
    IsNumeral numeral ∧ numeralValue numeral = n ↔ numeral = Digits.write n := by
  constructor
  · rintro ⟨isNumeral, rfl⟩
    cases numeral with
    | nil => exact absurd rfl isNumeral.nonempty
    | cons b digits =>
      obtain ⟨digit, others⟩ := List.forall_mem_cons.mp isNumeral.digits
      have first : Digits.write (Digits.value b) = [b] := by
        rw [Digits.write_of_lt (value_lt_ten digit), ← eq_ofNat_value digit]
      have step : numeralValue (b :: digits) = Number.continued (Digits.value b) digits := by
        simp [numeralValue, Number.continued]
      rw [step]
      by_cases zero : Digits.value b = 0
      · have leading : b = Mark.zero := by rw [eq_ofNat_value digit, zero]; rfl
        have alone := isNumeral.leading (congrArg some leading)
        obtain rfl : digits = [] := by simpa using alone
        exact first.symm
      · rw [write_continued (Nat.pos_of_ne_zero zero) others, first]
        rfl
  · rintro rfl
    exact ⟨isNumeral_write n, Number.continued_write n⟩

/-! ## Reading numerals -/

namespace Number

/-- Digits that are taken make up the number that they continue, which fits. -/
theorem exists_digits_of_extend (m : Nat) (s : Bytes) : ∃ digits,
    s = digits ++ (extend m s).2.2 ∧ (∀ b ∈ digits, Digits.isDigit b) ∧
      (extend m s).1 = continued m digits ∧ (m < UInt64.size → (extend m s).1 < UInt64.size) := by
  induction s generalizing m with
  | nil => exact ⟨[], rfl, nofun, rfl, id⟩
  | cons b s ih =>
    by_cases taken : (Digits.isDigit b && 10 * m + Digits.value b < UInt64.size) = true
    · obtain ⟨digit, fits⟩ := Bool.and_eq_true_iff.mp taken
      obtain ⟨digits, parts, all, value, small⟩ := ih (10 * m + Digits.value b)
      rw [extend, if_pos taken]
      refine ⟨b :: digits, congrArg (b :: ·) parts, List.forall_mem_cons.mpr ⟨digit, all⟩, value,
        fun _ => small (of_decide_eq_true fits)⟩
    · rw [extend, if_neg taken]
      exact ⟨[], rfl, nofun, rfl, id⟩

variable {isNegative : Bool} {m dropped : Nat} {s rest : Bytes} {n : UInt64}

/-- A natural number has no sign, no point and no exponent, and none of its digits is dropped. -/
theorem natural_of_readTail (read : readTail isNegative m dropped s = .ok (.natural n, rest)) :
    isNegative = false ∧ dropped = 0 ∧ n = m.toUInt64 ∧ rest = s ∧
      ∀ b r, s = b :: r → b ≠ Mark.point ∧ ¬ Mark.isExponent b := by
  have whole : dropped = 0 := Decidable.by_contra fun long => not_isInteger_readTail long read trivial
  subst whole
  have integer : ∀ {s : Bytes}, (.ok (ofInteger isNegative m, s) : Except Failure _) =
      .ok (.natural n, rest) → isNegative = false ∧ n = m.toUInt64 ∧ rest = s := by
    intro s same
    obtain ⟨number, rfl⟩ := Prod.mk.inj (Except.ok.inj same)
    unfold ofInteger at number
    split at number
    · split at number <;> cases number
    · next positive =>
      cases number
      exact ⟨Bool.not_eq_true _ ▸ positive, rfl, rfl⟩
  cases s with
  | nil =>
    obtain ⟨positive, value, left⟩ := integer read
    exact ⟨positive, rfl, value, left, nofun⟩
  | cons b s =>
    rw [readTail] at read
    split at read
    · exact absurd trivial (not_isInteger_readFraction read)
    · next point =>
      split at read
      · exact absurd trivial (not_isInteger_readExponent read)
      · next exponent =>
        obtain ⟨positive, value, left⟩ := integer read
        refine ⟨positive, rfl, value, left, fun c r same => ?_⟩
        cases same
        exact ⟨point, exponent⟩

theorem skipDigits_of_none (none : (skipDigits s).1 = 0) :
    (skipDigits s).2 = s ∧ ∀ b r, s = b :: r → ¬ Digits.isDigit b := by
  cases s with
  | nil => exact ⟨rfl, nofun⟩
  | cons c s =>
    by_cases digit : Digits.isDigit c
    · simp [skipDigits, digit] at none
    · refine ⟨by simp [skipDigits, digit], fun b r same => ?_⟩
      cases same
      exact digit

theorem numeral_of_readUnsigned (read : readUnsigned isNegative s = .ok (.natural n, rest)) :
    isNegative = false ∧ ∃ numeral, IsNumeral numeral ∧ numeralValue numeral = n.toNat ∧
      s = numeral ++ rest ∧ Apart rest := by
  cases s with
  | nil => cases read
  | cons b s =>
    unfold readUnsigned at read
    dsimp only at read
    split at read
    · next zero =>
      have tail : readTail isNegative 0 0 s = .ok (.natural n, rest) ∧
          ∀ c r, s = c :: r → ¬ Digits.isDigit c := by
        cases s with
        | nil => exact ⟨read, nofun⟩
        | cons c s =>
          dsimp only at read
          split at read
          · cases read
          · next digit =>
            refine ⟨read, fun d r same => ?_⟩
            cases same
            exact digit
      obtain ⟨positive, -, rfl, rfl, other⟩ := natural_of_readTail tail.1
      subst zero
      have lone : IsNumeral [Mark.zero] :=
        ⟨by simp, List.forall_mem_singleton.mpr rfl, fun _ => rfl⟩
      refine ⟨positive, [Mark.zero], lone, rfl, rfl, fun c r same => ?_⟩
      exact ⟨tail.2 c r same, other c r same⟩
    · next zero =>
      split at read
      · next digit =>
        obtain ⟨positive, none, value, left, other⟩ := natural_of_readTail read
        obtain ⟨digits, parts, all, taken, small⟩ := exists_digits_of_extend 0 (b :: s)
        -- nothing was dropped, so that the digits that were taken are all that there are
        obtain ⟨untouched, stopped⟩ := skipDigits_of_none none
        rw [untouched] at left other
        rw [← left] at parts stopped other
        have isNumeral : IsNumeral digits := by
          cases digits with
          | nil => exact absurd digit (stopped b s parts.symm)
          | cons c digits =>
            obtain ⟨rfl, -⟩ := List.cons.inj parts
            exact ⟨by simp, all, fun first => absurd (Option.some.inj first) zero⟩
        refine ⟨positive, digits, isNumeral, ?_, parts, fun c r same => ?_⟩
        · have fits : numeralValue digits < UInt64.size := by
            rw [numeralValue, ← taken]
            exact small (by decide)
          rw [value, taken]
          exact (Nat.mod_eq_of_lt fits).symm
        · exact ⟨stopped c r same, other c r same⟩
      · cases read

/-- A natural number is read exactly where there is a numeral for it that does not go on. -/
theorem read_natural_iff : read s = .ok (.natural n, rest) ↔
    ∃ numeral, IsNumeral numeral ∧ numeralValue numeral = n.toNat ∧ s = numeral ++ rest ∧
      Apart rest := by
  constructor
  · intro found
    cases s with
    | nil => cases found
    | cons b s =>
      rw [read] at found
      split at found
      · cases (numeral_of_readUnsigned found).1
      · exact (numeral_of_readUnsigned found).2
  · rintro ⟨numeral, isNumeral, value, rfl, apart⟩
    rw [isNumeral_iff_eq_write.mp ⟨isNumeral, value⟩]
    exact read_write (n := .natural n) trivial apart

end Number

/-! ## Texts of a number -/

/-- Whether a text is a numeral of `n` with blanks around it. -/
def Spells (s : Bytes) (n : Nat) : Prop :=
  ∃ before numeral after, s = before ++ numeral ++ after ∧ (∀ b ∈ before, Mark.isBlank b) ∧
    (∀ b ∈ after, Mark.isBlank b) ∧ IsNumeral numeral ∧ numeralValue numeral = n

theorem apart_of_blanks {s : Bytes} (blanks : ∀ b ∈ s, Mark.isBlank b) : Apart s := by
  rintro b r rfl
  have blank := blanks b List.mem_cons_self
  simp only [Mark.isBlank, Bool.or_eq_true, beq_iff_eq] at blank
  rcases blank with ((rfl | rfl) | rfl) | rfl <;> decide

/-- A numeral starts with a digit, where the blanks in front of it end. -/
theorem start_of_numeral {before numeral : Bytes} (blanks : ∀ b ∈ before, Mark.isBlank b)
    (isNumeral : IsNumeral numeral) (after : Bytes) : ∃ b digits, numeral = b :: digits ∧
      Digits.isDigit b ∧ skipBlank (before ++ numeral ++ after) = b :: (digits ++ after) := by
  cases numeral with
  | nil => exact absurd rfl isNumeral.nonempty
  | cons b digits =>
    have digit := isNumeral.digits b List.mem_cons_self
    have visible : Mark.isBlank b = false := by
      obtain ⟨n, small, rfl⟩ := Digits.eq_ofNat_of_isDigit digit
      clear digit isNumeral
      revert n
      decide
    exact ⟨b, digits, rfl, digit, skipBlank_eq_cons.mpr ⟨visible, before, blanks, by simp⟩⟩

/-- Blanks in front of a value do not matter. -/
theorem dispatch_of_skipBlank {α : Type} {scalar : Json → Except Failure α} {array object : Reader α}
    {s rest : Bytes} {b : UInt8} (found : skipBlank s = b :: rest) :
    dispatch scalar array object s = dispatch scalar array object (b :: rest) := by
  have visible := skipBlank_of_not_blank (skipBlank_eq_cons.mp found).1 rest
  rw [dispatch_of_value found, dispatch_of_value visible]

theorem number_of_readToken {b : UInt8} {s rest : Bytes} {n : Number}
    (read : readToken b s = .ok (number n, rest)) : Number.read (b :: s) = .ok (n, rest) := by
  unfold readToken at read
  -- the three words and strings are no numbers
  iterate 4
    split at read
    · obtain ⟨_, -, same⟩ := bind_eq_ok.mp read
      cases same
  split at read
  · obtain ⟨p, found, same⟩ := bind_eq_ok.mp read
    cases same
    exact found
  · cases read

/-- Where a number is sought, a text is read exactly if it spells a number that is wanted. -/
theorem readAll_eq_ok {α : Type} {sought : Sought} {scalar : Json → Except Failure α}
    (numbers : ∀ v a, scalar v = .ok a → ∃ n, v = number (.natural n)) {s : Bytes} {a : α} :
    readAll (readScalar sought scalar) s = .ok a ↔
      ∃ n : UInt64, Spells s n.toNat ∧ scalar (number (.natural n)) = .ok a := by
  constructor
  · intro read
    obtain ⟨⟨a', rest⟩, found, ended⟩ := bind_eq_ok.mp read
    obtain ⟨⟨⟩, blanks, same⟩ := bind_eq_ok.mp ended
    cases same
    cases start : skipBlank s with
    | nil =>
      rw [readScalar, dispatch, start] at found
      cases found
    | cons b r =>
      rw [readScalar, dispatch_of_value start] at found
      split at found
      · cases found
      · split at found
        · cases found
        · obtain ⟨⟨v, rest'⟩, token, settled⟩ := bind_eq_ok.mp found
          obtain ⟨taken, rfl⟩ := made_eq_ok.mp settled
          obtain ⟨n, rfl⟩ := numbers v a taken
          obtain ⟨numeral, isNumeral, value, parts, -⟩ :=
            Number.read_natural_iff.mp (number_of_readToken token)
          obtain ⟨-, before, blanks', whole⟩ := skipBlank_eq_cons.mp start
          refine ⟨n, ⟨before, numeral, rest', ?_, blanks', readEnd_eq_ok.mp blanks, isNumeral, value⟩,
            taken⟩
          rw [whole, parts, List.append_assoc]
  · rintro ⟨n, ⟨before, numeral, after, rfl, blanks, blanks', isNumeral, value⟩, taken⟩
    obtain ⟨b, digits, rfl, digit, start⟩ := start_of_numeral blanks isNumeral after
    have read : Number.read (b :: (digits ++ after)) = .ok (.natural n, after) :=
      Number.read_natural_iff.mpr ⟨b :: digits, isNumeral, value, rfl, apart_of_blanks blanks'⟩
    rw [readAll, readScalar, dispatch_of_skipBlank start, dispatch_number _ _ _ (.inr digit) read,
      made, taken]
    show (do
      readEnd after
      .ok a) = _
    rw [readEnd_eq_ok.mpr blanks']
    rfl

/-- A text spells one number at most. -/
theorem Spells.unique {s : Bytes} {n n' : Nat} (spelled : Spells s n) (spelled' : Spells s n') :
    n = n' := by
  have numeralOf : ∀ {s n}, Spells s n →
      n = numeralValue ((skipBlank s).takeWhile Digits.isDigit) := by
    rintro s n ⟨before, numeral, after, rfl, blanks, blanks', isNumeral, rfl⟩
    obtain ⟨b, digits, rfl, -, start⟩ := start_of_numeral blanks isNumeral after
    have ended : after.takeWhile Digits.isDigit = [] := by
      cases after with
      | nil => rfl
      | cons c after =>
        exact List.takeWhile_cons_of_neg (apart_of_blanks blanks' c after rfl).1
    rw [start, ← List.cons_append, List.takeWhile_append_of_pos isNumeral.digits, ended,
      List.append_nil]
  rw [numeralOf spelled, numeralOf spelled']

end SessionHub.Json
