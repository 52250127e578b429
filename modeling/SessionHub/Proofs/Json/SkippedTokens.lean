import SessionHub.Json.Skip
import SessionHub.Proofs.Json.Prefixes

set_option autoImplicit false

/-! # Tokens that are skipped

The scanner that passes over a value that is not asked for shares no code with the reader of values:
it has states of its own for strings, which know nothing of surrogates, and a grammar of its own for
numbers, which knows nothing of their size. Every string and every number that is read is passed
over, and nothing of what comes behind it (`skipScalar_of_readToken`). -/

namespace SessionHub.Json

/-! ## Strings -/

/-- Where the scanner stands when the reader of strings does. The first half of a pair of surrogates
    is nothing special to it. -/
def StringState.skipping : StringState → SkipState
  | plain => .plain
  | escape => .escape
  | unit _ seen => .unit seen
  | pair _ => .plain
  | pairEscape _ => .escape

theorem skipping_of_unitMeaning {high : Option Nat} {digits front : Bytes} {next : StringState}
    (meaning : unitMeaning high digits = .ok (front, next)) :
    (hexNumber? digits).isSome ∧ next.skipping = .plain := by
  unfold unitMeaning at meaning
  split at meaning
  · cases meaning
  · next found =>
    refine ⟨by rw [found]; rfl, ?_⟩
    split at meaning
    · split at meaning
      · cases meaning
      · split at meaning
        · exact (Prod.mk.inj (Except.ok.inj meaning)).2 ▸ rfl
        · exact (Prod.mk.inj (Except.ok.inj meaning)).2 ▸ rfl
    · split at meaning
      · exact (Prod.mk.inj (Except.ok.inj meaning)).2 ▸ rfl
      · cases meaning

/-- A step of the reader is a step of the scanner. -/
theorem skipString_step {state next : StringState} {b : UInt8} {front : Bytes}
    (goes : state.endsAt b = false) (step : stringStep state b = .ok (front, next)) (s : Bytes) :
    skipString state.skipping (b :: s) = skipString next.skipping s := by
  cases state with
  | plain =>
    have quote : b ≠ Mark.quote := by simpa [StringState.endsAt] using goes
    simp only [stringStep] at step
    simp only [StringState.skipping, skipString, if_neg quote]
    split at step
    · next backslash =>
      cases step
      exact if_pos backslash
    · next backslash =>
      rw [if_neg backslash]
      split at step
      · cases step
      · next control =>
        cases step
        exact if_neg control
  | escape =>
    simp only [stringStep] at step
    simp only [StringState.skipping, skipString]
    split at step
    · next letter =>
      cases step
      rw [letter]
      rfl
    · next letter =>
      rw [letter]
      split at step
      · next unit =>
        cases step
        exact if_pos unit
      · cases step
  | unit high seen =>
    simp only [stringStep] at step
    show skipString (.unit seen) (b :: s) = _
    rw [skipString]
    split at step
    · next short =>
      cases step
      exact if_pos short
    · next short =>
      obtain ⟨number, plain⟩ := skipping_of_unitMeaning step
      rw [if_neg short, if_pos number, plain]
  | pair high =>
    simp only [stringStep] at step
    split at step
    · next backslash =>
      cases step
      rw [backslash]
      rfl
    · cases step
  | pairEscape high =>
    simp only [stringStep] at step
    split at step
    · next unit =>
      cases step
      rw [unit]
      rfl
    · cases step

theorem skipString_of_readStringBytes {state : StringState} {s rest bytes : Bytes}
    (read : readStringBytes state s = .ok (bytes, rest)) :
    skipString state.skipping s = .ok rest := by
  induction s generalizing state bytes with
  | nil => cases state <;> cases read
  | cons b s ih =>
    rw [readStringBytes] at read
    split at read
    · next ends =>
      -- only a quote between characters ends a string
      cases state with
      | plain =>
        cases read
        exact if_pos (by simpa [StringState.endsAt] using ends)
      | _ => cases ends
    · next goes =>
      obtain ⟨⟨front, next⟩, step, read⟩ := bind_eq_ok.mp read
      obtain ⟨⟨more, rest'⟩, others, same⟩ := bind_eq_ok.mp read
      cases same
      rw [skipString_step (Bool.not_eq_true _ ▸ goes) step]
      exact ih others

theorem skipString_of_readString {s rest : Bytes} {t : String}
    (read : readString s = .ok (t, rest)) : skipString .plain s = .ok rest := by
  obtain ⟨⟨bytes, rest'⟩, inside, decoded⟩ := bind_eq_ok.mp read
  have skipped := skipString_of_readStringBytes inside
  dsimp only at decoded
  split at decoded
  · cases decoded
    exact skipped
  · cases decoded

/-! ## Numbers -/

namespace Number

theorem skipDigits_of_digit {b : UInt8} (digit : Digits.isDigit b) (s : Bytes) :
    skipDigits (b :: s) = ((skipDigits s).1 + 1, (skipDigits s).2) := by
  simp only [skipDigits, digit, if_true]

/-- Digits that are taken and digits that are dropped are passed over alike. -/
theorem skipDigits_extend (m : Nat) (s : Bytes) :
    (skipDigits (extend m s).2.2).2 = (skipDigits s).2 := by
  induction s generalizing m with
  | nil => rfl
  | cons b s ih =>
    by_cases taken : (Digits.isDigit b && 10 * m + Digits.value b < UInt64.size) = true
    · have digit : Digits.isDigit b = true := (Bool.and_eq_true_iff.mp taken).1
      rw [extend, if_pos taken, skipDigits_of_digit digit, ← ih (10 * m + Digits.value b)]
    · simp only [extend, taken, Bool.false_eq_true, if_false]

theorem readDigits_eq_skipDigits (n : Nat) (s : Bytes) : (readDigits n s).2 = (skipDigits s).2 := by
  induction s generalizing n with
  | nil => rfl
  | cons b s ih =>
    by_cases digit : Digits.isDigit b = true
    · simp only [readDigits, skipDigits, digit, if_true, ih]
    · simp only [readDigits, skipDigits, digit, Bool.false_eq_true, if_false]

/-- A sign in front of the digits of an exponent is passed over. -/
theorem skipExponent_of_digit {s r : Bytes} {b : UInt8} (signed : (exponentSign s).2 = b :: r)
    (digit : Digits.isDigit b) : skipExponent s = .ok (skipDigits r).2 := by
  cases s with
  | nil => cases signed
  | cons c s =>
    have digits : (if c = Mark.plus || c = Mark.minus then s else c :: s) = b :: r := by
      simp only [exponentSign] at signed
      by_cases plus : c = Mark.plus
      · rw [if_pos plus] at signed
        simpa [plus] using signed
      · rw [if_neg plus] at signed
        by_cases minus : c = Mark.minus
        · simpa [minus] using signed
        · simpa [plus, minus] using signed
    unfold skipExponent
    dsimp only
    rw [digits, skipDigits_of_digit digit]
    rfl

variable {isNegative : Bool} {m dropped : Nat} {exponent : Int} {s rest : Bytes} {n : Number}

theorem skipExponent_of_read (read : readExponent isNegative m exponent s = .ok (n, rest)) :
    skipExponent s = .ok rest := by
  rw [readExponent_eq] at read
  cases signed : (exponentSign s).2 with
  | nil =>
    rw [signed] at read
    cases read
  | cons b r =>
    rw [signed, readScaled] at read
    split at read
    · next digit =>
      obtain ⟨x, -, same⟩ := bind_eq_ok.mp read
      cases same
      rw [skipExponent_of_digit signed digit, readDigits_eq_skipDigits, skipDigits_of_digit digit]
    · cases read

/-- What the scanner makes of the digits of a fraction and of what follows them. -/
theorem skipTail_of_point {b : UInt8} (digit : Digits.isDigit b) (s : Bytes) :
    skipTail (Mark.point :: b :: s) = match (skipDigits s).2 with
      | [] => .ok []
      | c :: rest => if Mark.isExponent c then skipExponent rest else .ok (c :: rest) := by
  unfold skipTail
  dsimp only
  rw [if_pos rfl, skipDigits_of_digit digit]
  cases (skipDigits s).2 <;> rfl

theorem skipTail_of_readFraction (read : readFraction isNegative m exponent s = .ok (n, rest)) :
    skipTail (Mark.point :: s) = .ok rest := by
  cases s with
  | nil => cases read
  | cons b s =>
    rw [readFraction] at read
    split at read
    · next digit =>
      rw [skipTail_of_point digit]
      have left := skipDigits_extend m (b :: s)
      rw [skipDigits_of_digit digit] at left
      dsimp only at read left
      rw [left] at read
      cases after : (skipDigits s).2 with
      | nil =>
        rw [after] at read
        obtain ⟨x, -, same⟩ := bind_eq_ok.mp read
        cases same
        rfl
      | cons c r =>
        rw [after] at read
        dsimp only at read ⊢
        split at read
        · next letter =>
          rw [if_pos letter]
          exact skipExponent_of_read read
        · next letter =>
          obtain ⟨x, -, same⟩ := bind_eq_ok.mp read
          cases same
          exact if_neg letter
    · cases read

theorem skipTail_of_readTail (read : readTail isNegative m dropped s = .ok (n, rest)) :
    skipTail s = .ok rest := by
  have integer : ∀ {s : Bytes}, (if dropped = 0 then .ok (ofInteger isNegative m, s)
      else (do .ok (float (← ofParts isNegative m dropped), s)) : Except Failure _) = .ok (n, rest) →
      s = rest := by
    intro s read
    split at read
    · cases read
      rfl
    · obtain ⟨x, -, same⟩ := bind_eq_ok.mp read
      cases same
      rfl
  cases s with
  | nil => exact congrArg Except.ok (integer read)
  | cons b s =>
    rw [readTail] at read
    split at read
    · next point =>
      rw [point]
      exact skipTail_of_readFraction read
    · next point =>
      rw [skipTail, if_neg point]
      split at read
      · next letter =>
        rw [if_pos letter]
        exact skipExponent_of_read read
      · next letter =>
        rw [if_neg letter]
        exact congrArg Except.ok (integer read)

theorem skipUnsigned_of_readUnsigned (read : readUnsigned isNegative s = .ok (n, rest)) :
    skipUnsigned s = .ok rest := by
  cases s with
  | nil => cases read
  | cons b s =>
    unfold readUnsigned at read
    rw [skipUnsigned]
    dsimp only at read
    split at read
    · next zero =>
      rw [if_pos zero]
      cases s with
      | nil => exact (if_pos rfl).trans (skipTail_of_readTail read)
      | cons c s =>
        dsimp only at read
        split at read
        · cases read
        · next digit =>
          have none : (skipDigits (c :: s)).1 = 0 := by simp [skipDigits, digit]
          rw [if_pos none]
          exact skipTail_of_readTail read
    · next zero =>
      rw [if_neg zero]
      split at read
      · next digit =>
        rw [if_pos digit]
        have left := skipDigits_extend 0 (b :: s)
        rw [skipDigits_of_digit digit] at left
        have tail := skipTail_of_readTail read
        rwa [left] at tail
      · cases read

end Number

/-! ## Scalars -/

theorem skipScalar_of_readToken {b : UInt8} {s rest : Bytes} {v : Json}
    (read : readToken b s = .ok (v, rest)) : skipScalar b s = .ok rest := by
  have word : ∀ {v' : Json} {text : Bytes},
      (do .ok (v', ← readWord text s) : Except Failure (Json × Bytes)) = .ok (v, rest) →
        readWord text s = .ok rest := by
    intro v' text read
    obtain ⟨rest', taken, same⟩ := bind_eq_ok.mp read
    cases same
    exact taken
  unfold readToken at read
  unfold skipScalar
  split at read
  · next n => exact (if_pos n).trans (word read)
  · next n =>
    rw [if_neg n]
    split at read
    · next t => exact (if_pos t).trans (word read)
    · next t =>
      rw [if_neg t]
      split at read
      · next f => exact (if_pos f).trans (word read)
      · next f =>
        rw [if_neg f]
        split at read
        · next quote =>
          rw [if_pos quote]
          obtain ⟨⟨t, rest'⟩, string, same⟩ := bind_eq_ok.mp read
          cases same
          exact skipString_of_readString string
        · next quote =>
          rw [if_neg quote]
          split at read
          · next starts =>
            obtain ⟨⟨n, rest'⟩, number, same⟩ := bind_eq_ok.mp read
            cases same
            rw [Number.read] at number
            split at number
            · next minus =>
              rw [if_pos minus]
              exact Number.skipUnsigned_of_readUnsigned number
            · next minus =>
              have digit : Digits.isDigit b := by simpa [minus] using starts
              rw [if_neg minus, if_pos digit]
              exact Number.skipUnsigned_of_readUnsigned number
          · cases read

/-! ## What is left over -/

section Lengths

variable {s rest : Bytes}

theorem length_skipBlank_le (s : Bytes) : (skipBlank s).length ≤ s.length := by
  cases found : skipBlank s with
  | nil => exact Nat.zero_le _
  | cons b rest =>
    obtain ⟨-, before, -, parts⟩ := skipBlank_eq_cons.mp found
    rw [parts, List.length_append]
    exact Nat.le_add_left _ _

theorem length_skipDigits_le (s : Bytes) : (skipDigits s).2.length ≤ s.length := by
  induction s with
  | nil => exact Nat.le_refl _
  | cons b s ih =>
    by_cases digit : Digits.isDigit b = true
    · rw [Number.skipDigits_of_digit digit]
      exact Nat.le_succ_of_le ih
    · simp [skipDigits, digit]

theorem length_readWord_le {word : Bytes} (read : readWord word s = .ok rest) :
    rest.length ≤ s.length := by
  induction word generalizing s with
  | nil =>
    cases read
    exact Nat.le_refl _
  | cons w word ih =>
    cases s with
    | nil => cases read
    | cons b s =>
      rw [readWord] at read
      split at read
      · exact Nat.le_succ_of_le (ih read)
      · cases read

theorem length_skipString_le {state : SkipState} (skipped : skipString state s = .ok rest) :
    rest.length ≤ s.length := by
  induction s generalizing state with
  | nil => cases state <;> cases skipped
  | cons b s ih =>
    refine Nat.le_succ_of_le ?_
    cases state with
    | plain =>
      rw [skipString] at skipped
      split at skipped
      · cases skipped
        exact Nat.le_refl _
      · split at skipped
        · exact ih skipped
        · split at skipped
          · cases skipped
          · exact ih skipped
    | escape =>
      rw [skipString] at skipped
      split at skipped
      · exact ih skipped
      · split at skipped
        · exact ih skipped
        · cases skipped
    | unit seen =>
      rw [skipString] at skipped
      split at skipped
      · exact ih skipped
      · split at skipped
        · exact ih skipped
        · cases skipped

theorem length_skipExponent_le (skipped : skipExponent s = .ok rest) : rest.length ≤ s.length := by
  have passed : ∀ {t : Bytes} {n : Nat} {left : Bytes}, skipDigits t = (n, left) →
      left.length ≤ t.length := by
    intro t n left digits
    have shorter := length_skipDigits_le t
    rwa [digits] at shorter
  unfold skipExponent at skipped
  cases s with
  | nil =>
    dsimp only at skipped
    split at skipped
    · cases skipped
    · next digits =>
      cases skipped
      exact passed digits
  | cons b s =>
    dsimp only at skipped
    split at skipped
    · cases skipped
    · next digits =>
      cases skipped
      have shorter := passed digits
      split at shorter
      · exact Nat.le_succ_of_le shorter
      · exact shorter

theorem length_skipTail_le (skipped : skipTail s = .ok rest) : rest.length ≤ s.length := by
  cases s with
  | nil =>
    cases skipped
    exact Nat.le_refl _
  | cons b s =>
    rw [skipTail] at skipped
    have shorter := length_skipDigits_le s
    split at skipped
    · refine Nat.le_succ_of_le (Nat.le_trans ?_ shorter)
      split at skipped
      · cases skipped
      · cases skipped
        exact Nat.zero_le _
      · next n c rest' _ left =>
        rw [left]
        split at skipped
        · exact Nat.le_succ_of_le (length_skipExponent_le skipped)
        · cases skipped
          exact Nat.le_refl _
    · split at skipped
      · exact Nat.le_succ_of_le (length_skipExponent_le skipped)
      · cases skipped
        exact Nat.le_refl _

theorem length_skipUnsigned_lt (skipped : skipUnsigned s = .ok rest) : rest.length < s.length := by
  cases s with
  | nil => cases skipped
  | cons b s =>
    rw [skipUnsigned] at skipped
    refine Nat.lt_succ_of_le ?_
    split at skipped
    · split at skipped
      · exact length_skipTail_le skipped
      · cases skipped
    · split at skipped
      · exact Nat.le_trans (length_skipTail_le skipped) (length_skipDigits_le s)
      · cases skipped

theorem length_skipScalar_le {b : UInt8} (skipped : skipScalar b s = .ok rest) :
    rest.length ≤ s.length := by
  unfold skipScalar at skipped
  iterate 3
    split at skipped
    · exact length_readWord_le skipped
  split at skipped
  · exact length_skipString_le skipped
  · split at skipped
    · exact Nat.le_of_lt (length_skipUnsigned_lt skipped)
    · split at skipped
      · exact Nat.le_of_lt_succ (length_skipUnsigned_lt skipped)
      · cases skipped

theorem length_lt_of_skipBlank {b : UInt8} (found : skipBlank s = b :: rest) :
    rest.length < s.length := by
  have shorter := length_skipBlank_le s
  rwa [found] at shorter

theorem length_readColon_le (read : readColon s = .ok rest) : rest.length ≤ s.length := by
  unfold readColon at read
  split at read
  · cases read
  · next b rest' found =>
    split at read
    · cases read
      exact Nat.le_of_lt (length_lt_of_skipBlank found)
    · cases read

theorem length_skipName_le {bracket : Bracket} (skipped : bracket.skipName s = .ok rest) :
    rest.length ≤ s.length := by
  cases bracket with
  | list =>
    cases skipped
    exact Nat.le_refl _
  | object =>
    rw [Bracket.skipName] at skipped
    split at skipped
    · cases skipped
    · next b r found =>
      split at skipped
      · obtain ⟨r', string, colon⟩ := bind_eq_ok.mp skipped
        exact Nat.le_trans (length_readColon_le colon) (Nat.le_trans (length_skipString_le string)
          (Nat.le_of_lt (length_lt_of_skipBlank found)))
      · cases skipped

end Lengths

end SessionHub.Json
