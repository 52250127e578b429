import SessionHub.Json.Numeral
import SessionHub.Proofs.Json.Outcomes

set_option autoImplicit false

/-! # Numbers at the end of a text

A number takes all the digits that there are, so that one that ends with the text may go on. It is
the same number if anything follows that is none of it. And it may be refused because it is too
large, though an exponent that is yet to come would scale it down; but whatever comes then is a
double (`read_foretells`). -/

namespace SessionHub.Json.Number

/-! ## Digits -/

theorem skipDigits_append {s : Bytes} (more : Bytes) (stopped : (skipDigits s).2 ≠ []) :
    skipDigits (s ++ more) = ((skipDigits s).1, (skipDigits s).2 ++ more) := by
  induction s with
  | nil => exact absurd rfl stopped
  | cons b s ih =>
    rw [List.cons_append, skipDigits]
    by_cases digit : Digits.isDigit b
    · simp only [skipDigits, digit, if_true] at stopped ⊢
      rw [ih stopped]
    · simp [skipDigits, digit]

theorem le_skipDigits_append (s more : Bytes) : (skipDigits s).1 ≤ (skipDigits (s ++ more)).1 := by
  induction s with
  | nil => exact Nat.zero_le _
  | cons b s ih =>
    rw [List.cons_append]
    by_cases digit : Digits.isDigit b
    · simpa [skipDigits, digit] using ih
    · simp [skipDigits, digit]

theorem readDigits_append {n : Nat} {s : Bytes} (more : Bytes) (stopped : (readDigits n s).2 ≠ []) :
    readDigits n (s ++ more) = ((readDigits n s).1, (readDigits n s).2 ++ more) := by
  induction s generalizing n with
  | nil => exact absurd rfl stopped
  | cons b s ih =>
    rw [List.cons_append, readDigits]
    by_cases digit : Digits.isDigit b
    · simp only [readDigits, digit, if_true] at stopped ⊢
      rw [ih stopped]
    · simp [readDigits, digit]

theorem extend_append_more {m : Nat} {s : Bytes} (more : Bytes) (stopped : (extend m s).2.2 ≠ []) :
    extend m (s ++ more) = ((extend m s).1, (extend m s).2.1, (extend m s).2.2 ++ more) := by
  induction s generalizing m with
  | nil => exact absurd rfl stopped
  | cons b s ih =>
    rw [List.cons_append]
    by_cases taken : (Digits.isDigit b && 10 * m + Digits.value b < UInt64.size) = true
    · simp only [extend, taken, if_true] at stopped ⊢
      rw [ih stopped]
    · have stays : ∀ t : Bytes, extend m (b :: t) = (m, 0, b :: t) := fun t => by
        rw [extend, if_neg taken]
      rw [stays, stays, List.cons_append]

/-! ## Doubles -/

variable {isNegative : Bool} {m dropped : Nat} {exponent : Int} {s rest : Bytes} {n : Number}

theorem not_isInteger_of_double {parts : Except Failure Float} {rest' : Bytes}
    (read : (do .ok (float (← parts), rest') : Except Failure _) = .ok (n, rest)) :
    ¬ n.IsInteger := by
  obtain ⟨x, -, same⟩ := bind_eq_ok.mp read
  cases same
  exact id

theorem not_isInteger_readExponent
    (read : readExponent isNegative m exponent s = .ok (n, rest)) : ¬ n.IsInteger := by
  unfold readExponent at read
  dsimp only at read
  split at read
  · cases read
  · split at read
    · exact not_isInteger_of_double read
    · cases read

theorem not_isInteger_readFraction
    (read : readFraction isNegative m exponent s = .ok (n, rest)) : ¬ n.IsInteger := by
  unfold readFraction at read
  dsimp only at read
  split at read
  · cases read
  · split at read
    · split at read
      · exact not_isInteger_of_double read
      · split at read
        · exact not_isInteger_readExponent read
        · exact not_isInteger_of_double read
    · cases read

theorem not_isInteger_readTail (long : dropped ≠ 0)
    (read : readTail isNegative m dropped s = .ok (n, rest)) : ¬ n.IsInteger := by
  unfold readTail at read
  dsimp only at read
  rw [if_neg long] at read
  split at read
  · exact not_isInteger_of_double read
  · split at read
    · exact not_isInteger_readFraction read
    · split at read
      · exact not_isInteger_readExponent read
      · exact not_isInteger_of_double read

/-! ## What is followed by something else -/

/-- Whether an exponent goes down, and what follows its sign. -/
def exponentSign (s : Bytes) : Bool × Bytes :=
  match s with
  | b :: rest =>
    if b = Mark.plus then (false, rest) else if b = Mark.minus then (true, rest) else (false, s)
  | [] => (false, s)

/-- The double that is read when the digits of the exponent are. -/
def readScaled (isNegative : Bool) (m : Nat) (exponent : Int) (down : Bool) (s : Bytes) :
    Except Failure (Number × Bytes) :=
  match s with
  | [] => refuse (.endOfText .value)
  | b :: _ =>
    if Digits.isDigit b then do
      let x ← ofParts isNegative m
        (if down then exponent - (readDigits 0 s).1 else exponent + (readDigits 0 s).1)
      .ok (float x, (readDigits 0 s).2)
    else refuse .invalidNumber

theorem readExponent_eq : readExponent isNegative m exponent s =
    readScaled isNegative m exponent (exponentSign s).1 (exponentSign s).2 := rfl

theorem readScaled_append {down : Bool} (more : Bytes)
    (read : readScaled isNegative m exponent down s = .ok (n, rest)) (left : rest ≠ []) :
    readScaled isNegative m exponent down (s ++ more) = .ok (n, rest ++ more) := by
  cases s with
  | nil => cases read
  | cons b s =>
    rw [readScaled] at read
    split at read
    · next digit =>
      obtain ⟨x, parts, same⟩ := bind_eq_ok.mp read
      cases same
      have digits := readDigits_append more left
      rw [List.cons_append] at digits ⊢
      rw [readScaled, if_pos digit, digits, parts]
      rfl
    · cases read

theorem exponentSign_append (b : UInt8) (s more : Bytes) : exponentSign (b :: s ++ more) =
    ((exponentSign (b :: s)).1, (exponentSign (b :: s)).2 ++ more) := by
  rw [List.cons_append]
  simp only [exponentSign]
  split
  · rfl
  · split <;> rfl

theorem readExponent_append (more : Bytes)
    (read : readExponent isNegative m exponent s = .ok (n, rest)) (left : rest ≠ []) :
    readExponent isNegative m exponent (s ++ more) = .ok (n, rest ++ more) := by
  cases s with
  | nil => cases read
  | cons b s =>
    rw [readExponent_eq] at read ⊢
    rw [exponentSign_append]
    exact readScaled_append more read left

/-- Digits that are taken, and those after them that are dropped, stay so if something follows. -/
theorem digits_append (more : Bytes) (stopped : (skipDigits (extend m s).2.2).2 ≠ []) :
    extend m (s ++ more) = ((extend m s).1, (extend m s).2.1, (extend m s).2.2 ++ more) ∧
    skipDigits ((extend m s).2.2 ++ more) =
      ((skipDigits (extend m s).2.2).1, (skipDigits (extend m s).2.2).2 ++ more) := by
  have stopped' : (extend m s).2.2 ≠ [] := by
    intro done
    rw [done] at stopped
    exact stopped rfl
  exact ⟨extend_append_more more stopped', skipDigits_append more stopped⟩

theorem readFraction_append (more : Bytes)
    (read : readFraction isNegative m exponent s = .ok (n, rest)) (left : rest ≠ []) :
    readFraction isNegative m exponent (s ++ more) = .ok (n, rest ++ more) := by
  cases s with
  | nil => cases read
  | cons b s =>
    by_cases digit : Digits.isDigit b
    · simp only [readFraction, List.cons_append, digit, if_true] at read ⊢
      cases after : (skipDigits (extend m (b :: s)).2.2).2 with
      | nil =>
        simp only [after] at read
        obtain ⟨x, -, same⟩ := bind_eq_ok.mp read
        cases same
        exact absurd rfl left
      | cons c r =>
        obtain ⟨taken, dropped⟩ := digits_append more (after ▸ List.cons_ne_nil c r)
        rw [List.cons_append] at taken
        simp only [after] at read
        simp only [taken, dropped, after, List.cons_append]
        split at read
        · next exponent => exact (if_pos exponent).trans (readExponent_append more read left)
        · next other =>
          obtain ⟨x, parts, same⟩ := bind_eq_ok.mp read
          cases same
          rw [if_neg other, parts]
          rfl
    · simp only [readFraction, digit] at read
      cases read

theorem readTail_append (more : Bytes)
    (read : readTail isNegative m dropped s = .ok (n, rest)) (left : rest ≠ []) :
    readTail isNegative m dropped (s ++ more) = .ok (n, rest ++ more) := by
  cases s with
  | nil =>
    simp only [readTail] at read
    split at read
    · cases read
      exact absurd rfl left
    · obtain ⟨x, -, same⟩ := bind_eq_ok.mp read
      cases same
      exact absurd rfl left
  | cons b s =>
    simp only [readTail, List.cons_append] at read ⊢
    split at read
    · next point => exact (if_pos point).trans (readFraction_append more read left)
    · next point =>
      rw [if_neg point]
      split at read
      · next exponent => exact (if_pos exponent).trans (readExponent_append more read left)
      · next exponent =>
        rw [if_neg exponent]
        split at read
        · next whole =>
          cases read
          exact if_pos whole
        · next whole =>
          obtain ⟨x, parts, same⟩ := bind_eq_ok.mp read
          cases same
          rw [if_neg whole, parts]
          rfl

/-- What may follow the digits in front of the point decides by itself, unless digits were dropped:
    then all that comes is a double. -/
theorem readTail_foretells (isNegative : Bool) (m dropped : Nat) (s more : Bytes) :
    Foretells False IsInteger more (readTail isNegative m dropped s)
      (readTail isNegative m dropped (s ++ more)) := by
  by_cases whole : dropped = 0
  · subst whole
    cases s with
    | nil => exact .atEnd _ id
    | cons b s =>
      simp only [readTail, List.cons_append]
      split
      · exact .of_never (fun v rest => not_isInteger_readFraction)
          fun v rest => readFraction_append more
      · split
        · exact .of_never (fun v rest => not_isInteger_readExponent)
            fun v rest => readExponent_append more
        · exact .read _ _
  · exact .of_never (fun v rest => not_isInteger_readTail whole) fun v rest => readTail_append more

/-- More digits may follow where a text ends in digits. Where some were dropped, it is a double. -/
theorem digits_foretells (isNegative : Bool) (s more : Bytes) :
    Foretells False IsInteger more
      (readTail isNegative (extend 0 s).1 (skipDigits (extend 0 s).2.2).1
        (skipDigits (extend 0 s).2.2).2)
      (readTail isNegative (extend 0 (s ++ more)).1 (skipDigits (extend 0 (s ++ more)).2.2).1
        (skipDigits (extend 0 (s ++ more)).2.2).2) := by
  cases after : (skipDigits (extend 0 s).2.2).2 with
  | cons c rest =>
    obtain ⟨taken, dropped⟩ := digits_append more (after ▸ List.cons_ne_nil c rest)
    simp only [taken, dropped, after]
    exact readTail_foretells isNegative _ _ (c :: rest) more
  | nil =>
    by_cases whole : (skipDigits (extend 0 s).2.2).1 = 0
    · simp only [readTail, whole, if_true]
      exact .atEnd _ id
    · have stopped : (extend 0 s).2.2 ≠ [] := by
        intro done
        rw [done] at whole
        exact whole rfl
      have dropped := le_skipDigits_append (extend 0 s).2.2 more
      rw [extend_append_more more stopped]
      refine .of_never (fun v rest => not_isInteger_readTail (by dsimp only; omega))
        fun v rest read left => ?_
      simp only [readTail, whole, if_false] at read
      obtain ⟨x, -, same⟩ := bind_eq_ok.mp read
      cases same
      exact absurd rfl left

theorem readUnsigned_foretells (isNegative : Bool) (s more : Bytes) :
    Foretells False IsInteger more (readUnsigned isNegative s)
      (readUnsigned isNegative (s ++ more)) := by
  cases s with
  | nil => exact .breaksOff .value
  | cons b s =>
    simp only [readUnsigned, List.cons_append]
    split
    · cases s with
      | nil => exact .atEnd _ id
      | cons c s =>
        simp only [List.cons_append]
        split
        · exact .refused _ nofun
        · exact readTail_foretells isNegative 0 0 (c :: s) more
    · split
      · exact digits_foretells isNegative (b :: s) more
      · exact .refused _ nofun

theorem read_foretells (s more : Bytes) :
    Foretells False IsInteger more (read s) (read (s ++ more)) := by
  cases s with
  | nil => exact .breaksOff .value
  | cons b s =>
    rw [List.cons_append, read, read]
    split
    · exact readUnsigned_foretells true s more
    · exact readUnsigned_foretells false (b :: s) more

end SessionHub.Json.Number
