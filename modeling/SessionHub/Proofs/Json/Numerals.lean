import SessionHub.Json.Numeral
import SessionHub.Proofs.Json.Digits

set_option autoImplicit false

/-! # Numbers read back

An integer that is written and then read is the same integer, if what follows is not taken for more
of it (`read_write`). -/

namespace SessionHub.Json

/-- Whether a text does not go on with something that could belong to a number in front of it. -/
def Apart (s : Bytes) : Prop :=
  ∀ b rest, s = b :: rest → ¬ Digits.isDigit b ∧ b ≠ Mark.point ∧ ¬ Mark.isExponent b

theorem apart_cons {b : UInt8} {rest : Bytes} (digit : ¬ Digits.isDigit b) (point : b ≠ Mark.point)
    (exponent : ¬ Mark.isExponent b) : Apart (b :: rest) := by
  intro c rest' h
  cases h
  exact ⟨digit, point, exponent⟩

namespace Number

/-- The number that `m` continued by some digits is. -/
def continued (m : Nat) (digits : Bytes) : Nat :=
  digits.foldl (fun n b => 10 * n + Digits.value b) m

theorem le_continued (m : Nat) (digits : Bytes) : m ≤ continued m digits := by
  induction digits generalizing m with
  | nil => exact Nat.le_refl m
  | cons b digits ih =>
    have := ih (10 * m + Digits.value b)
    exact Nat.le_trans (by omega) this

theorem continued_write (n : Nat) : continued 0 (Digits.write n) = n := by
  induction n using Nat.strongRecOn with
  | ind n ih =>
    by_cases hn : n < 10
    · rw [Digits.write_of_lt hn, continued, List.foldl_cons, List.foldl_nil, Digits.value_ofNat hn]
      omega
    · have tenth := ih (n / 10) (by omega)
      rw [continued] at tenth
      rw [Digits.write_of_le (Nat.not_lt.mp hn), continued, List.foldl_append, tenth,
        List.foldl_cons, List.foldl_nil, Digits.value_ofNat (Nat.mod_lt n (by decide))]
      omega

/-- Digits are taken as long as the number fits. -/
theorem extend_append {m : Nat} {digits rest : Bytes} (all : ∀ b ∈ digits, Digits.isDigit b)
    (fits : continued m digits < UInt64.size) (apart : Apart rest) :
    extend m (digits ++ rest) = (continued m digits, digits.length, rest) := by
  induction digits generalizing m with
  | nil =>
    cases rest with
    | nil => rfl
    | cons b rest => simp [extend, (apart b rest rfl).1, continued]
  | cons b digits ih =>
    have digit := all b List.mem_cons_self
    have fits' : 10 * m + Digits.value b < UInt64.size :=
      Nat.lt_of_le_of_lt (le_continued _ digits) fits
    rw [List.cons_append, extend, digit]
    simp only [fits', decide_true, Bool.and_self, if_true,
      ih (fun c hc => all c (List.mem_cons_of_mem b hc)) fits]
    rfl

theorem readTail_of_apart (isNegative : Bool) (m : Nat) {rest : Bytes} (apart : Apart rest) :
    readTail isNegative m 0 rest = .ok (ofInteger isNegative m, rest) := by
  cases rest with
  | nil => rfl
  | cons b rest =>
    obtain ⟨-, point, exponent⟩ := apart b rest rfl
    simp [readTail, point, exponent]

theorem skipDigits_of_apart {rest : Bytes} (apart : Apart rest) : skipDigits rest = (0, rest) := by
  cases rest with
  | nil => rfl
  | cons b rest => simp [skipDigits, (apart b rest rfl).1]

/-- The digits of a number start with a zero only if it is zero. -/
theorem head_write {n : Nat} (hn : 0 < n) :
    ∃ b rest, Digits.write n = b :: rest ∧ b ≠ Mark.zero ∧ Digits.isDigit b := by
  induction n using Nat.strongRecOn with
  | ind n ih =>
    by_cases lt : n < 10
    · refine ⟨_, [], Digits.write_of_lt lt, ?_, Digits.isDigit_ofNat lt⟩
      have : ∀ n, n < 10 → 0 < n → UInt8.ofNat (0x30 + n) ≠ Mark.zero := by decide
      exact this n lt hn
    · obtain ⟨b, rest, eq, zero, digit⟩ := ih (n / 10) (by omega) (by omega)
      rw [Digits.write_of_le (Nat.not_lt.mp lt), eq]
      exact ⟨b, _, rfl, zero, digit⟩

theorem readUnsigned_write (isNegative : Bool) {n : Nat} (fits : n < UInt64.size) {rest : Bytes}
    (apart : Apart rest) :
    readUnsigned isNegative (Digits.write n ++ rest) = .ok (ofInteger isNegative n, rest) := by
  by_cases hn : 0 < n
  · obtain ⟨b, more, eq, zero, digit⟩ := head_write hn
    have taken : extend 0 (Digits.write n ++ rest)
        = (continued 0 (Digits.write n), (Digits.write n).length, rest) :=
      extend_append (fun b hb => Digits.isDigit_of_mem_write hb) (by rwa [continued_write]) apart
    rw [eq, List.cons_append] at taken
    rw [eq, List.cons_append, readUnsigned.eq_def]
    simp only [zero, if_false, digit, if_true, taken, skipDigits_of_apart apart]
    rw [← eq, continued_write]
    exact readTail_of_apart isNegative n apart
  · obtain rfl : n = 0 := by omega
    rw [Digits.write_of_lt (by decide)]
    cases rest with
    | nil => rfl
    | cons b rest =>
      have digit := (apart b rest rfl).1
      show (if Digits.isDigit b then _ else _) = _
      rw [if_neg digit]
      exact readTail_of_apart isNegative 0 apart

/-- An integer starts with a sign or a digit. -/
theorem start_write {n : Number} (integer : n.IsInteger) :
    ∃ b rest, n.write = b :: rest ∧ (b = Mark.minus ∨ Digits.isDigit b) := by
  cases n with
  | natural n =>
    by_cases hn : 0 < n.toNat
    · obtain ⟨b, rest, eq, -, digit⟩ := head_write hn
      exact ⟨b, rest, eq, .inr digit⟩
    · obtain zero : n.toNat = 0 := by omega
      exact ⟨_, [], by rw [write, zero, Digits.write_of_lt (by decide)], .inr (by decide)⟩
  | negative m => exact ⟨_, _, rfl, .inl (by decide)⟩
  | float x => cases integer

/-- An integer reads back. -/
theorem read_write {n : Number} (integer : n.IsInteger) {rest : Bytes} (apart : Apart rest) :
    read (n.write ++ rest) = .ok (n, rest) := by
  cases n with
  | natural n =>
    have fits : n.toNat < UInt64.size := n.toNat_lt
    obtain ⟨b, more, eq, -⟩ := start_write (n := .natural n) trivial
    rw [write] at eq
    have minus : b ≠ Mark.minus := by
      rintro rfl
      have digit := Digits.isDigit_of_mem_write (n := n.toNat) (eq ▸ List.mem_cons_self)
      cases digit
    have whole := readUnsigned_write false fits apart
    rw [eq, List.cons_append] at whole
    rw [write, eq, List.cons_append, read, if_neg minus, whole]
    simp [ofInteger]
  | negative m =>
    rw [write, List.cons_append, read]
    have minus : Bytes.ascii '-' = Mark.minus := by decide
    rw [if_pos minus, readUnsigned_write true (by omega) apart, ofInteger, dif_pos m.property]
    rfl
  | float x => cases integer

end Number

end SessionHub.Json
