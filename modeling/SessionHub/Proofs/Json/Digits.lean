import SessionHub.Decimal.Digits
import SessionHub.Json.Reading

set_option autoImplicit false

/-! # Digits that are written

The digits of a number are those of its tenth and one more, and digits indeed. -/

namespace SessionHub.Digits

/-- The byte of a digit. -/
theorem ascii_digitChar {n : Nat} (hn : n < 10) :
    Bytes.ascii n.digitChar = UInt8.ofNat (0x30 + n) := by
  revert n
  decide

theorem isDigit_ofNat {n : Nat} (hn : n < 10) : isDigit (UInt8.ofNat (0x30 + n)) := by
  revert n
  decide

theorem value_ofNat {n : Nat} (hn : n < 10) : value (UInt8.ofNat (0x30 + n)) = n := by
  revert n
  decide

theorem write_of_lt {n : Nat} (hn : n < 10) : write n = [UInt8.ofNat (0x30 + n)] := by
  rw [write, Nat.toDigits_of_lt_base hn, List.map_singleton, ascii_digitChar hn]

theorem write_of_le {n : Nat} (hn : 10 ≤ n) :
    write n = write (n / 10) ++ [UInt8.ofNat (0x30 + n % 10)] := by
  rw [write, Nat.toDigits_of_base_le (by decide) hn, List.map_append, List.map_singleton,
    ascii_digitChar (Nat.mod_lt n (by decide)), write]

theorem isDigit_of_mem_write {n : Nat} {b : UInt8} (hb : b ∈ write n) : isDigit b := by
  induction n using Nat.strongRecOn with
  | ind n ih =>
    by_cases hn : n < 10
    · rw [write_of_lt hn, List.mem_singleton] at hb
      exact hb ▸ isDigit_ofNat hn
    · rw [write_of_le (Nat.not_lt.mp hn), List.mem_append, List.mem_singleton] at hb
      rcases hb with hb | rfl
      · exact ih (n / 10) (by omega) hb
      · exact isDigit_ofNat (Nat.mod_lt n (by decide))

/-- There are ten digits. -/
theorem eq_ofNat_of_isDigit {b : UInt8} (hb : isDigit b) : ∃ n < 10, b = UInt8.ofNat (0x30 + n) := by
  simp only [isDigit, Bool.and_eq_true, decide_eq_true_eq, UInt8.le_iff_toNat_le] at hb
  obtain ⟨low, high⟩ := hb
  have low : 0x30 ≤ b.toNat := low
  have high : b.toNat ≤ 0x39 := high
  refine ⟨b.toNat - 0x30, by omega, ?_⟩
  rw [Nat.add_sub_cancel' low, UInt8.ofNat_toNat]

/-- Digits are below 128, as all of ASCII. -/
theorem lt_of_isDigit {b : UInt8} (hb : isDigit b) : b < 128 := by
  simp only [isDigit, Bool.and_eq_true, decide_eq_true_eq] at hb
  exact UInt8.lt_of_le_of_lt hb.2 (by decide)

end SessionHub.Digits
