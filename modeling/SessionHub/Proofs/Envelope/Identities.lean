import SessionHub.Proofs.Envelope.Spelling
import SessionHub.Proofs.Json.Integers

set_option autoImplicit false

/-! # Identities read

The identity of a session or of a request is read from exactly those texts that are a decimal
numeral with blanks around it, of a number that fits (`identities_read_as_numerals`). Digits of a
number that does not fit are refused, however many there are, since a text spells one number
only. -/

namespace SessionHub

open Json (Failure Spells)

/-- Whether identities are numbers up to `greatest` that are read as their numerals, with any blanks
    around them, and from nothing else. -/
structure AreNumerals {ι : Type} (read : Bytes → Except Failure ι) (write : ι → Bytes)
    (value : ι → Nat) (greatest : Nat) : Prop where
  /-- The identity that is read is the number that the text spells. -/
  read_iff : ∀ s id, read s = .ok id ↔ Spells s (value id)
  /-- A text is read exactly if it spells a number that fits. -/
  accepted_iff : ∀ s, (∃ id, read s = .ok id) ↔ ∃ n ≤ greatest, Spells s n
  /-- Numbers that do not fit are refused rather than cut. -/
  refused : ∀ s n, Spells s n → greatest < n → ∃ failure, read s = .error failure
  /-- What is written reads back. -/
  read_write : ∀ id, read (write id) = .ok id

theorem Json.spells_write (n : Nat) : Spells (Digits.write n) n :=
  ⟨[], Digits.write n, [], by simp, nofun, nofun, isNumeral_iff_eq_write.mpr rfl⟩

/-- All of it follows from what an identity is read from, if there is one for each number that
    fits. -/
theorem areNumerals_of_read_iff {ι : Type} {read : Bytes → Except Failure ι} {write : ι → Bytes}
    {value : ι → Nat} {greatest : Nat} (read_iff : ∀ s id, read s = .ok id ↔ Spells s (value id))
    (fits : ∀ n, n ≤ greatest ↔ ∃ id, value id = n)
    (written : ∀ id, write id = Digits.write (value id)) :
    AreNumerals read write value greatest where
  read_iff := read_iff
  accepted_iff s := by
    constructor
    · rintro ⟨id, found⟩
      exact ⟨value id, (fits _).mpr ⟨id, rfl⟩, (read_iff s id).mp found⟩
    · rintro ⟨n, small, spelled⟩
      obtain ⟨id, rfl⟩ := (fits n).mp small
      exact ⟨id, (read_iff s id).mpr spelled⟩
  refused s n spelled large := by
    cases found : read s with
    | error failure => exact ⟨failure, rfl⟩
    | ok id =>
      have same := spelled.unique ((read_iff s id).mp found)
      exact absurd ((fits n).mpr ⟨id, same.symm⟩) (Nat.not_le.mpr large)
  read_write id := by
    rw [read_iff, written]
    exact Json.spells_write (value id)

theorem SessionId.read_eq_ok (s : Bytes) (id : SessionId) :
    SessionId.read s = .ok id ↔ Spells s id.val.toNat := by
  have numbers : ∀ v n, Json.unsigned .thirtyTwo v = .ok n → ∃ m, v = .number (.natural m) :=
    fun v n taken => (Json.unsigned_eq_ok.mp taken).imp fun m h => h.1
  rw [SessionId.read, bind_eq_ok]
  simp only [Json.readAll_eq_ok numbers, Json.unsigned_eq_ok]
  constructor
  · rintro ⟨_, ⟨m, spelled, m', same, small, rfl⟩, made⟩
    cases same
    cases made
    have small : m.toNat < UInt32.size := small
    rwa [Nat.toUInt32_eq, UInt32.toNat_ofNat', Nat.mod_eq_of_lt small]
  · intro spelled
    have small : id.val.toNat < UInt32.size := id.val.toNat_lt
    have kept : id.val.toUInt64.toNat = id.val.toNat := UInt32.toNat_toUInt64 id.val
    refine ⟨id.val.toNat, ⟨id.val.toUInt64, kept.symm ▸ spelled, _, rfl, kept.symm ▸ small, kept⟩, ?_⟩
    simp

theorem MessageId.read_eq_ok (s : Bytes) (id : MessageId) :
    MessageId.read s = .ok id ↔ Spells s id.val.toNat := by
  have numbers : ∀ v id, MessageId.ofJson v = .ok id → ∃ m, v = .number (.natural m) :=
    fun v id taken => ⟨id.val, MessageId.ofJson_eq_ok.mp taken⟩
  rw [MessageId.read, Json.readAll_eq_ok numbers]
  constructor
  · rintro ⟨n, spelled, taken⟩
    cases MessageId.ofJson_eq_ok.mp taken
    exact spelled
  · exact fun spelled => ⟨id.val, spelled, MessageId.ofJson_toJson id⟩

/-- The identity of a session is read from exactly the numerals up to `2 ^ 32 - 1`, and that of a
    request from exactly the numerals up to `2 ^ 64 - 1`, with any blanks around them. Greater
    numerals are refused, and what is written for an identity reads back. -/
theorem identities_read_as_numerals :
    AreNumerals SessionId.read SessionId.write (fun id => id.val.toNat) (UInt32.size - 1) ∧
    AreNumerals MessageId.read MessageId.write (fun id => id.val.toNat) (UInt64.size - 1) := by
  refine ⟨areNumerals_of_read_iff SessionId.read_eq_ok (fun n => ⟨fun small => ?_, ?_⟩) fun _ => rfl,
    areNumerals_of_read_iff MessageId.read_eq_ok (fun n => ⟨fun small => ?_, ?_⟩) fun _ => rfl⟩
  · exact ⟨⟨n.toUInt32⟩, by simp; unfold UInt32.size at small; omega⟩
  · rintro ⟨id, rfl⟩
    exact Nat.le_sub_one_of_lt id.val.toNat_lt
  · exact ⟨⟨n.toUInt64⟩, by simp; unfold UInt64.size at small; omega⟩
  · rintro ⟨id, rfl⟩
    exact Nat.le_sub_one_of_lt id.val.toNat_lt

end SessionHub
