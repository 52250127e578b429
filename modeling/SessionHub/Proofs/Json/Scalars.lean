import SessionHub.Json.Reader
import SessionHub.Proofs.Json.Numerals
import SessionHub.Proofs.Json.Strings

set_option autoImplicit false

/-! # Scalars read back

A value that is neither an array nor an object is read back whatever is then made of it
(`dispatch_write`), if what follows does not go on with a number that it is (`Apart`). -/

namespace SessionHub.Json

theorem skipBlank_of_not_blank {b : UInt8} (hb : Mark.isBlank b = false) (rest : Bytes) :
    skipBlank (b :: rest) = b :: rest := by
  rw [skipBlank, hb]
  rfl

/-! ## Scalars -/

/-- Whether a value is neither an array nor an object. -/
def isScalar : Json → Bool
  | array _ | object _ => false
  | _ => true

/-- What is made of a scalar that was read. -/
def made {α : Type} (scalar : Json → Except Failure α) (v : Json) (rest : Bytes) :
    Except Failure (α × Bytes) :=
  (scalar v).map fun a => (a, rest)

theorem do_made {α : Type} (scalar : Json → Except Failure α) (v : Json) (rest : Bytes) :
    (do .ok (← scalar v, rest) : Except Failure (α × Bytes)) = made scalar v rest := by
  unfold made
  cases scalar v <;> rfl

theorem made_eq_ok {α : Type} {scalar : Json → Except Failure α} {v : Json} {a : α}
    {rest rest' : Bytes} :
    made scalar v rest = .ok (a, rest') ↔ scalar v = .ok a ∧ rest = rest' := by
  rw [made]
  cases scalar v <;> simp [Except.map]

/-- Reads a scalar whose first byte is `b`. -/
def readToken (b : UInt8) (rest : Bytes) : Except Failure (Json × Bytes) :=
  if b = Bytes.ascii 'n' then do
    .ok (null, ← readWord (Bytes.ofString "ull") rest)
  else if b = Bytes.ascii 't' then do
    .ok (bool true, ← readWord (Bytes.ofString "rue") rest)
  else if b = Bytes.ascii 'f' then do
    .ok (bool false, ← readWord (Bytes.ofString "alse") rest)
  else if b = Mark.quote then do
    let (t, rest) ← readString rest
    .ok (string t, rest)
  else if b = Mark.minus || Digits.isDigit b then do
    let (n, rest) ← Number.read (b :: rest)
    .ok (number n, rest)
  else refuse .expectedValue

theorem dispatch_of_value {α : Type} {scalar : Json → Except Failure α} {array object : Reader α}
    {s rest : Bytes} {b : UInt8} (found : skipBlank s = b :: rest) :
    dispatch scalar array object s =
      if b = Mark.openArray then array rest
      else if b = Mark.openObject then object rest
      else readToken b rest >>= fun p => made scalar p.1 p.2 := by
  simp only [dispatch, found, ← do_made]
  rfl

/-- What starts with a sign or a digit is read as a number. -/
theorem dispatch_number {α : Type} (scalar : Json → Except Failure α) (array object : Reader α)
    {b : UInt8} (hb : b = Mark.minus ∨ Digits.isDigit b) {rest rest' : Bytes} {n : Number}
    (read : Number.read (b :: rest) = .ok (n, rest')) :
    dispatch scalar array object (b :: rest) = made scalar (number n) rest' := by
  have other : Mark.isBlank b = false ∧ b ≠ Mark.openArray ∧ b ≠ Mark.openObject ∧
      b ≠ Bytes.ascii 'n' ∧ b ≠ Bytes.ascii 't' ∧ b ≠ Bytes.ascii 'f' ∧ b ≠ Mark.quote := by
    rcases hb with rfl | digit
    · decide
    · obtain ⟨n, hn, rfl⟩ := Digits.eq_ofNat_of_isDigit digit
      clear read digit
      revert n
      decide
  obtain ⟨blank, openArray, openObject, n', t, f, quote⟩ := other
  rw [← do_made, dispatch, skipBlank_of_not_blank blank]
  simp only [openArray, openObject, n', t, f, quote, if_false]
  rw [if_pos (by simpa using hb), read]
  rfl

/-- What starts with a quote is read as a string. -/
theorem dispatch_string {α : Type} (scalar : Json → Except Failure α) (array object : Reader α)
    {body rest : Bytes} {s : String} (read : readString body = .ok (s, rest)) :
    dispatch scalar array object (Mark.quote :: body) = made scalar (string s) rest := by
  have other : Mark.isBlank Mark.quote = false ∧ Mark.quote ≠ Mark.openArray ∧
      Mark.quote ≠ Mark.openObject ∧ Mark.quote ≠ Bytes.ascii 'n' ∧ Mark.quote ≠ Bytes.ascii 't' ∧
      Mark.quote ≠ Bytes.ascii 'f' := by decide
  obtain ⟨blank, openArray, openObject, n, t, f⟩ := other
  rw [← do_made, dispatch, skipBlank_of_not_blank blank]
  simp only [openArray, openObject, n, t, f, if_false, if_true]
  rw [read]
  rfl

/-- A scalar reads back, whatever is then made of it. -/
theorem dispatch_write {α : Type} (scalar : Json → Except Failure α) (array object : Reader α)
    {v : Json} (hv : v.isScalar) (free : v.floatFree) {rest : Bytes} (apart : Apart rest) :
    dispatch scalar array object (v.write ++ rest) = made scalar v rest := by
  rw [← do_made]
  cases v with
  | null => rfl
  | bool b => cases b <;> rfl
  | number n =>
    have integer : n.IsInteger := by
      cases n with
      | float x => cases free
      | _ => trivial
    obtain ⟨b, more, eq, start⟩ := Number.start_write integer
    have read := Number.read_write integer apart
    rw [eq, List.cons_append] at read
    rw [do_made, write, eq, List.cons_append]
    exact dispatch_number scalar array object start read
  | string s =>
    obtain ⟨body, text, read⟩ := readString_write s rest
    rw [do_made, write, text]
    exact dispatch_string scalar array object read
  | array elements => cases hv
  | object members => cases hv

/-- Where a scalar is sought, any value is read as it is made of the value, if brackets are refused
    by both alike. -/
theorem readScalar_write {α : Type} {sought : Sought} {scalar : Json → Except Failure α}
    (sequence : ∀ elements, scalar (array elements) = mismatch (.invalidType .sequence sought))
    (map : ∀ members, scalar (object members) = mismatch (.invalidType .map sought)) {v : Json}
    (free : v.floatFree) {rest : Bytes} (apart : Apart rest) :
    readScalar sought scalar (v.write ++ rest) = made scalar v rest := by
  cases v with
  | array elements =>
    rw [made, sequence, write]
    rfl
  | object members =>
    rw [made, map, write]
    rfl
  | _ => exact dispatch_write _ _ _ rfl free apart

/-- The text of a value starts with no blank and closes no bracket. -/
theorem start_write {v : Json} (free : v.floatFree) :
    ∃ b rest, v.write = b :: rest ∧ Mark.isBlank b = false ∧ b ≠ Mark.closeArray := by
  cases v with
  | null => exact ⟨_, _, rfl, rfl, by decide⟩
  | bool b => cases b <;> exact ⟨_, _, rfl, rfl, by decide⟩
  | number n =>
    have integer : n.IsInteger := by
      cases n with
      | float x => cases free
      | _ => trivial
    obtain ⟨b, rest, eq, rfl | digit⟩ := Number.start_write integer
    · exact ⟨_, rest, eq, by decide, by decide⟩
    · refine ⟨b, rest, eq, ?_⟩
      obtain ⟨n, hn, rfl⟩ := Digits.eq_ofNat_of_isDigit digit
      clear eq digit
      revert n
      decide
  | string s => exact ⟨_, _, rfl, by decide, by decide⟩
  | array elements => exact ⟨_, _, rfl, by decide, by decide⟩
  | object members => exact ⟨_, _, rfl, by decide, by decide⟩

theorem apart_comma (rest : Bytes) : Apart (Mark.comma :: rest) :=
  apart_cons (by decide) (by decide) (by decide)

theorem apart_closeArray (rest : Bytes) : Apart (Mark.closeArray :: rest) :=
  apart_cons (by decide) (by decide) (by decide)

theorem apart_closeObject (rest : Bytes) : Apart (Mark.closeObject :: rest) :=
  apart_cons (by decide) (by decide) (by decide)

theorem apart_writeMoreElements (elements : List Json) (rest : Bytes) :
    Apart (writeMoreElements elements ++ rest) := by
  cases elements with
  | nil => exact apart_closeArray rest
  | cons v elements => exact apart_comma _

theorem apart_writeMoreMembers (members : List (String × Json)) (rest : Bytes) :
    Apart (writeMoreMembers members ++ rest) := by
  cases members with
  | nil => exact apart_closeObject rest
  | cons m members => exact apart_comma _

end SessionHub.Json
