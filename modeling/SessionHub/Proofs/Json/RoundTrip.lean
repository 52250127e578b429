import SessionHub.Proofs.Json.Brackets

set_option autoImplicit false

/-! # Values read back

A value without doubles that is written and then read is the same value, if no more brackets are
open at a time than the reader allows, and is refused for this otherwise (`read_write_eq`). What
follows the value is left for others to read, and must not go on with a number that the value ends
in (`Apart`). -/

namespace SessionHub.Json

/-! ## How deep values nest -/

theorem nesting_scalar {v : Json} (hv : v.isScalar) : v.nesting = 0 := by
  cases v with
  | array elements => cases hv
  | object members => cases hv
  | _ => rfl

theorem nestingElements_le {n : Nat} {elements : List Json} :
    nestingElements elements ≤ n ↔ ∀ v ∈ elements, v.nesting ≤ n := by
  induction elements with
  | nil => simp [nestingElements]
  | cons v elements ih => rw [nestingElements, Nat.max_le, ih, List.forall_mem_cons]

theorem nestingMembers_le {n : Nat} {members : List (String × Json)} :
    nestingMembers members ≤ n ↔ ∀ m ∈ members, m.2.nesting ≤ n := by
  induction members with
  | nil => simp [nestingMembers]
  | cons m members ih => rw [nestingMembers, Nat.max_le, ih, List.forall_mem_cons]

theorem nesting_le_nestingElements {v : Json} {elements : List Json} (there : v ∈ elements) :
    v.nesting ≤ nestingElements elements :=
  nestingElements_le.mp (Nat.le_refl _) v there

theorem nesting_le_nestingMembers {m : String × Json} {members : List (String × Json)}
    (there : m ∈ members) : m.2.nesting ≤ nestingMembers members :=
  nestingMembers_le.mp (Nat.le_refl _) m there

theorem floatFreeElements_iff {elements : List Json} :
    floatFreeElements elements ↔ ∀ v ∈ elements, v.floatFree := by
  induction elements with
  | nil => simp [floatFreeElements]
  | cons v elements ih => simp [floatFreeElements, ih]

theorem floatFreeMembers_iff {members : List (String × Json)} :
    floatFreeMembers members ↔ ∀ m ∈ members, m.2.floatFree := by
  induction members with
  | nil => simp [floatFreeMembers]
  | cons m members ih => simp [floatFreeMembers, ih]

/-! ## Values that are not too deep -/

/-- A value that nests at most `budget` deep. -/
def bounded (budget : Nat) (v : Json) : Except Failure Json :=
  if v.nesting ≤ budget then .ok v else refuse .tooDeep

/-- Keeps one more member whose value nests at most `budget` deep. -/
def keepBounded (budget : Nat) (acc : List (String × Json)) (m : String × Json) :
    Except Failure (List (String × Json)) :=
  if m.2.nesting ≤ budget then .ok (acc ++ [m]) else refuse .tooDeep

theorem mapM_bounded (budget : Nat) (elements : List Json) :
    elements.mapM (bounded budget) =
      if nestingElements elements ≤ budget then .ok elements else refuse .tooDeep := by
  induction elements with
  | nil => rfl
  | cons v elements ih =>
    rw [List.mapM_cons, ih, bounded]
    simp only [nestingElements, Nat.max_le]
    by_cases first : v.nesting ≤ budget <;> by_cases others : nestingElements elements ≤ budget <;>
      simp [first, others, refuse, bind, Except.bind, pure, Except.pure]

theorem foldlM_keepBounded (budget : Nat) (members acc : List (String × Json)) :
    members.foldlM (keepBounded budget) acc =
      if nestingMembers members ≤ budget then .ok (acc ++ members) else refuse .tooDeep := by
  induction members generalizing acc with
  | nil =>
    rw [List.append_nil]
    rfl
  | cons m members ih =>
    simp only [List.foldlM_cons, keepBounded, nestingMembers, Nat.max_le]
    by_cases first : m.2.nesting ≤ budget
    · rw [if_pos first]
      refine (ih (acc ++ [m])).trans ?_
      simp [first]
    · simp [first, refuse, bind, Except.bind]

/-! ## Values -/

theorem read_write_scalar {v : Json} (hv : v.isScalar) (free : v.floatFree) (budget : Nat) :
    IsTakenAs (read budget) (bounded budget) v := by
  intro rest apart
  have read : read budget (v.write ++ rest) = .ok (v, rest) := by
    cases budget <;> exact dispatch_write .ok _ _ hv free apart
  rw [read, bounded, nesting_scalar hv, if_pos (Nat.zero_le budget)]
  rfl

/-- A member is read as its value is. -/
theorem readMember_write {budget : Nat} {m : String × Json}
    (written : IsTakenAs (read budget) (bounded budget) m.2) :
    IsMemberTakenAs (readMember (read budget)) (keepBounded budget) m := by
  intro acc rest apart
  have colon : readColon (Mark.colon :: (m.2.write ++ rest)) = .ok (m.2.write ++ rest) := rfl
  rw [readMember, colon]
  simp only [bind, Except.bind]
  rw [written rest apart, bounded, keepBounded]
  by_cases fits : m.2.nesting ≤ budget
  · rw [if_pos fits, if_pos fits]
    rfl
  · rw [if_neg fits, if_neg fits]
    rfl

/-- Inside an array the reader may open one bracket less. -/
theorem read_array (budget : Nat) (s : Bytes) :
    read (budget + 1) (Mark.openArray :: s) = (do
      let (elements, rest) ← readArray (read budget) s
      .ok (array elements, rest)) :=
  rfl

theorem read_object (budget : Nat) (s : Bytes) :
    read (budget + 1) (Mark.openObject :: s) = (do
      let (members, rest) ← readObject (readMember (read budget)) [] s
      .ok (object members, rest)) :=
  rfl

/-- A value without doubles is read back if the reader may open the brackets that it has, and
    refused if not. -/
theorem read_write_eq (budget : Nat) (v : Json) (free : v.floatFree) :
    IsTakenAs (read budget) (bounded budget) v := by
  -- a reader may open one bracket more around a value than inside it
  induction budget generalizing v with
  | zero =>
    cases v with
    | array elements =>
      intro rest _
      have deep : ¬ (array elements).nesting ≤ 0 := by simp [nesting]
      rw [write, bounded, if_neg deep]
      rfl
    | object members =>
      intro rest _
      have deep : ¬ (object members).nesting ≤ 0 := by simp [nesting]
      rw [write, bounded, if_neg deep]
      rfl
    | _ => exact read_write_scalar rfl free 0
  | succ budget ih =>
    cases v with
    | array elements =>
      intro rest _
      have inner : ∀ v ∈ elements, IsTakenAs (read budget) (bounded budget) v := fun v hv =>
        ih v (floatFreeElements_iff.mp free v hv)
      refine (read_array budget (writeElements elements ++ rest)).trans ?_
      rw [readArray_write_eq _ _ elements free inner rest, mapM_bounded]
      simp only [bounded, nesting, Nat.add_le_add_iff_right]
      split <;> rfl
    | object members =>
      intro rest _
      have inner : ∀ m ∈ members,
          IsMemberTakenAs (readMember (read budget)) (keepBounded budget) m := fun m hm =>
        readMember_write (ih m.2 (floatFreeMembers_iff.mp free m hm))
      refine (read_object budget (writeMembers members ++ rest)).trans ?_
      rw [readObject_write_eq _ _ members inner [] rest, foldlM_keepBounded]
      simp only [bounded, nesting, Nat.add_le_add_iff_right]
      split <;> rfl
    | _ => exact read_write_scalar rfl free _

/-- A value without doubles reads back if the reader may open the brackets that it has. -/
theorem read_write (v : Json) (budget : Nat) (rest : Bytes) (free : v.floatFree)
    (fits : v.nesting ≤ budget) (apart : Apart rest) :
    read budget (v.write ++ rest) = .ok (v, rest) := by
  rw [read_write_eq budget v free rest apart, bounded, if_pos fits]
  rfl

end SessionHub.Json
