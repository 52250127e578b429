import SessionHub.Proofs.Json.RoundTrip

set_option autoImplicit false

/-! # Canonical values

The members of the value that an object means have ascending names (`ascending_canonicalMembers`),
so that there is nothing left to sort and nothing to drop (`isCanonical_canonical`). What a tree
means nests no deeper than the tree, since each value in it is meant by one in the tree
(`nesting_canonical_le`). -/

namespace SessionHub.Json

/-! ## Induction on values -/

/-- Something holds of every value if it holds of the scalars, of an array once it holds of its
    elements, and of an object once it holds of its members. -/
theorem induction {P : Json → Prop} (scalar : ∀ v : Json, v.isScalar → P v)
    (array : ∀ elements, (∀ v ∈ elements, P v) → P (array elements))
    (object : ∀ members : List (String × Json), (∀ m ∈ members, P m.2) → P (object members)) :
    ∀ v : Json, P v
  | .array elements => array elements fun v _ => induction scalar array object v
  | .object members => object members fun m _ => induction scalar array object m.2
  | .null => scalar .null rfl
  | .bool b => scalar (.bool b) rfl
  | .number n => scalar (.number n) rfl
  | .string s => scalar (.string s) rfl
termination_by v => sizeOf v
decreasing_by
  · have := List.sizeOf_lt_of_mem ‹v ∈ elements›
    simp only [Json.array.sizeOf_spec]
    omega
  · have := List.sizeOf_lt_of_mem ‹m ∈ members›
    obtain ⟨name, v⟩ := m
    simp only [Json.object.sizeOf_spec, Prod.mk.sizeOf_spec] at this ⊢
    omega

/-! ## Sorting members in -/

/-- Whether the names of members ascend. -/
def Ascending (members : List (String × Json)) : Prop :=
  members.Pairwise fun m m' => m.1 < m'.1

variable {name : String} {v : Json} {members : List (String × Json)}

theorem mem_insertMember {m : String × Json} :
    m ∈ insertMember name v members ↔ m = (name, v) ∨ m ∈ members := by
  induction members with
  | nil => simp [insertMember]
  | cons m' members ih =>
    rw [insertMember]
    split
    · exact List.mem_cons
    · rw [List.mem_cons, ih, List.mem_cons]
      exact or_left_comm

/-- A new name finds its place among ascending ones. -/
theorem ascending_insertMember (ascending : Ascending members) (fresh : ∀ m ∈ members, m.1 ≠ name) :
    Ascending (insertMember name v members) := by
  induction members with
  | nil => exact List.pairwise_singleton _ _
  | cons m members ih =>
    obtain ⟨first, others⟩ := List.pairwise_cons.mp ascending
    obtain ⟨other, fresh⟩ := List.forall_mem_cons.mp fresh
    rw [insertMember]
    split
    · next less =>
      refine List.pairwise_cons.mpr ⟨List.forall_mem_cons.mpr ⟨less, ?_⟩, ascending⟩
      exact fun m' there => String.lt_trans less (first m' there)
    · next notLess =>
      have less : m.1 < name := Std.lt_of_le_of_ne (String.not_lt.mp notLess) other
      refine List.pairwise_cons.mpr ⟨fun m' there => ?_, ih others fresh⟩
      rcases mem_insertMember.mp there with rfl | there
      · exact less
      · exact first m' there

/-- A name that is less than all others comes first. -/
theorem insertMember_of_least (least : ∀ m ∈ members, name < m.1) :
    insertMember name v members = (name, v) :: members := by
  cases members with
  | nil => rfl
  | cons m members => rw [insertMember, if_pos (least m List.mem_cons_self)]

/-! ## What an object means -/

theorem any_name_iff : members.any (·.1 == name) ↔ ∃ m ∈ members, m.1 = name := by
  simp only [List.any_eq_true, beq_iff_eq]

/-- The names of an object's value ascend. -/
theorem ascending_canonicalMembers (members : List (String × Json)) :
    Ascending (canonicalMembers members) := by
  induction members with
  | nil => exact .nil
  | cons m members ih =>
    rw [canonicalMembers]
    split
    · exact ih
    · next fresh =>
      refine ascending_insertMember ih fun m' there same => fresh ?_
      exact any_name_iff.mpr ⟨m', there, same⟩

/-- Each member of an object's value is meant by a member of the object. -/
theorem mem_canonicalMembers {m : String × Json} (there : m ∈ canonicalMembers members) :
    ∃ v, (m.1, v) ∈ members ∧ m.2 = v.canonical := by
  induction members with
  | nil => cases there
  | cons m' members ih =>
    have later : m ∈ canonicalMembers members → ∃ v, (m.1, v) ∈ m' :: members ∧ m.2 = v.canonical := by
      intro there
      obtain ⟨v, given, same⟩ := ih there
      exact ⟨v, List.mem_cons_of_mem m' given, same⟩
    rw [canonicalMembers] at there
    split at there
    · exact later there
    · rcases mem_insertMember.mp there with rfl | there
      · exact ⟨m'.2, List.mem_cons_self, rfl⟩
      · exact later there

/-- Members whose names ascend and whose values are canonical stay as they are. -/
theorem canonicalMembers_of_ascending (ascending : Ascending members)
    (canonical : ∀ m ∈ members, m.2.IsCanonical) : canonicalMembers members = members := by
  induction members with
  | nil => rfl
  | cons m members ih =>
    obtain ⟨least, ascending⟩ := List.pairwise_cons.mp ascending
    obtain ⟨first, others⟩ := List.forall_mem_cons.mp canonical
    have fresh : ¬ members.any (·.1 == m.1) := by
      rw [any_name_iff]
      rintro ⟨m', there, same⟩
      exact String.lt_irrefl m.1 (same ▸ least m' there)
    rw [canonicalMembers, ih ascending others, if_neg fresh, insertMember_of_least least]
    exact congrArg (fun v => (m.1, v) :: members) first

/-! ## What a tree means -/

theorem canonicalElements_eq_map (elements : List Json) :
    canonicalElements elements = elements.map canonical := by
  induction elements with
  | nil => rfl
  | cons v elements ih => rw [canonicalElements, ih, List.map_cons]

theorem canonical_scalar {v : Json} (hv : v.isScalar) : v.canonical = v := by
  cases v with
  | array elements => cases hv
  | object members => cases hv
  | _ => rfl

/-- The value that a tree means is canonical. -/
theorem isCanonical_canonical (v : Json) : v.canonical.IsCanonical := by
  induction v using Json.induction with
  | scalar v hv =>
    rw [IsCanonical, canonical_scalar hv, canonical_scalar hv]
  | array elements ih =>
    refine congrArg array ?_
    simp only [canonicalElements_eq_map, List.map_map]
    exact List.map_congr_left ih
  | object members ih =>
    refine congrArg object (canonicalMembers_of_ascending (ascending_canonicalMembers members) ?_)
    intro m there
    obtain ⟨v, given, same⟩ := mem_canonicalMembers there
    rw [same]
    exact ih (m.1, v) given

theorem canonicalElements_canonicalElements (elements : List Json) :
    canonicalElements (canonicalElements elements) = canonicalElements elements :=
  Json.array.inj (isCanonical_canonical (array elements))

/-- The value that a tree means nests no deeper than the tree. -/
theorem nesting_canonical_le (v : Json) : v.canonical.nesting ≤ v.nesting := by
  induction v using Json.induction with
  | scalar v hv => exact Nat.le_of_eq (congrArg nesting (canonical_scalar hv))
  | array elements ih =>
    refine Nat.succ_le_succ (nestingElements_le.mpr fun w there => ?_)
    rw [canonicalElements_eq_map] at there
    obtain ⟨v, given, rfl⟩ := List.mem_map.mp there
    exact Nat.le_trans (ih v given) (nesting_le_nestingElements given)
  | object members ih =>
    refine Nat.succ_le_succ (nestingMembers_le.mpr fun m there => ?_)
    obtain ⟨v, given, same⟩ := mem_canonicalMembers there
    rw [same]
    exact Nat.le_trans (ih (m.1, v) given) (nesting_le_nestingMembers given)

end SessionHub.Json
