import SessionHub.Directory

set_option autoImplicit false

/-! # The entries of the directory

As long as fewer than `2 ^ 32` callbacks are enrolled, each gets a number that was not given before,
and the directory has at most one entry for a number (`Numbered`). -/

namespace SessionHub.Directory

variable {κ : Type}

theorem toNat_nextId {d : Directory κ} (few : d.enrolments + 1 < numbers) :
    d.nextId.val.toNat = d.enrolments + 1 := by
  simp only [nextId, Nat.toUInt32_eq, UInt32.toNat_ofNat']
  exact Nat.mod_eq_of_lt few

/-- A number that is struck off is not found, and no other number is concerned. -/
theorem callback?_remove (d : Directory κ) (id other : SessionId) :
    (d.remove id).callback? other = if other = id then none else d.callback? other := by
  show (d.entries.filter (·.1 ≠ id)).lookup other = _
  unfold callback?
  induction d.entries with
  | nil => simp
  | cons e entries ih =>
    obtain ⟨first, callback⟩ := e
    by_cases same : first = id
    · rw [List.filter_cons_of_neg (by simp [same]), ih, List.lookup_cons]
      split
      · rfl
      · next hne => rw [beq_false_of_ne (same ▸ hne)]
    · rw [List.filter_cons_of_pos (by simp [same]), List.lookup_cons, List.lookup_cons, ih]
      by_cases here : other = first
      · simp [here, same]
      · simp [beq_false_of_ne here]

/-- The callback that is enrolled is found under its number, and no other number is concerned. -/
theorem callback?_enrol (d : Directory κ) (callback : κ) (id : SessionId) :
    (d.enrol callback).callback? id = if id = d.nextId then some callback else d.callback? id := by
  have others : id ≠ d.nextId →
      (if d.enrolments < numbers then d.entries else d.others d.nextId).lookup id =
        d.callback? id := by
    intro other
    split
    · rfl
    · exact (callback?_remove d d.nextId id).trans (if_neg other)
  rw [callback?, enrol, List.lookup_cons]
  by_cases here : id = d.nextId
  · simp [here]
  · rw [beq_false_of_ne here, if_neg here]
    exact others here

/-- A number that was given before leads where it did. -/
theorem callback?_enrol_of_given {d : Directory κ} (few : d.enrolments + 1 < numbers) (callback : κ)
    {id : SessionId} (given : id.val.toNat ≤ d.enrolments) :
    (d.enrol callback).callback? id = d.callback? id := by
  rw [callback?_enrol, if_neg]
  rintro rfl
  rw [toNat_nextId few] at given
  exact Nat.not_succ_le_self _ given

theorem contains_enrol (d : Directory κ) (callback : κ) (id : SessionId) :
    (d.enrol callback).contains id ↔ id = d.nextId ∨ d.contains id := by
  rw [contains, callback?_enrol]
  by_cases here : id = d.nextId
  · simp [here]
  · rw [if_neg here, ← contains]
    simp [here]

theorem contains_remove (d : Directory κ) (id other : SessionId) :
    (d.remove id).contains other ↔ other ≠ id ∧ d.contains other := by
  rw [contains, callback?_remove]
  by_cases here : other = id
  · simp [here]
  · rw [if_neg here, ← contains]
    simp [here]

theorem mem_of_callback? {d : Directory κ} {id : SessionId} {callback : κ}
    (found : d.callback? id = some callback) : (id, callback) ∈ d.entries := by
  obtain ⟨before, after, parts, -⟩ := List.lookup_eq_some_iff.mp found
  rw [parts]
  simp

/-- Whether numbers are given to one callback each, in order. -/
structure Numbered (d : Directory κ) : Prop where
  nodup : (d.entries.map (·.1)).Nodup
  given : ∀ e ∈ d.entries, e.1.val.toNat ≤ d.enrolments

namespace Numbered

variable {d : Directory κ}

theorem start : ({} : Directory κ).Numbered :=
  ⟨List.nodup_nil, nofun⟩

/-- `callback?` finds every entry. -/
theorem callback?_of_mem (n : d.Numbered) {id : SessionId} {callback : κ}
    (listed : (id, callback) ∈ d.entries) : d.callback? id = some callback := by
  obtain ⟨before, after, parts⟩ := List.append_of_mem listed
  have nodup := n.nodup
  rw [parts, List.map_append, List.map_cons] at nodup
  refine List.lookup_eq_some_iff.mpr ⟨before, after, parts, fun e earlier => ?_⟩
  have other : e.1 ≠ id := fun same =>
    (List.nodup_append.mp nodup).2.2 e.1 (List.mem_map_of_mem earlier) id List.mem_cons_self same
  simpa using other.symm

/-- `nextId` was not given before. -/
theorem fresh (n : d.Numbered) (few : d.enrolments + 1 < numbers) :
    d.nextId ∉ d.entries.map (·.1) := by
  intro taken
  obtain ⟨e, he, same⟩ := List.mem_map.mp taken
  have given := n.given e he
  rw [same, toNat_nextId few] at given
  exact Nat.not_succ_le_self _ given

theorem enrol (n : d.Numbered) (few : d.enrolments + 1 < numbers) (callback : κ) :
    (d.enrol callback).Numbered := by
  have entries : (d.enrol callback).entries = (d.nextId, callback) :: d.entries := by
    rw [Directory.enrol, if_pos (Nat.lt_of_succ_lt few)]
  refine ⟨?_, fun e he => ?_⟩
  · rw [entries]
    exact List.nodup_cons.mpr ⟨n.fresh few, n.nodup⟩
  · rw [entries] at he
    show e.1.val.toNat ≤ d.enrolments + 1
    rcases List.mem_cons.mp he with rfl | old
    · exact Nat.le_of_eq (toNat_nextId few)
    · exact Nat.le_succ_of_le (n.given e old)

theorem remove (n : d.Numbered) (id : SessionId) : (d.remove id).Numbered where
  nodup := n.nodup.sublist (List.filter_sublist.map _)
  given e he := n.given e (List.mem_filter.mp he).1

end Numbered

/-- A number that has at most one entry loses one, if it has one. -/
theorem length_others {entries : List (SessionId × κ)} (nodup : (entries.map (·.1)).Nodup)
    (id : SessionId) :
    (entries.filter (·.1 ≠ id)).length + (if (entries.lookup id).isSome then 1 else 0) =
      entries.length := by
  induction entries with
  | nil => rfl
  | cons e entries ih =>
    obtain ⟨first, callback⟩ := e
    obtain ⟨only, nodup⟩ := List.nodup_cons.mp nodup
    have rest := ih nodup
    by_cases same : first = id
    · subst same
      have unlisted : entries.lookup first = none := by
        refine List.lookup_eq_none_iff.mpr fun e he => ?_
        have other : e.1 ≠ first := fun same => only (List.mem_map.mpr ⟨e, he, same⟩)
        simpa using other.symm
      rw [unlisted] at rest
      rw [List.filter_cons_of_neg (by simp), List.lookup_cons_self, List.length_cons, ← rest]
      simp
    · rw [List.filter_cons_of_pos (by simp [same]), List.lookup_cons,
        beq_false_of_ne (Ne.symm same), List.length_cons, List.length_cons, ← rest]
      exact Nat.add_right_comm _ _ _

theorem size_enrol {d : Directory κ} (few : d.enrolments < numbers) (callback : κ) :
    (d.enrol callback).size = d.size + 1 := by
  rw [size, enrol, if_pos few]
  rfl

theorem size_remove {d : Directory κ} (n : d.Numbered) (id : SessionId) :
    (d.remove id).size + (if d.contains id then 1 else 0) = d.size :=
  length_others n.nodup id

end SessionHub.Directory
