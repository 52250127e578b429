import SessionHub.Network.Basic

set_option autoImplicit false

/-! # What is done with one member

A member that takes a step, or whose caller is changed, is put back in its place, and no other
member is touched. -/

namespace SessionHub.Network

variable {σ ρ : Type} {n : Network σ ρ} {k : Nat} {m : Member ρ}

theorem act_of_some (hm : n.members[k]? = some m)
    (step : Hub σ → Member ρ → Hub σ × Member ρ) :
    n.act k step =
      { n with hub := (step n.hub m).1, members := n.members.set! k (step n.hub m).2 } := by
  simp only [act, hm]

theorem act_of_none (vacant : n.members[k]? = none)
    (step : Hub σ → Member ρ → Hub σ × Member ρ) : n.act k step = n := by
  simp only [act, vacant]

theorem changeCaller_of_some {α : Type} (hm : n.members[k]? = some m)
    (change : Caller → Caller × α × List Record) :
    n.changeCaller k change = ({ n with
      hub := n.hub.noteAll (change m.caller).2.2
      members := n.members.set! k { m with caller := (change m.caller).1 } },
      some (change m.caller).2.1) := by
  simp only [changeCaller, hm]

theorem changeCaller_of_none {α : Type} (vacant : n.members[k]? = none)
    (change : Caller → Caller × α × List Record) : n.changeCaller k change = (n, none) := by
  simp only [changeCaller, vacant]

theorem members_set (hm : n.members[k]? = some m) (m' : Member ρ) (j : Nat) :
    (n.members.set! k m')[j]? = if k = j then some m' else n.members[j]? := by
  have inside : k < n.members.size := (Array.getElem?_eq_some_iff.mp hm).1
  rw [Array.set!_eq_setIfInBounds, Array.getElem?_setIfInBounds, if_pos inside]

/-- A call changes the caller and nothing else that matters. -/
theorem call_eq (n : Network σ ρ) (k : Nat) (method : String) (args : List Json)
    (named : List (String × Json)) :
    (n.call k method args named).1.hub =
        (n.changeCaller k fun c => c.issue true method args named).1.hub ∧
      (n.call k method args named).1.members =
        (n.changeCaller k fun c => c.issue true method args named).1.members ∧
      (n.call k method args named).2 =
        (n.changeCaller k fun c => c.issue true method args named).2 := by
  unfold call
  split
  · next n' ticket same =>
    rw [same]
    exact ⟨rfl, rfl, rfl⟩
  · exact ⟨rfl, rfl, rfl⟩

/-- Two steps of one member are one step. -/
theorem act_act (n : Network σ ρ) (k : Nat) (first second : Hub σ → Member ρ → Hub σ × Member ρ) :
    (n.act k first).act k second = n.act k fun h m => second (first h m).1 (first h m).2 := by
  cases hm : n.members[k]? with
  | none => rw [act_of_none hm, act_of_none hm, act_of_none hm]
  | some m =>
    rw [act_of_some hm first, act_of_some hm, act_of_some ((members_set hm _ k).trans (if_pos rfl))]
    simp only [Array.set!_eq_setIfInBounds, Array.setIfInBounds_setIfInBounds]

/-- To change the caller of a member is a step of it. -/
theorem changeCaller_eq_act {α : Type} (n : Network σ ρ) (k : Nat)
    (change : Caller → Caller × α × List Record) :
    (n.changeCaller k change).1 = n.act k fun h m =>
      (h.noteAll (change m.caller).2.2, { m with caller := (change m.caller).1 }) := by
  cases hm : n.members[k]? with
  | none => rw [changeCaller_of_none hm, act_of_none hm]
  | some m => rw [changeCaller_of_some hm, act_of_some hm]

theorem size_act (n : Network σ ρ) (k : Nat) (step : Hub σ → Member ρ → Hub σ × Member ρ) :
    (n.act k step).members.size = n.members.size := by
  cases hm : n.members[k]? with
  | none => rw [act_of_none hm]
  | some m =>
    rw [act_of_some hm]
    exact Array.size_setIfInBounds

theorem size_changeCaller {α : Type} (n : Network σ ρ) (k : Nat)
    (change : Caller → Caller × α × List Record) :
    (n.changeCaller k change).1.members.size = n.members.size := by
  cases hm : n.members[k]? with
  | none => rw [changeCaller_of_none hm]
  | some m =>
    rw [changeCaller_of_some hm]
    exact Array.size_setIfInBounds

theorem member_act (hm : n.members[k]? = some m) (step : Hub σ → Member ρ → Hub σ × Member ρ) :
    (n.act k step).members[k]? = some (step n.hub m).2 := by
  rw [act_of_some hm]
  exact (members_set hm _ k).trans (if_pos rfl)

theorem member_act_of_ne {j : Nat} (other : j ≠ k)
    (step : Hub σ → Member ρ → Hub σ × Member ρ) :
    (n.act j step).members[k]? = n.members[k]? := by
  cases hm : n.members[j]? with
  | none => rw [act_of_none hm]
  | some m =>
    rw [act_of_some hm]
    exact (members_set hm _ k).trans (if_neg other)

theorem member_changeCaller_of_ne {α : Type} {j : Nat} (other : j ≠ k)
    (change : Caller → Caller × α × List Record) :
    (n.changeCaller j change).1.members[k]? = n.members[k]? := by
  cases hm : n.members[j]? with
  | none => rw [changeCaller_of_none hm]
  | some m =>
    rw [changeCaller_of_some hm]
    exact (members_set hm _ k).trans (if_neg other)

end SessionHub.Network
