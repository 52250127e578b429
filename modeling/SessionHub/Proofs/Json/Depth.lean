import SessionHub.Proofs.Json.Outcomes
import SessionHub.Proofs.Json.RoundTrip

set_option autoImplicit false

/-! # How deep read values nest

A reader with a budget gives no value that nests deeper, whatever text it reads (`gives_read`). What
a reader may give at all (`Gives`) follows from what the readers of its parts may give: the elements
of an array have what each element has, and what is gathered from the members of an object has what
each of them keeps up. -/

namespace SessionHub.Json

variable {α σ : Type}

/-- Whether all that a reader gives has the property `P`. -/
def Gives (reader : Reader α) (P : α → Prop) : Prop :=
  ∀ s v rest, reader s = .ok (v, rest) → P v

theorem gives_refusal {P : α → Prop} {refusal : Bytes → Failure} :
    Gives (fun s => .error (refusal s)) P :=
  fun _ _ _ => nofun

/-! ## Scalars -/

/-- What is read without brackets is a scalar. -/
theorem isScalar_of_readToken {b : UInt8} {rest : Bytes} {p : Json × Bytes}
    (read : readToken b rest = .ok p) : p.1.isScalar := by
  unfold readToken at read
  -- three words, a string and a number
  iterate 5
    split at read
    · obtain ⟨_, -, same⟩ := bind_eq_ok.mp read
      cases same
      rfl
  cases read

/-- A value of any sort is given by what is made of scalars, arrays and objects. -/
theorem gives_dispatch {P : α → Prop} {scalar : Json → Except Failure α} {array object : Reader α}
    (ofScalar : ∀ v a, v.isScalar → scalar v = .ok a → P a) (inArray : Gives array P)
    (inObject : Gives object P) : Gives (dispatch scalar array object) P := by
  intro s a rest read
  cases found : skipBlank s with
  | nil =>
    rw [dispatch, found] at read
    cases read
  | cons b rest' =>
    rw [dispatch_of_value found] at read
    split at read
    · exact inArray rest' a rest read
    · split at read
      · exact inObject rest' a rest read
      · obtain ⟨p, token, settled⟩ := bind_eq_ok.mp read
        exact ofScalar p.1 a (isScalar_of_readToken token) (made_eq_ok.mp settled).1

/-! ## Brackets -/

theorem gives_readElements {P : α → Prop} {element : Reader α} (each : Gives element P)
    (fuel : Nat) (first : Bool) :
    Gives (readElements element fuel first) fun vs => ∀ v ∈ vs, P v := by
  induction fuel generalizing first with
  | zero => exact gives_refusal
  | succ fuel ih =>
    intro s vs rest read
    obtain ⟨next, -, read⟩ := bind_eq_ok.mp read
    cases next with
    | closed rest' =>
      cases read
      exact nofun
    | element s' =>
      obtain ⟨⟨v, s''⟩, one, read⟩ := bind_eq_ok.mp read
      obtain ⟨⟨more, last⟩, others, same⟩ := bind_eq_ok.mp read
      cases same
      exact List.forall_mem_cons.mpr ⟨each s' v s'' one, ih false s'' more rest others⟩

/-- What holds before the members and is kept up by each of them holds after them. -/
theorem gives_readMembers {P : σ → Prop} {member : σ → String → Reader σ}
    (each : ∀ acc name, P acc → Gives (member acc name) P) (fuel : Nat) (first : Bool) {acc : σ}
    (start : P acc) : Gives (readMembers member fuel first acc) P := by
  induction fuel generalizing first acc with
  | zero => exact gives_refusal
  | succ fuel ih =>
    intro s acc' rest read
    obtain ⟨next, -, read⟩ := bind_eq_ok.mp read
    cases next with
    | closed rest' =>
      cases read
      exact start
    | member name s' =>
      obtain ⟨⟨acc'', s''⟩, one, others⟩ := bind_eq_ok.mp read
      exact ih false (each acc name start s' acc'' s'' one) s'' acc' rest others

/-! ## Values -/

theorem gives_readMember {value : Reader Json} {budget : Nat}
    (each : Gives value fun v => v.nesting ≤ budget) {members : List (String × Json)}
    (fits : nestingMembers members ≤ budget) (name : String) :
    Gives (readMember value members name) fun members => nestingMembers members ≤ budget := by
  intro s members' rest read
  obtain ⟨s', -, read⟩ := bind_eq_ok.mp read
  obtain ⟨p, one, same⟩ := bind_eq_ok.mp read
  cases same
  rw [nestingMembers_le] at fits ⊢
  have last : p.1.nesting ≤ budget := each s' p.1 p.2 one
  exact List.forall_mem_append.mpr ⟨fits, List.forall_mem_singleton.mpr last⟩

/-- A reader gives nothing that nests deeper than it allows. -/
theorem gives_read (budget : Nat) : Gives (read budget) fun v => v.nesting ≤ budget := by
  have scalars : ∀ n, ∀ v a : Json, v.isScalar → Except.ok (ε := Failure) v = .ok a →
      a.nesting ≤ n := by
    intro n v a scalar same
    cases same
    rw [nesting_scalar scalar]
    exact Nat.zero_le n
  induction budget with
  | zero => exact gives_dispatch (scalars 0) gives_refusal gives_refusal
  | succ budget ih =>
    refine gives_dispatch (scalars _) (fun s v rest read => ?_) fun s v rest read => ?_
    · obtain ⟨⟨elements, s'⟩, inside, same⟩ := bind_eq_ok.mp read
      cases same
      exact Nat.succ_le_succ (nestingElements_le.mpr (gives_readElements ih _ _ _ _ _ inside))
    · obtain ⟨⟨members, s'⟩, inside, same⟩ := bind_eq_ok.mp read
      cases same
      have empty : nestingMembers [] ≤ budget := Nat.zero_le budget
      exact Nat.succ_le_succ (gives_readMembers (fun _ name fits => gives_readMember ih fits name)
        _ _ empty _ _ _ inside)

end SessionHub.Json
