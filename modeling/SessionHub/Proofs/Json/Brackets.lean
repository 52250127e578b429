import SessionHub.Proofs.Json.Scalars

set_option autoImplicit false

/-! # Arrays and objects

What is written in brackets one by one is read one by one: if reading each element comes to taking
its value (`IsTakenAs`), then reading the array comes to taking all of them in their order
(`readArray_write_eq`), and so with the members of an object (`readObject_write_eq`). -/

namespace SessionHub.Json

/-! ## Brackets -/

/-- What stands before an element or a member: nothing if it is the first, and a comma otherwise. -/
def separator (first : Bool) : Bytes :=
  if first then [] else [Mark.comma]

section Brackets

variable {α : Type} (element : Reader α) (fuel : Nat)

/-- The closing bracket ends an array. -/
theorem readElements_close (first : Bool) (rest : Bytes) :
    readElements element (fuel + 1) first (Mark.closeArray :: rest) = .ok ([], rest) := by
  cases first <;> rfl

/-- An element is read where it stands, behind the bracket or a comma. -/
theorem readElements_element (first : Bool) {b : UInt8} (blank : Mark.isBlank b = false)
    (open_ : b ≠ Mark.closeArray) (s : Bytes) :
    readElements element (fuel + 1) first (separator first ++ b :: s) = (do
      let (v, rest) ← element (b :: s)
      let (more, rest) ← readElements element fuel false rest
      .ok (v :: more, rest)) := by
  have next : nextElement first (separator first ++ b :: s) = .ok (.element (b :: s)) := by
    cases first with
    | true =>
      show nextElement true (b :: s) = _
      rw [nextElement, skipBlank_of_not_blank blank]
      simp only [open_, if_false, if_true]
    | false =>
      have comma : Mark.isBlank Mark.comma = false ∧ Mark.comma ≠ Mark.closeArray := by decide
      show nextElement false (Mark.comma :: b :: s) = _
      rw [nextElement, skipBlank_of_not_blank comma.1]
      simp only [comma.2, Bool.false_eq_true, skipBlank_of_not_blank blank, open_, if_false,
        if_true]
  rw [readElements, next]
  rfl

end Brackets

section Members

variable {σ : Type} (member : σ → String → Reader σ) (fuel : Nat)

/-- The closing bracket ends an object. -/
theorem readMembers_close (first : Bool) (acc : σ) (rest : Bytes) :
    readMembers member (fuel + 1) first acc (Mark.closeObject :: rest) = .ok (acc, rest) := by
  cases first <;> rfl

/-- A member is read where it stands, behind the bracket or a comma. -/
theorem readMembers_member (first : Bool) (acc : σ) (name : String) (s : Bytes) :
    readMembers member (fuel + 1) first acc (separator first ++ (writeString name ++ s)) = (do
      let (acc, rest) ← member acc name s
      readMembers member fuel false acc rest) := by
  obtain ⟨body, text, read⟩ := readString_write name s
  have next : nextMember first (separator first ++ (writeString name ++ s)) =
      .ok (.member name s) := by
    have named : nextMember first (separator first ++ (writeString name ++ s)) =
        nextMember.name body := by
      rw [text]
      cases first <;> rfl
    rw [named, nextMember.name, read]
    rfl
  rw [readMembers, next]
  rfl

end Members

/-- Each element takes a byte at least, and so does the bracket. -/
theorem length_lt_writeMoreElements (elements : List Json) :
    elements.length < (writeMoreElements elements).length := by
  induction elements with
  | nil => exact Nat.one_pos
  | cons v elements ih =>
    rw [writeMoreElements, List.length_cons, List.length_cons, List.length_append]
    omega

theorem length_le_writeElements (elements : List Json) :
    elements.length ≤ (writeElements elements).length := by
  cases elements with
  | nil => exact Nat.zero_le _
  | cons v elements =>
    have := length_lt_writeMoreElements elements
    rw [writeElements, List.length_cons, List.length_append]
    omega

theorem length_lt_writeMoreMembers (members : List (String × Json)) :
    members.length < (writeMoreMembers members).length := by
  induction members with
  | nil => exact Nat.one_pos
  | cons m members ih =>
    simp only [writeMoreMembers, List.length_cons, List.length_append]
    omega

theorem length_le_writeMembers (members : List (String × Json)) :
    members.length ≤ (writeMembers members).length := by
  cases members with
  | nil => exact Nat.zero_le _
  | cons m members =>
    have := length_lt_writeMoreMembers members
    simp only [writeMembers, List.length_cons, List.length_append]
    omega

/-! ## Element by element -/

section ElementByElement

variable {α : Type} (element : Reader α) (take : Json → Except Failure α)

/-- Whether an element that was written is taken as `take` does. -/
def IsTakenAs (v : Json) : Prop :=
  ∀ rest : Bytes, Apart rest → element (v.write ++ rest) = (take v).map fun a => (a, rest)

/-- An element, and then the others. -/
theorem readElements_then {v : Json} (written : IsTakenAs element take v) {elements : List Json}
    {fuel : Nat} {rest : Bytes}
    (others : readElements element fuel false (writeMoreElements elements ++ rest) =
      (elements.mapM take).map fun as => (as, rest)) :
    (do
      let (a, rest) ← element (v.write ++ (writeMoreElements elements ++ rest))
      let (more, rest) ← readElements element fuel false rest
      .ok (a :: more, rest)) = ((v :: elements).mapM take).map fun as => (as, rest) := by
  rw [written _ (apart_writeMoreElements elements rest), List.mapM_cons]
  cases take v with
  | error failure => rfl
  | ok a =>
    show (do
      let (more, rest) ← readElements element fuel false (writeMoreElements elements ++ rest)
      .ok (a :: more, rest)) = _
    rw [others]
    cases elements.mapM take <;> rfl

theorem readMoreElements_write_eq (elements : List Json) (free : floatFreeElements elements)
    (written : ∀ v ∈ elements, IsTakenAs element take v) (fuel : Nat)
    (enough : elements.length < fuel) (rest : Bytes) :
    readElements element fuel false (writeMoreElements elements ++ rest) =
      (elements.mapM take).map fun as => (as, rest) := by
  induction elements generalizing fuel with
  | nil =>
    obtain ⟨fuel, rfl⟩ := Nat.exists_eq_add_one_of_ne_zero (Nat.ne_zero_of_lt enough)
    exact readElements_close element fuel false rest
  | cons v elements ih =>
    obtain ⟨fuel, rfl⟩ := Nat.exists_eq_add_one_of_ne_zero (Nat.ne_zero_of_lt enough)
    simp only [floatFreeElements, Bool.and_eq_true] at free
    have others := ih free.2 (fun v hv => written v (List.mem_cons_of_mem _ hv)) fuel
      (Nat.lt_of_succ_lt_succ enough)
    obtain ⟨b, s, text, blank, open_⟩ := start_write free.1
    have more := readElements_element element fuel false blank open_
      (s ++ (writeMoreElements elements ++ rest))
    rw [← List.cons_append, ← text] at more
    rw [writeMoreElements, List.cons_append, List.append_assoc]
    exact more.trans (readElements_then element take (written v List.mem_cons_self) others)

/-- An array that was written is read by taking its elements. -/
theorem readArray_write_eq (elements : List Json) (free : floatFreeElements elements)
    (written : ∀ v ∈ elements, IsTakenAs element take v) (rest : Bytes) :
    readArray element (writeElements elements ++ rest) =
      (elements.mapM take).map fun as => (as, rest) := by
  cases elements with
  | nil => exact readElements_close element _ true rest
  | cons v elements =>
    have enough : elements.length < (writeElements (v :: elements) ++ rest).length := by
      have := length_le_writeElements (v :: elements)
      rw [List.length_cons] at this
      rw [List.length_append]
      omega
    rw [readArray]
    generalize (writeElements (v :: elements) ++ rest).length = fuel at enough
    simp only [floatFreeElements, Bool.and_eq_true] at free
    have others := readMoreElements_write_eq element take elements free.2
      (fun v hv => written v (List.mem_cons_of_mem _ hv)) fuel enough rest
    obtain ⟨b, s, text, blank, open_⟩ := start_write free.1
    have first := readElements_element element fuel true blank open_
      (s ++ (writeMoreElements elements ++ rest))
    rw [← List.cons_append, ← text] at first
    rw [writeElements, List.append_assoc]
    exact first.trans (readElements_then element take (written v List.mem_cons_self) others)

end ElementByElement

/-! ## Member by member -/

section MemberByMember

variable {σ : Type} (member : σ → String → Reader σ)
  (take : σ → String × Json → Except Failure σ)

/-- Whether a member that was written is taken in as `take` does. -/
def IsMemberTakenAs (m : String × Json) : Prop :=
  ∀ (acc : σ) (rest : Bytes), Apart rest →
    member acc m.1 (Mark.colon :: (m.2.write ++ rest)) = (take acc m).map fun acc => (acc, rest)

/-- A member, and then the others. -/
theorem readMembers_then {m : String × Json} (written : IsMemberTakenAs member take m)
    {members : List (String × Json)} {fuel : Nat} {rest : Bytes}
    (others : ∀ acc, readMembers member fuel false acc (writeMoreMembers members ++ rest) =
      (members.foldlM take acc).map fun acc => (acc, rest)) (acc : σ) :
    (do
      let (acc, rest) ← member acc m.1
        (Mark.colon :: (m.2.write ++ (writeMoreMembers members ++ rest)))
      readMembers member fuel false acc rest) =
      ((m :: members).foldlM take acc).map fun acc => (acc, rest) := by
  rw [written acc _ (apart_writeMoreMembers members rest), List.foldlM_cons]
  cases take acc m with
  | error failure => rfl
  | ok acc' => exact others acc'

theorem readMoreMembers_write_eq (members : List (String × Json))
    (written : ∀ m ∈ members, IsMemberTakenAs member take m) (fuel : Nat)
    (enough : members.length < fuel) (acc : σ) (rest : Bytes) :
    readMembers member fuel false acc (writeMoreMembers members ++ rest) =
      (members.foldlM take acc).map fun acc => (acc, rest) := by
  induction members generalizing fuel acc with
  | nil =>
    obtain ⟨fuel, rfl⟩ := Nat.exists_eq_add_one_of_ne_zero (Nat.ne_zero_of_lt enough)
    exact readMembers_close member fuel false acc rest
  | cons m members ih =>
    obtain ⟨fuel, rfl⟩ := Nat.exists_eq_add_one_of_ne_zero (Nat.ne_zero_of_lt enough)
    have others := ih (fun m hm => written m (List.mem_cons_of_mem _ hm)) fuel
      (Nat.lt_of_succ_lt_succ enough)
    rw [writeMoreMembers, List.cons_append, List.append_assoc, List.cons_append, List.append_assoc]
    exact (readMembers_member member fuel false acc m.1 _).trans
      (readMembers_then member take (written m List.mem_cons_self) others acc)

/-- An object that was written is read by taking its members in. -/
theorem readObject_write_eq (members : List (String × Json))
    (written : ∀ m ∈ members, IsMemberTakenAs member take m) (acc : σ) (rest : Bytes) :
    readObject member acc (writeMembers members ++ rest) =
      (members.foldlM take acc).map fun acc => (acc, rest) := by
  cases members with
  | nil => exact readMembers_close member _ true acc rest
  | cons m members =>
    have enough : members.length < (writeMembers (m :: members) ++ rest).length := by
      have := length_le_writeMembers (m :: members)
      rw [List.length_cons] at this
      rw [List.length_append]
      omega
    rw [readObject]
    generalize (writeMembers (m :: members) ++ rest).length = fuel at enough
    have others := fun acc => readMoreMembers_write_eq member take members
      (fun m hm => written m (List.mem_cons_of_mem _ hm)) fuel enough acc rest
    rw [writeMembers, List.append_assoc, List.cons_append, List.append_assoc]
    exact (readMembers_member member fuel true acc m.1 _).trans
      (readMembers_then member take (written m List.mem_cons_self) others acc)

end MemberByMember

end SessionHub.Json
