import SessionHub.Proofs.Envelope.Members

set_option autoImplicit false

/-! # Envelopes read back

An envelope without doubles reads back exactly if its text has at most as many brackets open at a
time as a reader allows, and is refused as too deep otherwise (`Envelope.read_write_iff`). What it
carries may then nest as deep as its kind leaves room for (`Envelope.IsShallow`). -/

namespace SessionHub

/-- Whether the values in an envelope are as values are that were built rather than read. -/
def Envelope.IsCanonical : Envelope → Prop
  | viewerMethod _ call => Json.canonicalElements call.args = call.args
  | response _ data | error _ data => data.IsCanonical
  | binary _ _ => True

/-- Whether an envelope gets over as it is: it has no doubles, its values are canonical, and its
    text nests no deeper than a reader allows. -/
structure Envelope.IsPortable (e : Envelope) : Prop where
  floatFree : e.data.floatFree
  canonical : e.IsCanonical
  nesting : e.toJson.nesting ≤ Json.nestingLimit

namespace Envelope

/-! ## The members of an envelope -/

/-- The members of the object that an envelope is written as. -/
def members (e : Envelope) : List (String × Json) :=
  [("type", .string e.kind.name), ("id", MessageId.toJson? e.id), ("data", e.data)]

theorem toJson_eq (e : Envelope) : e.toJson = .object e.members := rfl

theorem isDataOf_data {e : Envelope} (canonical : e.IsCanonical) : IsDataOf e.data e := by
  cases e with
  | viewerMethod id call => exact ⟨rfl, .inr ⟨call.args, rfl, Eq.symm canonical⟩⟩
  | response id data | error id data => exact Eq.symm canonical
  | binary id data => rfl

theorem isSpelledBy_members {e : Envelope} (canonical : e.IsCanonical) : e.IsSpelledBy e.members :=
  ⟨rfl, .inr rfl, .inl ⟨e.data, rfl, isDataOf_data canonical⟩⟩

theorem floatFree_members {e : Envelope} (free : e.data.floatFree) :
    Json.floatFreeMembers e.members := by
  have id : (MessageId.toJson? e.id).floatFree := by cases e.id <;> rfl
  simp [members, Json.floatFreeMembers, Json.floatFree, free, id]

theorem nesting_members (e : Envelope) : Json.nestingMembers e.members = e.data.nesting := by
  have id : (MessageId.toJson? e.id).nesting = 0 := by cases e.id <;> rfl
  simp [members, Json.nestingMembers, Json.nesting, id]

/-- An envelope nests one deeper than what it carries. -/
theorem nesting_toJson (e : Envelope) : e.toJson.nesting = e.data.nesting + 1 := by
  rw [toJson_eq, Json.nesting, nesting_members]

/-! ## How deep an envelope may nest -/

/-- Whether what an envelope carries leaves room for the brackets around it: one in a response or an
    error, three around an argument of a call. -/
def IsShallow : Envelope → Prop
  | viewerMethod _ call => ∀ arg ∈ call.args, arg.nesting ≤ 124
  | response _ data | error _ data => data.nesting ≤ 126
  | binary _ _ => True

theorem nesting_data_binary (id : Option MessageId) (data : Bytes) :
    (binary id data).data.nesting = 1 := by
  have numbers : Json.nestingElements (data.map fun b => .number (.natural b.toUInt64)) ≤ 0 := by
    rw [Json.nestingElements_le]
    intro v hv
    obtain ⟨b, -, rfl⟩ := List.mem_map.mp hv
    exact Nat.le_refl 0
  rw [Envelope.data, Json.nesting]
  omega

theorem nesting_data_viewerMethod (id : Option MessageId) (call : MethodCall) :
    (viewerMethod id call).data.nesting = Json.nestingElements call.args + 2 := by
  rw [Envelope.data, MethodCall.toJson, Json.nesting]
  simp [Json.nestingMembers, Json.nesting]

theorem nesting_toJson_le_iff (e : Envelope) :
    e.toJson.nesting ≤ Json.nestingLimit ↔ e.IsShallow := by
  rw [nesting_toJson, Json.nestingLimit]
  cases e with
  | viewerMethod id call =>
    rw [nesting_data_viewerMethod, IsShallow, ← Json.nestingElements_le]
    omega
  | response id data | error id data =>
    rw [Envelope.data, IsShallow]
    omega
  | binary id data =>
    rw [nesting_data_binary]
    simp [IsShallow]

/-- The first stage refuses data that nest too deep. -/
theorem ofMembers_of_deep {e : Envelope} (deep : Json.nestingLimit - 1 < e.data.nesting) :
    Tagged.ofMembers e.members = Json.refuse .tooDeep := by
  have type : Tagged.takeMember (none, []) ("type", .string e.kind.name)
      = .ok (some e.kind, []) := by
    show (do .ok (← once "type" none (Kind.ofJson (.string e.kind.name)), [])) = _
    rw [Kind.ofJson_eq_ok.mpr rfl]
    rfl
  have id : Tagged.takeMember (some e.kind, []) ("id", MessageId.toJson? e.id)
      = .ok (some e.kind, [("id", MessageId.toJson? e.id)]) := by
    cases e.id <;> rfl
  have data : Tagged.takeMember (some e.kind, [("id", MessageId.toJson? e.id)]) ("data", e.data)
      = Json.refuse .tooDeep := by
    have refused : Json.keepBounded (Json.nestingLimit - 1) [("id", MessageId.toJson? e.id)]
        ("data", e.data) = Json.refuse .tooDeep := if_neg (Nat.not_le.mpr deep)
    show (do .ok (some e.kind, ← Json.keepBounded _ _ _)) = _
    rw [refused]
    rfl
  have taken : e.members.foldlM Tagged.takeMember (none, []) = Json.refuse .tooDeep := by
    simp [members, type, id, data, bind, Except.bind, Json.refuse]
  rw [Tagged.ofMembers, taken]
  rfl

/-! ## Reading back -/

/-- A portable envelope reads back. -/
theorem read_write {e : Envelope} (portable : e.IsPortable) : Envelope.read e.write = .ok e := by
  have fits : Json.nestingMembers e.members ≤ Json.nestingLimit - 1 := by
    have fits := portable.nesting
    rw [nesting_toJson] at fits
    rw [nesting_members]
    omega
  exact (read_object_eq_ok (floatFree_members portable.floatFree) fits).mpr
    (isSpelledBy_members portable.canonical)

/-- What is written of an envelope that nests too deep is refused for this. -/
theorem read_write_of_deep {e : Envelope} (free : e.data.floatFree)
    (deep : Json.nestingLimit < e.toJson.nesting) :
    Envelope.read e.write = Json.refuse .tooDeep := by
  have read : Envelope.read e.write = Tagged.ofMembers e.members >>= Tagged.envelope :=
    read_object (floatFree_members free)
  rw [nesting_toJson, Json.nestingLimit] at deep
  rw [read, ofMembers_of_deep (Nat.lt_of_succ_lt_succ deep)]
  rfl

/-- An envelope reads back from its own text exactly if `nesting ≤ Json.nestingLimit`, which
    `IsShallow` says in terms of its data; otherwise its text is refused with
    `recursion limit exceeded`. -/
theorem read_write_iff {e : Envelope} (free : e.data.floatFree) (canonical : e.IsCanonical) :
    (Envelope.read e.write = .ok e ↔ e.toJson.nesting ≤ Json.nestingLimit) ∧
    (e.toJson.nesting ≤ Json.nestingLimit ↔ e.IsShallow) ∧
    (¬ e.toJson.nesting ≤ Json.nestingLimit → ∃ failure, Envelope.read e.write = .error failure ∧
      failure.category = .syntactic ∧ failure.message = "recursion limit exceeded") := by
  refine ⟨⟨fun read => ?_, fun fits => read_write ⟨free, canonical, fits⟩⟩,
    nesting_toJson_le_iff e, fun deep => ?_⟩
  · refine Nat.le_of_not_lt fun deep => ?_
    rw [read_write_of_deep free deep] at read
    cases read
  · exact ⟨_, read_write_of_deep free (Nat.not_le.mp deep), rfl, rfl⟩

end Envelope

/-! ## The limit -/

/-- Null in `n` arrays, one in the other. -/
def Json.boxed : Nat → Json
  | 0 => .null
  | n + 1 => .array [boxed n]

theorem Json.nesting_boxed (n : Nat) : (boxed n).nesting = n := by
  induction n with
  | zero => rfl
  | succ n ih => simp [boxed, nesting, nestingElements, ih]

theorem Json.floatFree_boxed (n : Nat) : (boxed n).floatFree := by
  induction n with
  | zero => rfl
  | succ n ih => simp [boxed, floatFree, floatFreeElements, ih]

theorem Json.canonical_boxed (n : Nat) : (boxed n).canonical = boxed n := by
  induction n with
  | zero => rfl
  | succ n ih => simp [boxed, canonical, canonicalElements, ih]

namespace Envelope

/-- The last depth that is read and the first that is not. -/
theorem read_write_at_limit :
    let e := viewerMethod (some ⟨1⟩) { method := "render", args := [.null, .boxed 124] }
    let e' := response none (.boxed 127)
    (e.data.floatFree ∧ e.IsCanonical ∧ Envelope.read e.write = .ok e) ∧
    e'.data.floatFree ∧ e'.IsCanonical ∧ ∃ failure, Envelope.read e'.write = .error failure ∧
      failure.category = .syntactic ∧ failure.message = "recursion limit exceeded" := by
  intro e e'
  have free : e.data.floatFree := by
    simp [e, Envelope.data, MethodCall.toJson, Json.floatFree, Json.floatFreeMembers,
      Json.floatFreeElements, Json.floatFree_boxed]
  have canonical : e.IsCanonical := by
    simp [e, IsCanonical, Json.canonicalElements, Json.canonical, Json.canonical_boxed]
  have free' : e'.data.floatFree := Json.floatFree_boxed 127
  have canonical' : e'.IsCanonical := Json.canonical_boxed 127
  obtain ⟨reads, shallow, -⟩ := read_write_iff free canonical
  obtain ⟨-, shallow', refused⟩ := read_write_iff free' canonical'
  refine ⟨⟨free, canonical, reads.mpr (shallow.mpr ?_)⟩, free', canonical',
    refused fun fits => absurd (shallow'.mp fits) ?_⟩
  · simp [e, IsShallow, Json.nesting, Json.nesting_boxed]
  · simp [e', IsShallow, Json.nesting_boxed]

end Envelope

end SessionHub
