import SessionHub.Proofs.Envelope.Spelling
import SessionHub.Proofs.Json.RoundTrip

set_option autoImplicit false

/-! # Envelopes in object form

An object is read as an envelope exactly if its members called `type`, `id` and `data` spell one
(`Envelope.IsSpelledBy`), whatever other members there are and in whatever order
(`Envelope.read_object_iff`). Reading its text comes to taking its members one after the other
(`Tagged.read_object`), also where one of them is refused. -/

namespace SessionHub

open Json (Failure named mismatch)

/-! ## First stage -/

/-- The kind is read from the text of any value as it is made of the value. -/
theorem Kind.read_write {v : Json} (free : v.floatFree) {rest : Bytes} (apart : Json.Apart rest) :
    Kind.read (v.write ++ rest) = (Kind.ofJson v).map fun kind => (kind, rest) :=
  Json.readScalar_write (fun _ => rfl) (fun _ => rfl) free apart

namespace Tagged

/-- Takes one more member: the kind if it is called `type`, else a value to keep. -/
def takeMember (acc : Option Kind × List (String × Json)) (m : String × Json) :
    Except Failure (Option Kind × List (String × Json)) :=
  if m.1 = "type" then do
    .ok (← once "type" acc.1 (Kind.ofJson m.2), acc.2)
  else do
    .ok (acc.1, ← Json.keepBounded (Json.nestingLimit - 1) acc.2 m)

theorem readMember_write {m : String × Json} (free : m.2.floatFree) :
    Json.IsMemberTakenAs readMember takeMember m := by
  intro acc rest apart
  have colon : Json.readColon (Json.Mark.colon :: (m.2.write ++ rest)) = .ok (m.2.write ++ rest) :=
    rfl
  unfold readMember takeMember
  by_cases type : m.1 = "type"
  · rw [if_pos type, if_pos type, colon]
    cases acc.1 with
    | some kind => rfl
    | none =>
      simp only [bind, Except.bind]
      rw [Kind.read_write free apart]
      cases Kind.ofJson m.2 <;> rfl
  · have kept := Json.readMember_write (Json.read_write_eq (Json.nestingLimit - 1) m.2 free)
    rw [if_neg type, if_neg type, kept acc.2 rest apart]
    cases Json.keepBounded (Json.nestingLimit - 1) acc.2 m <;> rfl

/-- What the first stage gives of the members of an object. -/
def ofMembers (members : List (String × Json)) : Except Failure Tagged := do
  let (kind?, kept) ← members.foldlM takeMember (none, [])
  match kind? with
  | some kind => .ok ⟨kind, .named kept⟩
  | none => mismatch (.missingField "type")

/-- An object that was written is read by taking its members in. -/
theorem read_object {members : List (String × Json)} (free : Json.floatFreeMembers members)
    (rest : Bytes) :
    Tagged.read ((Json.object members).write ++ rest) =
      (ofMembers members).map fun tagged => (tagged, rest) := by
  have written : ∀ m ∈ members, Json.IsMemberTakenAs readMember takeMember m := by
    intro m hm
    exact readMember_write (Json.floatFreeMembers_iff.mp free m hm)
  have opened : Tagged.read ((Json.object members).write ++ rest) =
      readObject (Json.writeMembers members ++ rest) := by
    rw [Json.write]
    rfl
  rw [opened, readObject, Json.readObject_write_eq readMember takeMember members written, ofMembers]
  cases members.foldlM takeMember (none, []) with
  | error failure => rfl
  | ok acc =>
    obtain ⟨kind?, kept⟩ := acc
    cases kind? <;> rfl

theorem foldlM_takeMember (members : List (String × Json))
    (fit : ∀ m ∈ members, m.2.nesting ≤ Json.nestingLimit - 1) (kind? : Option Kind)
    (kept : List (String × Json)) :
    members.foldlM takeMember (kind?, kept) =
      (fieldOf "type" Kind.ofJson kind? (named "type" members)).map
        fun kind? => (kind?, kept ++ members.filter (·.1 ≠ "type")) := by
  induction members generalizing kind? kept with
  | nil =>
    rw [List.filter_nil, List.append_nil]
    rfl
  | cons m members ih =>
    have others := ih fun m hm => fit m (List.mem_cons_of_mem _ hm)
    rw [List.foldlM_cons, Json.named_cons, takeMember]
    by_cases type : m.1 = "type"
    · rw [if_pos type, if_pos type, fieldOf, List.foldlM_cons,
        List.filter_cons_of_neg (by simp [type])]
      cases once "type" kind? (Kind.ofJson m.2) with
      | error failure => rfl
      | ok kind? => exact others kind? kept
    · rw [if_neg type, if_neg type, Json.keepBounded, if_pos (fit m List.mem_cons_self),
        List.filter_cons_of_pos (by simp [type])]
      have kept' := others kind? (kept ++ [m])
      rw [List.append_assoc] at kept'
      exact kept'

theorem ofMembers_eq_ok {members : List (String × Json)}
    (fit : ∀ m ∈ members, m.2.nesting ≤ Json.nestingLimit - 1) {kind : Kind} {content : Content} :
    ofMembers members = .ok ⟨kind, content⟩ ↔ named "type" members = [.string kind.name] ∧
      content = .named (members.filter (·.1 ≠ "type")) := by
  rw [ofMembers, foldlM_takeMember members fit]
  constructor
  · intro given
    obtain ⟨⟨kind?, kept⟩, taken, settled⟩ := bind_eq_ok.mp given
    obtain ⟨kind?, field, same⟩ := map_eq_ok.mp taken
    cases same
    obtain ⟨-, rfl⟩ | ⟨v, kind, one, kindOf, rfl⟩ := fieldOf_eq_ok.mp field
    · cases settled
    · cases settled
      exact ⟨Kind.ofJson_eq_ok.mp kindOf ▸ one, rfl⟩
  · rintro ⟨type, rfl⟩
    rw [fieldOf_eq_ok.mpr (.inr ⟨_, kind, type, Kind.ofJson_eq_ok.mpr rfl, rfl⟩)]
    rfl

end Tagged

/-! ## Both stages -/

namespace Envelope

/-- Reading an object that was written comes to making an envelope of its members. -/
theorem read_object {members : List (String × Json)} (free : Json.floatFreeMembers members) :
    Envelope.read (Json.object members).write =
      Tagged.ofMembers members >>= Tagged.envelope := by
  have tagged := Tagged.read_object free []
  rw [List.append_nil] at tagged
  rw [Envelope.read, tagged]
  cases Tagged.ofMembers members with
  | error failure => rfl
  | ok t =>
    show (do
      let e ← t.envelope
      Json.readEnd []
      .ok e) = t.envelope
    cases t.envelope <;> rfl

theorem read_object_eq_ok {members : List (String × Json)} (free : Json.floatFreeMembers members)
    (fits : Json.nestingMembers members ≤ Json.nestingLimit - 1) {e : Envelope} :
    Envelope.read (Json.object members).write = .ok e ↔ e.IsSpelledBy members := by
  have fit := Json.nestingMembers_le.mp fits
  -- the kind is all that the first stage takes from the members
  have id := Json.named_filter "id" (·.1 ≠ "type") members (by simp +contextual)
  have data := Json.named_filter "data" (·.1 ≠ "type") members (by simp +contextual)
  rw [read_object free, bind_eq_ok]
  constructor
  · rintro ⟨⟨kind, content⟩, tagged, made⟩
    obtain ⟨type, rfl⟩ := (Tagged.ofMembers_eq_ok fit).mp tagged
    obtain ⟨rfl, spelled⟩ := ofMembers_eq_ok.mp made
    rw [id, data] at spelled
    exact ⟨type, spelled.1, spelled.2⟩
  · rintro ⟨type, ident, carried⟩
    have made : ofMembers e.kind (members.filter (·.1 ≠ "type")) = .ok e :=
      ofMembers_eq_ok.mpr ⟨rfl, id.symm ▸ ident, data.symm ▸ carried⟩
    exact ⟨_, (Tagged.ofMembers_eq_ok fit).mpr ⟨type, rfl⟩, made⟩

/-- Whether a member has one of the three names that matter. -/
def isField (m : String × Json) : Bool :=
  m.1 = "type" || m.1 = "id" || m.1 = "data"

/-- What the members spell depends neither on their order nor on members of other names. -/
theorem IsSpelledBy.perm {e : Envelope} {members members' : List (String × Json)}
    (spelled : e.IsSpelledBy members)
    (same : (members'.filter isField).Perm (members.filter isField)) : e.IsSpelledBy members' := by
  have values : ∀ name, (∀ m : String × Json, m.1 = name → isField m) →
      (named name members').Perm (named name members) := by
    intro name field
    rw [← Json.named_filter name isField members field,
      ← Json.named_filter name isField members' field]
    exact (same.filter _).map _
  -- at most one value stands under each name, so that there is nothing to permute
  have type := values "type" (by simp +contextual [isField])
  have id := values "id" (by simp +contextual [isField])
  have data := values "data" (by simp +contextual [isField])
  obtain ⟨kind, ident, carried⟩ := spelled
  refine ⟨?_, ?_, ?_⟩
  · rw [kind] at type
    exact List.perm_singleton.mp type
  · rcases ident with ⟨absent, unnamed⟩ | one
    · rw [absent] at id
      exact .inl ⟨List.perm_nil.mp id, unnamed⟩
    · rw [one] at id
      exact .inr (List.perm_singleton.mp id)
  · rcases carried with ⟨v, one, carried⟩ | ⟨absent, null⟩
    · rw [one] at data
      exact .inl ⟨v, List.perm_singleton.mp data, carried⟩
    · rw [absent] at data
      exact .inr ⟨List.perm_nil.mp data, null⟩

/-- An object is read as the envelope `e` exactly if its members spell `e` (`IsSpelledBy`). Neither
    the order of its members nor members of other names (`isField`) make a difference. -/
theorem read_object_iff {members : List (String × Json)} (free : Json.floatFreeMembers members)
    (fits : Json.nestingMembers members ≤ 126) :
    (∀ e, Envelope.read (Json.object members).write = .ok e ↔ e.IsSpelledBy members) ∧
    ∀ members', Json.floatFreeMembers members' → Json.nestingMembers members' ≤ 126 →
      (members'.filter isField).Perm (members.filter isField) →
      ∀ e, Envelope.read (Json.object members').write = .ok e ↔
        Envelope.read (Json.object members).write = .ok e := by
  refine ⟨fun e => read_object_eq_ok free fits, fun members' free' fits' same e => ?_⟩
  rw [read_object_eq_ok free fits, read_object_eq_ok free' fits']
  exact ⟨fun spelled => spelled.perm same.symm, fun spelled => spelled.perm same⟩

/-- A call whose members stand in no particular order, beside one that does not matter. -/
theorem read_object_shuffled :
    let members : List (String × Json) :=
      [("data", .object [("args", .array [.bool true]), ("method", .string "render")]),
        ("sent", .array [.null]), ("id", .number (.natural 7)), ("type", .string "viewer_method")]
    let e := Envelope.viewerMethod (some ⟨7⟩) { method := "render", args := [.bool true] }
    Json.floatFreeMembers members ∧ Json.nestingMembers members ≤ 126 ∧
    Envelope.read (Json.object members).write = .ok e ∧
    Envelope.read (Json.object (members.reverse.filter isField)).write = .ok e := by
  intro members e
  have free : Json.floatFreeMembers members := by decide
  have fits : Json.nestingMembers members ≤ 126 := by decide
  have ⟨spelled, same⟩ := read_object_iff free fits
  have read : Envelope.read (Json.object members).write = .ok e :=
    (spelled e).mpr ⟨rfl, .inr rfl, .inl ⟨_, rfl, rfl, .inr ⟨_, rfl, rfl⟩⟩⟩
  refine ⟨free, fits, read, (same _ (by decide) (by decide) ?_ e).mpr read⟩
  rw [List.filter_filter]
  exact (List.reverse_perm members).filter _

end Envelope

end SessionHub
