import SessionHub.Envelope.Decode
import SessionHub.Proofs.Json.Outcomes

set_option autoImplicit false

/-! # What values spell

The second stage of reading makes an envelope of values that were kept. It gives an envelope exactly
if the values spell it: their kind, their identity and their data (`Envelope.ofMembers_eq_ok`). How
often a member may stand is the same for all of them (`fieldOf_eq_ok`). -/

namespace SessionHub

open Json (Failure mismatch)

/-! ## Scalars and bytes -/

theorem Json.stringOf_eq_ok {v : Json} {s : String} : Json.stringOf v = .ok s ↔ v = .string s := by
  cases v <;> simp [Json.stringOf, mismatch]

theorem Json.elements_eq_ok {v : Json} {elements : List Json} :
    v.elements = .ok elements ↔ v = .array elements := by
  cases v <;> simp [Json.elements, mismatch]

theorem Json.unsigned_eq_ok {width : Json.Width} {v : Json} {n : Nat} :
    Json.unsigned width v = .ok n ↔
      ∃ m : UInt64, v = .number (.natural m) ∧ m.toNat < width.bound ∧ m.toNat = n := by
  unfold Json.unsigned
  split
  · rename_i m
    by_cases small : m.toNat < width.bound
    · simp [small]
    · simp [small, mismatch]
  · simp [mismatch]
  · simp_all [mismatch]

theorem Kind.ofName?_name (kind : Kind) : Kind.ofName? kind.name = some kind := by
  cases kind <;> decide

theorem Kind.ofName?_eq_some {name : String} {kind : Kind} :
    Kind.ofName? name = some kind ↔ name = kind.name := by
  refine ⟨fun found => ?_, fun same => same ▸ Kind.ofName?_name kind⟩
  have named := List.find?_some found
  exact (beq_iff_eq.mp named).symm

theorem Kind.ofJson_eq_ok {v : Json} {kind : Kind} :
    Kind.ofJson v = .ok kind ↔ v = .string kind.name := by
  unfold Kind.ofJson
  split
  · rename_i name
    rw [Json.string.injEq, ← Kind.ofName?_eq_some]
    cases Kind.ofName? name <;> simp [mismatch]
  · rename_i other
    simp only [mismatch, reduceCtorEq, false_iff]
    exact fun same => other _ same

theorem MessageId.ofJson_toJson (id : MessageId) : MessageId.ofJson id.toJson = .ok id := by
  have small : id.val.toNat < Json.Width.sixtyFour.bound := id.val.toNat_lt
  have unsigned : Json.unsigned .sixtyFour id.toJson = .ok id.val.toNat := if_pos small
  rw [MessageId.ofJson, unsigned]
  show Except.ok (⟨id.val.toNat.toUInt64⟩ : MessageId) = _
  simp

theorem MessageId.ofJson_eq_ok {v : Json} {id : MessageId} :
    MessageId.ofJson v = .ok id ↔ v = id.toJson := by
  refine ⟨fun read => ?_, fun same => same ▸ MessageId.ofJson_toJson id⟩
  obtain ⟨n, unsigned, same⟩ := bind_eq_ok.mp read
  obtain ⟨m, rfl, -, rfl⟩ := Json.unsigned_eq_ok.mp unsigned
  cases same
  simp [MessageId.toJson]

/-- The identity of an envelope in JSON. -/
def MessageId.toJson? : Option MessageId → Json
  | some id => id.toJson
  | none => .null

theorem identOf_toJson? (id : Option MessageId) : identOf (MessageId.toJson? id) = .ok id := by
  cases id with
  | none => rfl
  | some id =>
    show some <$> MessageId.ofJson id.toJson = _
    rw [MessageId.ofJson_toJson]
    rfl

theorem identOf_eq_ok {v : Json} {id : Option MessageId} :
    identOf v = .ok id ↔ v = MessageId.toJson? id := by
  refine ⟨fun given => ?_, fun same => same ▸ identOf_toJson? id⟩
  unfold identOf at given
  split at given
  · cases given
    rfl
  · obtain ⟨n, read, rfl⟩ := map_eq_ok.mp given
    rw [MessageId.ofJson_eq_ok.mp read]
    rfl

theorem byteOf_number (b : UInt8) : byteOf (.number (.natural b.toUInt64)) = .ok b := by
  have small : b.toUInt64.toNat < Json.Width.eight.bound := by
    rw [UInt8.toNat_toUInt64]
    exact b.toNat_lt
  have unsigned : Json.unsigned .eight (.number (.natural b.toUInt64)) = .ok b.toUInt64.toNat :=
    if_pos small
  rw [byteOf, unsigned]
  show Except.ok b.toUInt64.toNat.toUInt8 = _
  simp

theorem byteOf_eq_ok {v : Json} {b : UInt8} :
    byteOf v = .ok b ↔ v = .number (.natural b.toUInt64) := by
  refine ⟨fun read => ?_, fun same => same ▸ byteOf_number b⟩
  obtain ⟨n, unsigned, same⟩ := bind_eq_ok.mp read
  obtain ⟨m, rfl, small, rfl⟩ := Json.unsigned_eq_ok.mp unsigned
  cases same
  -- a number of a byte is not cut
  have back : m.toNat.toUInt8.toUInt64 = m := by
    apply UInt64.toNat.inj
    rw [UInt8.toNat_toUInt64]
    exact Nat.mod_eq_of_lt small
  rw [back]

theorem bytesOf_numbers (data : Bytes) :
    bytesOf (.array (data.map fun b => .number (.natural b.toUInt64))) = .ok data := by
  show List.mapM byteOf (data.map fun b => .number (.natural b.toUInt64)) = _
  induction data with
  | nil => rfl
  | cons b data ih =>
    rw [List.map_cons, List.mapM_cons, byteOf_number, ih]
    rfl

theorem bytesOf_eq_ok {v : Json} {data : Bytes} :
    bytesOf v = .ok data ↔ v = .array (data.map fun b => .number (.natural b.toUInt64)) := by
  refine ⟨fun read => ?_, fun same => same ▸ bytesOf_numbers data⟩
  obtain ⟨elements, array, bytes⟩ := bind_eq_ok.mp read
  rw [Json.elements_eq_ok.mp array]
  clear read array
  congr 1
  induction elements generalizing data with
  | nil =>
    cases bytes
    rfl
  | cons v elements ih =>
    rw [List.mapM_cons] at bytes
    obtain ⟨b, first, others⟩ := bind_eq_ok.mp bytes
    obtain ⟨rest, more, same⟩ := bind_eq_ok.mp others
    cases same
    rw [List.map_cons, byteOf_eq_ok.mp first, ih more]

/-! ## Members of a name -/

namespace Json

/-- The values of the members called `name`, in order. -/
def named (name : String) (members : List (String × Json)) : List Json :=
  (members.filter (·.1 = name)).map (·.2)

theorem named_cons (name : String) (m : String × Json) (members : List (String × Json)) :
    named name (m :: members) =
      if m.1 = name then m.2 :: named name members else named name members := by
  unfold named
  by_cases same : m.1 = name <;> simp [same]

theorem named_filter (name : String) (p : String × Json → Bool) (members : List (String × Json))
    (kept : ∀ m, m.1 = name → p m) : named name (members.filter p) = named name members := by
  unfold named
  rw [List.filter_filter]
  congr 2
  funext m
  by_cases same : m.1 = name
  · simp [same, kept m same]
  · simp [same]

end Json

open Json (named)

/-! ## Members that may stand once -/

section Fields

variable {α β : Type}

/-- What `field?` becomes with the values of further members of its name. -/
def fieldOf (name : String) (read : Json → Except Failure α) (field? : Option α)
    (values : List Json) : Except Failure (Option α) :=
  values.foldlM (fun field? v => once name field? (read v)) field?

/-- A field is given at most once. -/
theorem fieldOf_eq_ok {name : String} {read : Json → Except Failure α} {values : List Json}
    {field? : Option α} : fieldOf name read none values = .ok field? ↔
      values = [] ∧ field? = none ∨ ∃ v a, values = [v] ∧ read v = .ok a ∧ field? = some a := by
  match values with
  | [] => simp [fieldOf, pure, Except.pure, eq_comm]
  | [v] =>
    have one : fieldOf name read none [v] = some <$> read v := by
      rw [fieldOf, List.foldlM_cons, once]
      cases read v <;> rfl
    rw [one, map_eq_ok]
    simp [eq_comm]
  | v :: v' :: values =>
    have more : ∀ f, fieldOf name read none (v :: v' :: values) ≠ .ok f := by
      intro f
      rw [fieldOf, List.foldlM_cons, once]
      cases read v <;> exact nofun
    simp [more]

/-- Takes one more member into one of two fields. -/
def takeEither (name name' : String) (read : Json → Except Failure α)
    (read' : Json → Except Failure β) (acc : Option α × Option β) (m : String × Json) :
    Except Failure (Option α × Option β) :=
  if m.1 = name then do
    .ok (← once name acc.1 (read m.2), acc.2)
  else if m.1 = name' then do
    .ok (acc.1, ← once name' acc.2 (read' m.2))
  else .ok acc

/-- Each of two fields depends on the members of its name only. -/
theorem foldlM_takeEither {name name' : String} (apart : name ≠ name')
    {read : Json → Except Failure α} {read' : Json → Except Failure β}
    (members : List (String × Json)) (x x' : Option α) (y y' : Option β) :
    members.foldlM (takeEither name name' read read') (x, y) = .ok (x', y') ↔
      fieldOf name read x (named name members) = .ok x' ∧
      fieldOf name' read' y (named name' members) = .ok y' := by
  induction members generalizing x y with
  | nil => simp [fieldOf, Json.named, pure, Except.pure]
  | cons m members ih =>
    rw [List.foldlM_cons, Json.named_cons, Json.named_cons]
    -- where a field is refused, so is one side or the other
    by_cases first : m.1 = name
    · have other : m.1 ≠ name' := fun same => apart (first.symm.trans same)
      rw [if_pos first, if_neg other, takeEither, if_pos first, fieldOf, List.foldlM_cons]
      cases once name x (read m.2) with
      | error failure => exact ⟨nofun, fun h => nomatch h.1⟩
      | ok x'' => exact ih x'' y
    · rw [if_neg first, takeEither, if_neg first]
      by_cases second : m.1 = name'
      · rw [if_pos second, if_pos second, fieldOf.eq_def name', List.foldlM_cons]
        cases once name' y (read' m.2) with
        | error failure => exact ⟨nofun, fun h => nomatch h.2⟩
        | ok y'' => exact ih x y''
      · rw [if_neg second, if_neg second]
        exact ih x y

end Fields

/-! ## Calls -/

namespace MethodCall

/-- Whether a value spells a call: an object with one `method` and at most one `args`, or an array
    of the method and possibly the arguments. -/
def IsSpelledBy (call : MethodCall) : Json → Prop
  | .object members =>
    named "method" members = [.string call.method] ∧
      (named "args" members = [] ∧ call.args = [] ∨
        ∃ args, named "args" members = [.array args] ∧ call.args = Json.canonicalElements args)
  | .array elements =>
    elements = [.string call.method] ∧ call.args = [] ∨
      ∃ args, elements = [.string call.method, .array args] ∧
        call.args = Json.canonicalElements args
  | _ => False

theorem takeMember_eq : takeMember = takeEither "method" "args" Json.stringOf
    (fun v => v.elements.map Json.canonicalElements) := rfl

theorem ofFields_eq_ok {method? : Option String} {args? : Option (List Json)} {call : MethodCall} :
    ofFields method? args? = .ok call ↔ method? = some call.method ∧ call.args = args?.getD [] := by
  obtain ⟨method, args⟩ := call
  cases method? <;> simp [ofFields, mismatch, eq_comm]

theorem ofJson_object_eq_ok {members : List (String × Json)} {call : MethodCall} :
    ofJson (.object members) = .ok call ↔ call.IsSpelledBy (.object members) := by
  have taken : ofJson (.object members) = .ok call ↔ ∃ method? args?,
      (fieldOf "method" Json.stringOf none (named "method" members) = .ok method? ∧
        fieldOf "args" (fun v => Json.canonicalElements <$> v.elements) none (named "args" members)
          = .ok args?) ∧
      method? = some call.method ∧ call.args = args?.getD [] := by
    rw [ofJson, takeMember_eq, bind_eq_ok, Prod.exists]
    simp only [foldlM_takeEither (by decide : "method" ≠ "args"), ofFields_eq_ok]
    exact Iff.rfl
  rw [taken]
  constructor
  · rintro ⟨_, args?, ⟨method, args⟩, rfl, same⟩
    obtain ⟨-, absent⟩ | ⟨v, name, one, string, given⟩ := fieldOf_eq_ok.mp method
    · cases absent
    cases given
    refine ⟨Json.stringOf_eq_ok.mp string ▸ one, ?_⟩
    obtain ⟨absent, rfl⟩ | ⟨v', elements, one, array, rfl⟩ := fieldOf_eq_ok.mp args
    · exact .inl ⟨absent, same⟩
    · obtain ⟨elements, list, rfl⟩ := map_eq_ok.mp array
      exact .inr ⟨elements, Json.elements_eq_ok.mp list ▸ one, same⟩
  · rintro ⟨method, args⟩
    have method' : fieldOf "method" Json.stringOf none _ = .ok (some call.method) :=
      fieldOf_eq_ok.mpr (.inr ⟨_, _, method, rfl, rfl⟩)
    obtain ⟨absent, same⟩ | ⟨elements, one, same⟩ := args
    · exact ⟨_, _, ⟨method', fieldOf_eq_ok.mpr (.inl ⟨absent, rfl⟩)⟩, rfl, same⟩
    · exact ⟨_, _, ⟨method', fieldOf_eq_ok.mpr (.inr ⟨_, _, one, rfl, rfl⟩)⟩, rfl, same⟩

theorem ofJson_array_eq_ok {elements : List Json} {call : MethodCall} :
    ofJson (.array elements) = .ok call ↔ call.IsSpelledBy (.array elements) := by
  constructor
  · intro read
    match elements with
    | [] => cases read
    | [method] =>
      obtain ⟨name, string, same⟩ := bind_eq_ok.mp read
      cases same
      exact .inl ⟨by rw [Json.stringOf_eq_ok.mp string], rfl⟩
    | method :: args :: more =>
      obtain ⟨name, string, others⟩ := bind_eq_ok.mp read
      obtain ⟨elements, list, same⟩ := bind_eq_ok.mp others
      cases more with
      | nil =>
        cases same
        rw [Json.stringOf_eq_ok.mp string, Json.elements_eq_ok.mp list]
        exact .inr ⟨elements, rfl, rfl⟩
      | cons v more => cases same
  · obtain ⟨method, args⟩ := call
    rintro (⟨rfl, same⟩ | ⟨elements, rfl, same⟩)
    · cases same
      rfl
    · cases same
      rfl

theorem ofJson_eq_ok {v : Json} {call : MethodCall} : ofJson v = .ok call ↔ call.IsSpelledBy v := by
  cases v with
  | object members => exact ofJson_object_eq_ok
  | array elements => exact ofJson_array_eq_ok
  | _ => exact ⟨nofun, nofun⟩

end MethodCall

/-! ## Envelopes -/

namespace Envelope

/-- Whether a value spells what an envelope carries. -/
def IsDataOf (v : Json) : Envelope → Prop
  | viewerMethod _ call => call.IsSpelledBy v
  | response _ data | error _ data => data = v.canonical
  | binary _ data => v = .array (data.map fun b => .number (.natural b.toUInt64))

/-- Whether the values of `id` spell an identity: there is at most one, and it is null if there is
    no identity. -/
def IsIdSpelledBy (id : Option MessageId) (values : List Json) : Prop :=
  values = [] ∧ id = none ∨ values = [MessageId.toJson? id]

/-- Whether the values of `data` spell what an envelope carries: there is one, or there is none and
    the envelope is a response or an error that carries null. -/
def IsDataSpelledBy (e : Envelope) (values : List Json) : Prop :=
  (∃ v, values = [v] ∧ IsDataOf v e) ∨
    values = [] ∧ (e = .response e.id .null ∨ e = .error e.id .null)

/-- Whether the members of an object spell an envelope. Members of other names do not matter. -/
structure IsSpelledBy (e : Envelope) (members : List (String × Json)) : Prop where
  kind : named "type" members = [.string e.kind.name]
  id : IsIdSpelledBy e.id (named "id" members)
  data : IsDataSpelledBy e (named "data" members)

theorem ofData_eq_ok {kind : Kind} {id : Option MessageId} {v : Json} {e : Envelope} :
    ofData kind id v = .ok e ↔ e.kind = kind ∧ e.id = id ∧ IsDataOf v e := by
  constructor
  · intro given
    cases kind with
    | viewerMethod =>
      obtain ⟨call, read, rfl⟩ := map_eq_ok.mp given
      exact ⟨rfl, rfl, MethodCall.ofJson_eq_ok.mp read⟩
    | response | error =>
      cases given
      exact ⟨rfl, rfl, rfl⟩
    | binary =>
      obtain ⟨data, read, rfl⟩ := map_eq_ok.mp given
      exact ⟨rfl, rfl, bytesOf_eq_ok.mp read⟩
  · rintro ⟨rfl, rfl, data⟩
    cases e with
    | viewerMethod id call => exact map_eq_ok.mpr ⟨call, MethodCall.ofJson_eq_ok.mpr data, rfl⟩
    | response id data' | error id data' =>
      cases data
      rfl
    | binary id data' => exact map_eq_ok.mpr ⟨data', bytesOf_eq_ok.mpr data, rfl⟩

theorem fieldOf_identOf {values : List Json} {id : Option MessageId} :
    (∃ id?, fieldOf "id" identOf none values = .ok id? ∧ id?.getD none = id) ↔
      IsIdSpelledBy id values := by
  constructor
  · rintro ⟨id?, field, rfl⟩
    obtain ⟨absent, rfl⟩ | ⟨v, id, one, ident, rfl⟩ := fieldOf_eq_ok.mp field
    · exact .inl ⟨absent, rfl⟩
    · exact .inr (identOf_eq_ok.mp ident ▸ one)
  · rintro (⟨absent, rfl⟩ | one)
    · exact ⟨none, fieldOf_eq_ok.mpr (.inl ⟨absent, rfl⟩), rfl⟩
    · exact ⟨some id, fieldOf_eq_ok.mpr (.inr ⟨_, id, one, identOf_eq_ok.mpr rfl, rfl⟩), rfl⟩

/-- The envelope whose data was read, or which has none. -/
def ofFields (kind : Kind) (id : Option MessageId) : Option Envelope → Except Failure Envelope
  | some e => .ok (e.withId id)
  | none => if dataOptional kind then ofData kind id .null else mismatch (.missingField "data")

theorem fieldOf_ofData {kind : Kind} {id : Option MessageId} {values : List Json} {e : Envelope} :
    (∃ e?, fieldOf "data" (ofData kind none) none values = .ok e? ∧ ofFields kind id e? = .ok e) ↔
      e.kind = kind ∧ e.id = id ∧ e.IsDataSpelledBy values := by
  constructor
  · rintro ⟨e?, field, settled⟩
    obtain ⟨absent, rfl⟩ | ⟨v, e', one, data, rfl⟩ := fieldOf_eq_ok.mp field
    · cases kind with
      | viewerMethod | binary => cases settled
      | response =>
        cases settled
        exact ⟨rfl, rfl, .inr ⟨absent, .inl rfl⟩⟩
      | error =>
        cases settled
        exact ⟨rfl, rfl, .inr ⟨absent, .inr rfl⟩⟩
    · obtain ⟨rfl, -, data⟩ := ofData_eq_ok.mp data
      cases settled
      cases e' <;> exact ⟨rfl, rfl, .inl ⟨v, one, data⟩⟩
  · rintro ⟨rfl, rfl, ⟨v, one, data⟩ | ⟨absent, null⟩⟩
    · have read : ofData e.kind none v = .ok (e.withId none) :=
        ofData_eq_ok.mpr (by cases e <;> exact ⟨rfl, rfl, data⟩)
      refine ⟨_, fieldOf_eq_ok.mpr (.inr ⟨v, _, one, read, rfl⟩), ?_⟩
      cases e <;> rfl
    · refine ⟨_, fieldOf_eq_ok.mpr (.inl ⟨absent, rfl⟩), ?_⟩
      rcases null with null | null <;> rw [null] <;> rfl

/-- The envelope that the second stage makes is the one that the members spell. -/
theorem ofMembers_eq_ok {kind : Kind} {members : List (String × Json)} {e : Envelope} :
    ofMembers kind members = .ok e ↔ e.kind = kind ∧ IsIdSpelledBy e.id (named "id" members) ∧
      e.IsDataSpelledBy (named "data" members) := by
  have fields : ofMembers kind members = (do
      let (id?, e?) ←
        members.foldlM (takeEither "id" "data" identOf (ofData kind none)) (none, none)
      ofFields kind (id?.getD none) e?) := rfl
  rw [fields, bind_eq_ok, Prod.exists]
  simp only [foldlM_takeEither (by decide : "id" ≠ "data")]
  constructor
  · rintro ⟨id?, e?, ⟨id, data⟩, settled⟩
    obtain ⟨kind, same, data⟩ := fieldOf_ofData.mp ⟨e?, data, settled⟩
    exact ⟨kind, same ▸ fieldOf_identOf.mp ⟨id?, id, rfl⟩, data⟩
  · rintro ⟨kind, id, data⟩
    obtain ⟨id?, id, same⟩ := fieldOf_identOf.mpr id
    obtain ⟨e?, data, settled⟩ := fieldOf_ofData.mpr ⟨kind, rfl, data⟩
    exact ⟨id?, e?, ⟨id, data⟩, same ▸ settled⟩

end Envelope

end SessionHub
