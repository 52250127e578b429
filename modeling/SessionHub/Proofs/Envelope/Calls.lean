import SessionHub.Envelope.Call
import SessionHub.Proofs.Envelope.Positions
import SessionHub.Proofs.Json.Skipping

set_option autoImplicit false

/-! # Calls on their own and in envelopes

A call that stands on its own is read in one pass, and what is not asked for is skipped. The data of
an envelope are kept first and made into a call later. Both ways come to the same call, and where
one of them gives none, neither does the other (`MethodCall.read_iff_read_as_data`). Of an object
they even give the same failure (`MethodCall.read_object`). -/

namespace SessionHub

open Json (Failure named mismatch)

/-! ## What is spelled once -/

theorem Kind.name_injective : Function.Injective Kind.name := by
  intro kind kind' same
  have found := Kind.ofName?_name kind
  rw [same, Kind.ofName?_name] at found
  exact (Option.some.inj found).symm

theorem MessageId.toJson?_injective : Function.Injective MessageId.toJson? := by
  intro id id' same
  have read := identOf_toJson? id
  rw [same, identOf_toJson?] at read
  exact (Except.ok.inj read).symm

/-- Values spell one identity at most. -/
theorem Envelope.IsIdSpelledBy.unique {id id' : Option MessageId} {values : List Json}
    (spelled : IsIdSpelledBy id values) (spelled' : IsIdSpelledBy id' values) : id = id' := by
  rcases spelled with ⟨rfl, rfl⟩ | rfl
  · rcases spelled' with ⟨-, rfl⟩ | one
    · rfl
    · cases one
  · rcases spelled' with ⟨none, -⟩ | one
    · cases none
    · exact MessageId.toJson?_injective (List.singleton_inj.mp one)

namespace MethodCall

variable {v : Json} {rest : Bytes} {call : MethodCall}

/-! ## The fields of a call -/

theorem readMethod_write (free : v.floatFree) (apart : Json.Apart rest) :
    readMethod (v.write ++ rest) = (Json.stringOf v).map fun method => (method, rest) :=
  Json.readScalar_write (fun _ => rfl) (fun _ => rfl) free apart

/-- The arguments are read as they are made of a value that was kept, if they nest no deeper than
    the reader of a call allows. -/
theorem readArgs_write (free : v.floatFree) (fits : v.nesting ≤ Json.nestingLimit - 1)
    (apart : Json.Apart rest) :
    readArgs (v.write ++ rest) =
      (v.elements.map Json.canonicalElements).map fun args => (args, rest) := by
  cases v with
  | array elements =>
    have inside : Json.nestingElements elements ≤ Json.nestingLimit - 2 := by
      rw [Json.nesting] at fits
      exact Nat.le_of_succ_le_succ fits
    have each : ∀ v ∈ elements, Json.IsTakenAs (Json.read (Json.nestingLimit - 2))
        (Json.bounded (Json.nestingLimit - 2)) v := fun v there =>
      Json.read_write_eq _ v (Json.floatFreeElements_iff.mp free v there)
    rw [Json.write]
    show (Json.readArray _ (Json.writeElements elements ++ rest)).bind _ = _
    rw [Json.readArray_write_eq _ _ elements free each rest, Json.mapM_bounded, if_pos inside]
    rfl
  | object members =>
    rw [Json.write]
    rfl
  | _ => exact Json.dispatch_write _ _ _ rfl free apart

/-! ## Objects -/

/-- A member is taken as it is taken from what was kept: a field is read, and all else is
    skipped. -/
theorem readMember_write {m : String × Json} (free : m.2.floatFree)
    (fits : m.2.nesting ≤ Json.nestingLimit - 1) : Json.IsMemberTakenAs readMember takeMember m := by
  intro acc rest apart
  have colon : Json.readColon (Json.Mark.colon :: (m.2.write ++ rest)) = .ok (m.2.write ++ rest) :=
    rfl
  unfold readMember takeMember
  by_cases method : m.1 = "method"
  · rw [if_pos method, if_pos method, colon]
    cases acc.1 with
    | some name => rfl
    | none =>
      simp only [bind, Except.bind]
      rw [readMethod_write free apart]
      cases Json.stringOf m.2 <;> rfl
  · rw [if_neg method, if_neg method]
    by_cases args : m.1 = "args"
    · rw [if_pos args, if_pos args, colon]
      cases acc.2 with
      | some args => rfl
      | none =>
        simp only [bind, Except.bind]
        rw [readArgs_write free fits apart]
        cases m.2.elements.map Json.canonicalElements <;> rfl
    · rw [if_neg args, if_neg args, colon]
      simp only [bind, Except.bind]
      rw [Json.skip_write free apart]
      rfl

/-- Reading an object that was written comes to making a call of it, in success and in failure. -/
theorem read_object {members : List (String × Json)} (free : Json.floatFreeMembers members)
    (fits : Json.nestingMembers members ≤ Json.nestingLimit - 1) :
    read (Json.object members).write = ofJson (.object members) := by
  have written : ∀ m ∈ members, Json.IsMemberTakenAs readMember takeMember m := fun m there =>
    readMember_write (Json.floatFreeMembers_iff.mp free m there)
      (Json.nestingMembers_le.mp fits m there)
  have opened : read (Json.object members).write = (do
      let (call, rest) ← readObject (Json.writeMembers members ++ [])
      Json.readEnd rest
      .ok call) := by
    rw [Json.write, List.append_nil]
    rfl
  rw [opened, readObject, Json.readObject_write_eq readMember takeMember members written, ofJson]
  cases members.foldlM takeMember (none, none) with
  | error failure => rfl
  | ok acc =>
    simp only [Except.map, bind, Except.bind]
    cases ofFields acc.1 acc.2 <;> rfl

/-! ## Arrays -/

/-- What may follow the arguments in an array is its end. -/
theorem readClosing_write (more : List Json) (free : Json.floatFreeElements more) :
    readClosing (Json.writeMoreElements more) =
      if more.isEmpty then .ok [] else Json.refuse .trailingCharacters := by
  cases more with
  | nil => rfl
  | cons v more =>
    simp only [Json.floatFreeElements, Bool.and_eq_true] at free
    obtain ⟨b, s, text, blank, open_⟩ := Json.start_write free.1
    have comma : Json.Mark.isBlank Json.Mark.comma = false := rfl
    have other : Json.Mark.comma ≠ Json.Mark.closeArray := by decide
    show readClosing (Json.Mark.comma :: (v.write ++ Json.writeMoreElements more)) = _
    rw [readClosing, Json.skipBlank_of_not_blank comma, text, List.cons_append]
    simp only [if_neg other, if_true, Json.skipBlank_of_not_blank blank, if_neg open_]
    rfl

/-- After an opening bracket stands the first element. -/
theorem nextElement_write (free : v.floatFree) (s : Bytes) :
    Json.nextElement true (v.write ++ s) = .ok (.element (v.write ++ s)) := by
  obtain ⟨b, more, text, blank, open_⟩ := Json.start_write free
  rw [text, List.cons_append, Json.nextElement, Json.skipBlank_of_not_blank blank]
  simp only [if_neg open_, if_true]

/-- After an element stands a comma with the next one. -/
theorem nextElement_writeMoreElements (free : v.floatFree) (more : List Json) :
    Json.nextElement false (Json.writeMoreElements (v :: more)) =
      .ok (.element (v.write ++ Json.writeMoreElements more)) := by
  obtain ⟨b, s, text, blank, open_⟩ := Json.start_write free
  have comma : Json.Mark.isBlank Json.Mark.comma = false := rfl
  have other : Json.Mark.comma ≠ Json.Mark.closeArray := by decide
  show Json.nextElement false (Json.Mark.comma :: (v.write ++ Json.writeMoreElements more)) = _
  rw [text, List.cons_append, Json.nextElement, Json.skipBlank_of_not_blank comma]
  simp only [if_neg other, Bool.false_eq_true, if_false, if_true, Json.skipBlank_of_not_blank blank,
    if_neg open_]

/-- Takes the elements of the array form. Nothing may follow the arguments. -/
def takeElements : List Json → Except Failure MethodCall
  | [] => mismatch (.invalidLength 0 .call)
  | [method] => do .ok { method := ← Json.stringOf method, args := [] }
  | method :: args :: more => do
    let method ← Json.stringOf method
    let args ← args.elements
    if more.isEmpty then .ok { method, args := Json.canonicalElements args }
    else Json.refuse .trailingCharacters

/-- An array that was written is read by taking its elements. -/
theorem readArray_write {elements : List Json} (free : Json.floatFreeElements elements)
    (fits : Json.nestingElements elements ≤ Json.nestingLimit - 1) :
    readArray (Json.writeElements elements) = (takeElements elements).map fun call => (call, []) := by
  have apart : ∀ more, Json.Apart (Json.writeMoreElements more) := fun more =>
    List.append_nil (Json.writeMoreElements more) ▸ Json.apart_writeMoreElements more []
  match elements with
  | [] => rfl
  | [method] =>
    simp only [Json.floatFreeElements, Bool.and_eq_true] at free
    rw [readArray, Json.writeElements, nextElement_write free.1, takeElements]
    simp only [bind, Except.bind]
    rw [readMethod_write free.1 (apart [])]
    cases Json.stringOf method <;> rfl
  | method :: args :: more =>
    simp only [Json.floatFreeElements, Bool.and_eq_true] at free
    obtain ⟨method', args', more'⟩ := free
    have fits' := Json.nestingElements_le.mp fits args (by simp)
    rw [readArray, Json.writeElements, nextElement_write method', takeElements]
    simp only [bind, Except.bind]
    rw [readMethod_write method' (apart (args :: more))]
    cases Json.stringOf method with
    | error failure => rfl
    | ok name =>
      simp only [Except.map, nextElement_writeMoreElements args']
      rw [readArgs_write args' fits' (apart more)]
      cases args.elements with
      | error failure => rfl
      | ok args =>
        simp only [Except.map, readClosing_write more more']
        cases more <;> rfl

theorem read_array {elements : List Json} (free : Json.floatFreeElements elements)
    (fits : Json.nestingElements elements ≤ Json.nestingLimit - 1) :
    read (Json.array elements).write = takeElements elements := by
  have opened : read (Json.array elements).write = (do
      let (call, rest) ← readArray (Json.writeElements elements)
      Json.readEnd rest
      .ok call) := by
    rw [Json.write]
    rfl
  rw [opened, readArray_write free fits]
  cases takeElements elements <;> rfl

/-- What follows the arguments is refused in both ways, though not for the same reason. -/
theorem takeElements_eq_ok {elements : List Json} :
    takeElements elements = .ok call ↔ ofJson (.array elements) = .ok call := by
  rcases elements with _ | ⟨method, _ | ⟨args, more⟩⟩
  · exact Iff.rfl
  · exact Iff.rfl
  · rw [takeElements, ofJson]
    cases Json.stringOf method with
    | error failure => exact Iff.rfl
    | ok method =>
      cases args.elements with
      | error failure => exact Iff.rfl
      | ok args =>
        cases more with
        | nil => exact Iff.rfl
        | cons v more => exact iff_of_false (by rintro ⟨⟩) (by rintro ⟨⟩)

/-! ## Values -/

/-- A value is read as the call that it spells. -/
theorem read_eq_ok (free : v.floatFree) (fits : v.nesting ≤ Json.nestingLimit - 1) :
    read v.write = .ok call ↔ call.IsSpelledBy v := by
  rw [← ofJson_eq_ok]
  cases v with
  | array elements =>
    rw [Json.nesting] at fits
    rw [read_array free (Nat.le_of_succ_le fits), takeElements_eq_ok]
  | object members =>
    rw [Json.nesting] at fits
    rw [read_object free (Nat.le_of_succ_le fits)]
  | _ =>
    have refused := @Json.dispatch_write _ (fun v => mismatch (.invalidType (.ofJson v) .call))
      readArray readObject _ rfl free [] (by simp [Json.Apart])
    rw [List.append_nil] at refused
    rw [read, Json.readAll, refused]
    exact iff_of_false (by rintro ⟨⟩) (by rintro ⟨⟩)

/-! ## The law -/

/-- A call is read on its own exactly where it is read as the data of an envelope that asks for a
    call, and then both have its method and its arguments. The envelope may be an object, with any
    other members that an envelope may have, or an array. -/
theorem read_iff_read_as_data {v : Json} (free : v.floatFree) (fits : v.nesting ≤ 126)
    (id : Option MessageId) :
    (∀ members : List (String × Json), Json.floatFreeMembers members →
      Json.nestingMembers members ≤ 126 → named "type" members = [.string "viewer_method"] →
      Envelope.IsIdSpelledBy id (named "id" members) → named "data" members = [v] →
      ∀ e, Envelope.read (Json.object members).write = .ok e ↔
        ∃ call, read v.write = .ok call ∧ e = .viewerMethod id call) ∧
    ∀ e, Envelope.read (Json.array [.string "viewer_method", MessageId.toJson? id, v]).write = .ok e ↔
      ∃ call, read v.write = .ok call ∧ e = .viewerMethod id call := by
  -- both forms spell an envelope of this kind with this identity and this value
  have spelled : ∀ e : Envelope, (Json.string "viewer_method" = .string e.kind.name ∧ e.id = id ∧
      Envelope.IsDataOf v e) ↔ ∃ call, read v.write = .ok call ∧ e = .viewerMethod id call := by
    intro e
    constructor
    · rintro ⟨kind, rfl, data⟩
      cases e with
      | viewerMethod id call => exact ⟨call, (read_eq_ok free fits).mpr data, rfl⟩
      | _ => cases @Kind.name_injective .viewerMethod _ (Json.string.inj kind)
    · rintro ⟨call, found, rfl⟩
      exact ⟨rfl, rfl, (read_eq_ok free fits).mp found⟩
  refine ⟨fun members free' fits' type ident data e => ?_, fun e => ?_⟩
  · rw [Envelope.read_object_eq_ok free' fits', ← spelled e]
    constructor
    · intro s
      refine ⟨List.singleton_inj.mp (type ▸ s.kind), s.id.unique ident, ?_⟩
      exact Envelope.isDataSpelledBy_singleton.mp (data ▸ s.data)
    · rintro ⟨kind, rfl, carried⟩
      exact ⟨by rw [type, kind], ident, data ▸ Envelope.isDataSpelledBy_singleton.mpr carried⟩
  · have free' : Json.floatFreeElements [MessageId.toJson? id, v] := by
      have number : (MessageId.toJson? id).floatFree := by cases id <;> rfl
      simp [Json.floatFreeElements, number, free]
    have fits' : Json.nestingElements [MessageId.toJson? id, v] ≤ 126 := by
      have number : (MessageId.toJson? id).nesting = 0 := by cases id <;> rfl
      simp [Json.nestingElements, number, fits]
    rw [Envelope.read_array_eq_ok rfl free' fits', ← spelled e]
    simp only [List.take_succ_cons, List.take_zero, List.drop_one, List.tail_cons,
      Envelope.isDataSpelledBy_singleton, Envelope.isIdSpelledBy_singleton]
    constructor
    · rintro ⟨kind, -, ident, data⟩
      exact ⟨kind, (MessageId.toJson?_injective ident).symm, data⟩
    · rintro ⟨kind, rfl, data⟩
      exact ⟨kind, Nat.le_refl 2, rfl, data⟩

/-- A call with other members, one name of which stands twice. -/
theorem read_with_idle_members :
    let v : Json := .object [("args", .array [.bool true]), ("note", .array [.null]),
      ("note", .string "again"), ("method", .string "render")]
    let members : List (String × Json) :=
      [("data", v), ("sent", .null), ("type", .string "viewer_method")]
    let call : MethodCall := { method := "render", args := [.bool true] }
    v.floatFree ∧ v.nesting ≤ 126 ∧ read v.write = .ok call ∧
    Envelope.read (Json.object members).write = .ok (.viewerMethod none call) ∧
    Envelope.read (Json.array [.string "viewer_method", .null, v]).write =
      .ok (.viewerMethod none call) := by
  intro v members call
  have free : v.floatFree := by decide
  have fits : v.nesting ≤ 126 := by decide
  have found : read v.write = .ok call := (read_eq_ok free fits).mpr ⟨rfl, .inr ⟨_, rfl, rfl⟩⟩
  obtain ⟨inObject, inArray⟩ := read_iff_read_as_data free fits none
  refine ⟨free, fits, found, ?_, (inArray _).mpr ⟨call, found, rfl⟩⟩
  exact (inObject members (by decide) (by decide) rfl (.inl ⟨rfl, rfl⟩) rfl _).mpr ⟨call, found, rfl⟩

end MethodCall

end SessionHub
