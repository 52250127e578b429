import SessionHub.Proofs.Envelope.Members

set_option autoImplicit false

/-! # Envelopes in array form

An array is read as an envelope by position: its kind, its identity, its data, of which the last
ones may be left out. Its elements spell what they spell as members of those names
(`Envelope.ofElements_eq_ok`), so that both forms are read alike, and an array with anything else
behind the data is refused (`Envelope.read_array_iff_object`). -/

namespace SessionHub

open Json (Failure named mismatch)

/-! ## First stage -/

/-- The first element of an array is read as a kind, and the others are kept. -/
theorem Tagged.read_array {v : Json} {values : List Json} (free : v.floatFree)
    (others : Json.floatFreeElements values) (rest : Bytes) :
    Tagged.read ((Json.array (v :: values)).write ++ rest) = (do
      let kind ← Kind.ofJson v
      let elements ← values.mapM (Json.bounded (Json.nestingLimit - 1))
      .ok (⟨kind, .positional elements⟩, rest)) := by
  have opened : Tagged.read ((Json.array (v :: values)).write ++ rest) =
      readArray (v.write ++ (Json.writeMoreElements values ++ rest)) := by
    rw [Json.write, Json.writeElements, List.cons_append, List.append_assoc]
    rfl
  have next : Json.nextElement true (v.write ++ (Json.writeMoreElements values ++ rest)) =
      .ok (.element (v.write ++ (Json.writeMoreElements values ++ rest))) := by
    obtain ⟨b, s, text, blank, open_⟩ := Json.start_write free
    rw [text, List.cons_append, Json.nextElement, Json.skipBlank_of_not_blank blank]
    simp [open_]
  have enough : values.length < (Json.writeMoreElements values ++ rest).length + 1 := by
    have := Json.length_lt_writeMoreElements values
    rw [List.length_append]
    omega
  have kept := Json.readMoreElements_write_eq _ _ values others
    (fun v there => Json.read_write_eq (Json.nestingLimit - 1) v
      (Json.floatFreeElements_iff.mp others v there)) _ enough rest
  rw [opened, readArray, next]
  simp only [bind, Except.bind]
  rw [Kind.read_write free (Json.apart_writeMoreElements values rest)]
  cases Kind.ofJson v with
  | error failure => rfl
  | ok kind =>
    simp only [Except.map, kept]
    cases values.mapM (Json.bounded (Json.nestingLimit - 1)) <;> rfl

/-! ## Second stage -/

namespace Envelope

variable {kind : Kind} {id : Option MessageId} {e : Envelope} {values : List Json}

/-- Data may be left out where it is null then. -/
theorem absent_eq_ok {cause : Json.Mismatch} :
    (if dataOptional kind then ofData kind id .null else mismatch cause) = .ok e ↔
      e.kind = kind ∧ e.id = id ∧ e.IsDataSpelledBy [] := by
  have refusal : (if dataOptional kind then ofData kind id .null else mismatch cause) = .ok e ↔
      ofFields kind id none = .ok e := by
    rw [ofFields]
    cases dataOptional kind <;> simp [mismatch]
  rw [refusal, ← fieldOf_ofData]
  constructor
  · exact fun made => ⟨none, rfl, made⟩
  · rintro ⟨e?, field, made⟩
    cases field
    exact made

theorem isIdSpelledBy_singleton {id : Option MessageId} {v : Json} :
    IsIdSpelledBy id [v] ↔ v = MessageId.toJson? id := by
  simp [IsIdSpelledBy]

theorem isDataSpelledBy_singleton {v : Json} : e.IsDataSpelledBy [v] ↔ IsDataOf v e := by
  simp [IsDataSpelledBy]

/-- The envelope that the second stage makes of elements is the one that they spell. -/
theorem ofElements_eq_ok : ofElements kind values = .ok e ↔
    e.kind = kind ∧ values.length ≤ 2 ∧ IsIdSpelledBy e.id (values.take 1) ∧
      e.IsDataSpelledBy (values.drop 1) := by
  match values with
  | [] =>
    refine absent_eq_ok.trans ?_
    simp [IsIdSpelledBy]
  | [v] =>
    refine bind_eq_ok.trans ?_
    simp only [identOf_eq_ok, absent_eq_ok, List.take_succ_cons, List.take_zero, List.drop_one,
      List.tail_cons, isIdSpelledBy_singleton]
    constructor
    · rintro ⟨id, spelled, kind, rfl, absent⟩
      exact ⟨kind, by simp, spelled, absent⟩
    · rintro ⟨kind, -, spelled, absent⟩
      exact ⟨e.id, spelled, kind, rfl, absent⟩
  | v :: data :: more =>
    have steps : ofElements kind (v :: data :: more) = identOf v >>= fun id =>
      ofData kind id data >>= fun e =>
        if more.isEmpty then .ok e else mismatch (.invalidLength (2 + more.length) .pair) := rfl
    rw [steps]
    simp only [bind_eq_ok, identOf_eq_ok, ofData_eq_ok]
    cases more with
    | nil =>
      simp only [List.take_succ_cons, List.take_zero, List.drop_one, List.tail_cons,
        isIdSpelledBy_singleton, isDataSpelledBy_singleton]
      constructor
      · rintro ⟨id, spelled, e, ⟨kind, rfl, carried⟩, same⟩
        cases same
        exact ⟨kind, Nat.le_refl 2, spelled, carried⟩
      · rintro ⟨kind, -, spelled, carried⟩
        exact ⟨e.id, spelled, e, ⟨kind, rfl, carried⟩, rfl⟩
    | cons w more =>
      simp [mismatch]

/-- Nothing may stand behind the data. -/
theorem ofElements_of_long (long : 2 < values.length) :
    ∃ failure, ofElements kind values = .error failure := by
  cases made : ofElements kind values with
  | error failure => exact ⟨failure, rfl⟩
  | ok e =>
    obtain ⟨-, short, -⟩ := ofElements_eq_ok.mp made
    omega

/-! ## Both stages -/

/-- Reading an array that was written comes to making an envelope of its elements. -/
theorem read_array {v : Json} (free : v.floatFree) (others : Json.floatFreeElements values) :
    Envelope.read (Json.array (v :: values)).write = Kind.ofJson v >>= fun kind =>
      values.mapM (Json.bounded (Json.nestingLimit - 1)) >>= ofElements kind := by
  have tagged := Tagged.read_array free others []
  rw [List.append_nil] at tagged
  rw [Envelope.read, tagged]
  cases Kind.ofJson v with
  | error failure => rfl
  | ok kind =>
    simp only [bind, Except.bind]
    cases values.mapM (Json.bounded (Json.nestingLimit - 1)) with
    | error failure => rfl
    | ok elements =>
      simp only [Tagged.envelope]
      cases ofElements kind elements <;> rfl

theorem read_array_eq_ok {v : Json} (free : v.floatFree) (others : Json.floatFreeElements values)
    (fits : Json.nestingElements values ≤ Json.nestingLimit - 1) :
    Envelope.read (Json.array (v :: values)).write = .ok e ↔ v = .string e.kind.name ∧
      values.length ≤ 2 ∧ IsIdSpelledBy e.id (values.take 1) ∧
      e.IsDataSpelledBy (values.drop 1) := by
  rw [read_array free others, Json.mapM_bounded, if_pos fits, bind_eq_ok]
  show (∃ kind, Kind.ofJson v = .ok kind ∧ ofElements kind values = .ok e) ↔ _
  simp only [Kind.ofJson_eq_ok, ofElements_eq_ok]
  constructor
  · rintro ⟨kind, tag, rfl, spelled⟩
    exact ⟨tag, spelled⟩
  · rintro ⟨tag, spelled⟩
    exact ⟨e.kind, tag, rfl, spelled⟩

/-- The members that the elements of the array form stand for. -/
def membersOf (tag : String) (values : List Json) : List (String × Json) :=
  ("type", .string tag) :: ["id", "data"].zip values

/-- Beside the kind there are only the elements. -/
theorem mem_membersOf {tag : String} {m : String × Json} (there : m ∈ membersOf tag values) :
    m.2 = .string tag ∨ m.2 ∈ values := by
  rcases List.mem_cons.mp there with rfl | there
  · exact .inl rfl
  · exact .inr (List.of_mem_zip there).2

theorem floatFree_membersOf {tag : String} (free : Json.floatFreeElements values) :
    Json.floatFreeMembers (membersOf tag values) := by
  rw [Json.floatFreeMembers_iff]
  intro m there
  rcases mem_membersOf there with same | there
  · rw [same]
    rfl
  · exact Json.floatFreeElements_iff.mp free m.2 there

theorem nesting_membersOf_le {tag : String} {n : Nat} (fits : Json.nestingElements values ≤ n) :
    Json.nestingMembers (membersOf tag values) ≤ n := by
  rw [Json.nestingMembers_le]
  intro m there
  rcases mem_membersOf there with same | there
  · rw [same]
    exact Nat.zero_le n
  · exact Json.nestingElements_le.mp fits m.2 there

/-- What elements spell by their place, they spell by the name for it. -/
theorem isSpelledBy_membersOf {tag : String} (short : values.length ≤ 2) :
    e.IsSpelledBy (membersOf tag values) ↔ Json.string tag = .string e.kind.name ∧
      IsIdSpelledBy e.id (values.take 1) ∧ e.IsDataSpelledBy (values.drop 1) := by
  have names : named "type" (membersOf tag values) = [.string tag] ∧
      named "id" (membersOf tag values) = values.take 1 ∧
      named "data" (membersOf tag values) = values.drop 1 := by
    match values with
    | [] | [_] | [_, _] => simp [membersOf, Json.named]
    | _ :: _ :: _ :: _ =>
      simp only [List.length_cons] at short
      omega
  obtain ⟨type, id, data⟩ := names
  constructor
  · rintro ⟨kind, ident, carried⟩
    rw [type] at kind
    exact ⟨List.singleton_inj.mp kind, id ▸ ident, data ▸ carried⟩
  · rintro ⟨kind, ident, carried⟩
    exact ⟨by rw [type, kind], id.symm ▸ ident, data.symm ▸ carried⟩

/-- The array form is read exactly where the object form is that has the same values under their
    names, and read as the same envelope. An array with anything behind the data is refused,
    whatever its elements are. -/
theorem read_array_iff_object :
    (∀ (tag : String) (values : List Json), Json.floatFreeElements values →
      Json.nestingElements values ≤ 126 → values.length ≤ 2 → ∀ e,
        Envelope.read (Json.array (.string tag :: values)).write = .ok e ↔
          Envelope.read (Json.object (membersOf tag values)).write = .ok e) ∧
    (∀ (v : Json) (values : List Json), v.floatFree → Json.floatFreeElements values →
      2 < values.length →
        ∃ failure, Envelope.read (Json.array (v :: values)).write = .error failure) ∧
    ∀ (s rest : Bytes) (kind : Kind) (elements : List Json),
      Tagged.read s = .ok (⟨kind, .positional elements⟩, rest) → 2 < elements.length →
        ∃ failure, Envelope.read s = .error failure := by
  refine ⟨fun tag values free fits short e => ?_, fun v values free others long => ?_,
    fun s rest kind elements tagged long => ?_⟩
  · rw [read_array_eq_ok rfl free fits,
      read_object_eq_ok (floatFree_membersOf free) (nesting_membersOf_le fits),
      isSpelledBy_membersOf short]
    exact ⟨fun ⟨kind, _, spelled⟩ => ⟨kind, spelled⟩, fun ⟨kind, spelled⟩ => ⟨kind, short, spelled⟩⟩
  · rw [read_array free others, Json.mapM_bounded]
    cases Kind.ofJson v with
    | error failure => exact ⟨failure, rfl⟩
    | ok kind =>
      split
      · exact ofElements_of_long long
      · exact ⟨_, rfl⟩
  · obtain ⟨failure, refused⟩ : ∃ failure, ofElements kind elements = .error failure :=
      ofElements_of_long long
    refine ⟨failure, ?_⟩
    rw [Envelope.read, tagged]
    show ofElements kind elements >>= _ = _
    rw [refused]
    rfl

/-- A call in array form, whose data are in array form as well, and one with a null behind the
    data. -/
theorem read_array_of_call :
    let values : List Json :=
      [.number (.natural 7), .array [.string "render", .array [.bool true]]]
    let e := Envelope.viewerMethod (some ⟨7⟩) { method := "render", args := [.bool true] }
    Json.floatFreeElements values ∧ Json.nestingElements values ≤ 126 ∧
    Envelope.read (Json.object (membersOf "viewer_method" values)).write = .ok e ∧
    Envelope.read (Json.array (.string "viewer_method" :: values)).write = .ok e ∧
    ∃ failure, Envelope.read
      (Json.array (.string "viewer_method" :: (values ++ [.null]))).write = .error failure := by
  intro values e
  obtain ⟨same, long, -⟩ := read_array_iff_object
  have free : Json.floatFreeElements values := by decide
  have fits : Json.nestingElements values ≤ 126 := by decide
  have spelled : e.IsSpelledBy (membersOf "viewer_method" values) :=
    ⟨rfl, .inr rfl, .inl ⟨_, rfl, .inr ⟨_, rfl, rfl⟩⟩⟩
  have read : Envelope.read (Json.object (membersOf "viewer_method" values)).write = .ok e :=
    (read_object_eq_ok (by decide) (by decide)).mpr spelled
  have read' := (same "viewer_method" values free fits (by decide) e).mpr read
  have refused := long (.string "viewer_method") (values ++ [.null]) rfl (by decide) (by decide)
  exact ⟨free, fits, read, read', refused⟩

end Envelope

end SessionHub
