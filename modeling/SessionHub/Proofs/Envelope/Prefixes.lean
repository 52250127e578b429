import SessionHub.Proofs.Envelope.RoundTrip
import SessionHub.Proofs.Json.Prefixes

set_option autoImplicit false

/-! # Where the text of an envelope ends

The text of an envelope shows its end, which is that of a bracket. The first stage of reading has
read what it has read, whatever follows (`Tagged.read_steady`), and after the second stage nothing
but blanks may follow. So no text that goes on is taken for the envelope that it begins with, and no
text that is cut for a shorter one (`Envelope.read_of_prefixes`). -/

namespace SessionHub

open Json (Failure Foretells IsSteady mismatch)

/-! ## First stage -/

/-- Whether no number in what an envelope holds is a double. -/
def Content.floatFree : Content → Bool
  | named members => Json.floatFreeMembers members
  | positional elements => Json.floatFreeElements elements

/-- No number names a kind. -/
theorem Kind.read_steady : IsSteady False (fun _ => True) Kind.read := by
  refine Json.dispatch_steady nofun (fun n kind given _ => ?_) (fun _ _ => .refused _ nofun)
    fun _ _ => .refused _ nofun
  cases given

namespace Tagged

theorem readMember_steady (acc : Option Kind × List (String × Json)) (name : String) :
    IsSteady False (fun acc => Json.floatFreeMembers acc.2) (readMember acc name) := by
  intro s more
  unfold readMember
  split
  · split
    · exact .refused _ nofun
    · refine .of_persists_bind (Json.readColon_append s more) fun s => ?_
      exact (Kind.read_steady s more).bind (fun kind rest => .read _ rest)
        (fun kind _ _ => .atEnd _ id) fun _ _ _ _ _ _ => trivial
  · refine (Json.readMember_steady (Json.read_steady _) acc.2 name s more).bind
      (fun members rest => .read _ rest) (fun members _ _ => .atEnd _ id)
      fun members rest acc' rest' made fine => ?_
    cases made
    exact fine

/-- What was kept of the members before is kept. -/
theorem floatFree_of_readMember {acc acc' : Option Kind × List (String × Json)} {name : String}
    {s rest : Bytes} (read : readMember acc name s = .ok (acc', rest))
    (free : Json.floatFreeMembers acc'.2) : Json.floatFreeMembers acc.2 := by
  unfold readMember at read
  split at read
  · split at read
    · cases read
    · obtain ⟨s', -, read⟩ := bind_eq_ok.mp read
      obtain ⟨p, -, same⟩ := bind_eq_ok.mp read
      cases same
      exact free
  · obtain ⟨p, kept, same⟩ := bind_eq_ok.mp read
    cases same
    exact Json.floatFree_of_readMember kept free

theorem readObject_steady : IsSteady True (fun t => t.content.floatFree) readObject := by
  intro s more
  refine (Json.readObject_steady readMember_steady (fun _ _ _ _ _ => floatFree_of_readMember)
    (none, []) s more).bind (fun acc rest => ?_) (fun _ goesOn _ => absurd trivial goesOn)
    fun acc rest t rest' made fine => ?_
  · obtain ⟨kind?, members⟩ := acc
    cases kind? with
    | none => exact .refused _ nofun
    | some kind => exact .read _ rest
  · obtain ⟨kind?, members⟩ := acc
    cases kind? with
    | none => cases made
    | some kind =>
      cases made
      exact fine

theorem readArray_steady : IsSteady True (fun t => t.content.floatFree) readArray := by
  intro s more
  refine .of_persists_bind (Json.nextElement_append true s more) fun next => ?_
  cases next with
  | closed rest => exact .refused _ nofun
  | element s =>
    refine (Kind.read_steady s more).bind (fun kind rest => ?_) (fun kind _ _ => ?_)
      fun _ _ _ _ _ _ => trivial
    · refine (Json.readElements_foretells (Json.read_steady _) more _ _ ?_ false rest).bind
        (fun elements rest => .read _ rest) (fun _ goesOn _ => absurd trivial goesOn)
        fun elements rest t rest' made fine => ?_
      · simp
      · cases made
        exact Json.floatFreeElements_iff.mp fine
    · exact .breaksOff .list

/-- The first stage decides on what it has seen of a text, doubles apart. -/
theorem read_steady : IsSteady True (fun t => t.content.floatFree) Tagged.read :=
  Json.dispatch_steady (fun _ _ _ => nofun) (fun _ _ => nofun) readArray_steady readObject_steady

end Tagged

/-! ## Both stages -/

namespace Envelope

variable {s : Bytes} {e : Envelope} {t : Tagged} {rest : Bytes}

/-- Once the first stage is through, the second one has its say before the end is looked at. -/
theorem read_of_tagged (tagged : Tagged.read s = .ok (t, rest)) :
    Envelope.read s = t.envelope >>= fun e => Json.readEnd rest >>= fun _ => .ok e := by
  rw [Envelope.read, tagged]
  rfl

/-- An envelope is read if both stages succeed and only blanks follow. -/
theorem read_eq_ok : Envelope.read s = .ok e ↔ ∃ t rest, Tagged.read s = .ok (t, rest) ∧
    t.envelope = .ok e ∧ ∀ b ∈ rest, Json.Mark.isBlank b := by
  constructor
  · intro read
    obtain ⟨⟨t, rest⟩, tagged, read⟩ := bind_eq_ok.mp read
    obtain ⟨e', made, read⟩ := bind_eq_ok.mp read
    obtain ⟨⟨⟩, ended, same⟩ := bind_eq_ok.mp read
    cases same
    exact ⟨t, rest, tagged, made, Json.readEnd_eq_ok.mp ended⟩
  · rintro ⟨t, rest, tagged, made, blank⟩
    rw [read_of_tagged tagged, made]
    show Json.readEnd rest >>= _ = _
    rw [Json.readEnd_eq_ok.mpr blank]
    rfl

/-- What comes after an envelope is not read as part of it. -/
theorem tagged_append (tagged : Tagged.read s = .ok (t, rest)) (more : Bytes) :
    Tagged.read (s ++ more) = .ok (t, rest ++ more) :=
  (Tagged.read_steady s more).later_of_closed tagged

/-- Blanks may follow an envelope. -/
theorem read_append_of_blank (read : Envelope.read s = .ok e) {blanks : Bytes}
    (blank : ∀ b ∈ blanks, Json.Mark.isBlank b) : Envelope.read (s ++ blanks) = .ok e := by
  obtain ⟨t, rest, tagged, made, after⟩ := read_eq_ok.mp read
  refine read_eq_ok.mpr ⟨t, rest ++ blanks, tagged_append tagged blanks, made, fun b there => ?_⟩
  exact (List.mem_append.mp there).elim (after b) (blank b)

/-- Nothing else may follow an envelope. -/
theorem read_append_of_not_blank (read : Envelope.read s = .ok e) {more : Bytes}
    (other : ¬ ∀ b ∈ more, Json.Mark.isBlank b) :
    Envelope.read (s ++ more) = Json.refuse .trailingCharacters := by
  obtain ⟨t, rest, tagged, made, -⟩ := read_eq_ok.mp read
  have left : ¬ ∀ b ∈ rest ++ more, Json.Mark.isBlank b := fun blank =>
    other fun b there => blank b (List.mem_append_right rest there)
  rw [read_of_tagged (tagged_append tagged more), made]
  show Json.readEnd (rest ++ more) >>= _ = _
  rw [Json.readEnd_of_not_blank left]
  rfl

/-- A text without doubles breaks off wherever it is cut before its end. -/
theorem breaksOff_of_prefix {more : Bytes} (tagged : Tagged.read (s ++ more) = .ok (t, rest))
    (free : t.content.floatFree) (before : ∀ front, rest ≠ front ++ more) :
    Json.BreaksOff (Envelope.read s) := by
  have unread : ∀ p, Tagged.read s ≠ .ok p := by
    intro p read
    have again := (tagged_append read more).symm.trans tagged
    exact before p.2 (congrArg Prod.snd (Except.ok.inj again)).symm
  obtain ⟨inside, broken⟩ := (Tagged.read_steady s more).breaksOff_of_plain unread tagged free
  refine ⟨inside, ?_⟩
  rw [Envelope.read, broken]
  rfl

/-- What the first stage makes of the text of an envelope. -/
theorem tagged_write {e : Envelope} (free : e.data.floatFree)
    (fits : e.toJson.nesting ≤ Json.nestingLimit) : Tagged.read e.write =
      .ok (⟨e.kind, .named [("id", MessageId.toJson? e.id), ("data", e.data)]⟩, []) := by
  have fit : ∀ m ∈ e.members, m.2.nesting ≤ Json.nestingLimit - 1 := by
    rw [← Json.nestingMembers_le, nesting_members]
    rw [nesting_toJson] at fits
    omega
  have tagged := Tagged.read_object (floatFree_members free) []
  rw [List.append_nil, (Tagged.ofMembers_eq_ok fit).mpr ⟨rfl, rfl⟩] at tagged
  exact tagged

/-- An envelope is read from a text that ends with it and blanks. Any other text behind it is
    refused as `trailing characters`, so that a text from which an envelope is read has no other
    prefix from which one is, up to blanks. The text that is written for an envelope without doubles
    breaks off (as an unexpected end) wherever it is cut. -/
theorem read_of_prefixes :
    (∀ (s : Bytes) (e : Envelope), Envelope.read s = .ok e →
      (∀ blanks : Bytes, (∀ b ∈ blanks, Json.Mark.isBlank b) →
        Envelope.read (s ++ blanks) = .ok e) ∧
      (∀ (blanks : Bytes) (b : UInt8) (more : Bytes), (∀ c ∈ blanks, Json.Mark.isBlank c) →
        ¬ Json.Mark.isBlank b → ∃ failure,
          Envelope.read (s ++ blanks ++ b :: more) = .error failure ∧
          failure.category = .syntactic ∧ failure.message = "trailing characters") ∧
      ∀ front back : Bytes, s = front ++ back → (∃ b ∈ back, ¬ Json.Mark.isBlank b) →
        ∃ failure, Envelope.read front = .error failure) ∧
    ∀ e : Envelope, e.data.floatFree → e.toJson.nesting ≤ 127 →
      ∀ front : Bytes, front <+: e.write → front ≠ e.write →
        ∃ failure, Envelope.read front = .error failure ∧ failure.category = .endOfText := by
  refine ⟨fun s e read => ⟨fun blanks => read_append_of_blank read, fun blanks b more _ other => ?_,
    fun front back parts other => ?_⟩, fun e free fits front begins short => ?_⟩
  · refine ⟨.malformed .trailingCharacters, ?_, rfl, rfl⟩
    rw [List.append_assoc]
    exact read_append_of_not_blank read fun blank => other (blank b (by simp))
  · cases early : Envelope.read front with
    | error failure => exact ⟨failure, rfl⟩
    | ok e' =>
      have trailing := read_append_of_not_blank early fun blank =>
        other.elim fun b there => there.2 (blank b there.1)
      rw [← parts, read] at trailing
      cases trailing
  · obtain ⟨back, whole⟩ := begins
    have before : ∀ rest, [] ≠ rest ++ back := by
      intro rest nothing
      obtain ⟨-, rfl⟩ := List.append_eq_nil_iff.mp nothing.symm
      rw [List.append_nil] at whole
      exact short whole
    have tagged := tagged_write free fits
    rw [← whole] at tagged
    have kept : Content.floatFree (.named [("id", MessageId.toJson? e.id), ("data", e.data)]) := by
      have members := floatFree_members free
      simp only [Envelope.members, Json.floatFreeMembers, Bool.and_eq_true] at members
      simp [Content.floatFree, Json.floatFreeMembers, members.2]
    obtain ⟨inside, broken⟩ := breaksOff_of_prefix tagged kept before
    exact ⟨_, broken, rfl⟩

/-- A text with a line feed behind it, with a bracket too many, and cut inside a character. -/
theorem read_of_three_texts :
    let e : Envelope := .response (some ⟨7⟩) (.string "é")
    Envelope.read (e.write ++ [0x0A]) = .ok e ∧
    (∃ failure, Envelope.read (e.write ++ [0x20] ++ [0x7D]) = .error failure ∧
      failure.message = "trailing characters") ∧
    ∃ failure, Envelope.read (e.write.take 35) = .error failure ∧ failure.category = .endOfText := by
  intro e
  obtain ⟨read, cut⟩ := read_of_prefixes
  have portable : e.IsPortable := ⟨rfl, rfl, by decide⟩
  obtain ⟨blanks, trailing, -⟩ := read e.write e (read_write portable)
  obtain ⟨failure, refused, -, message⟩ :=
    trailing [0x20] 0x7D [] (List.forall_mem_singleton.mpr rfl) (by decide)
  refine ⟨blanks [0x0A] (List.forall_mem_singleton.mpr rfl), ⟨failure, refused, message⟩, ?_⟩
  exact cut e rfl (by decide) _ (List.take_prefix 35 e.write) (by decide)

end Envelope

end SessionHub
