import SessionHub.Proofs.Envelope.Positions
import SessionHub.Proofs.Envelope.Prefixes
import SessionHub.Proofs.Json.Canonical
import SessionHub.Proofs.Json.Depth

set_option autoImplicit false

/-! # Texts written anew

An envelope that was read, from whatever text, is portable unless it has doubles
(`Envelope.isPortable_of_read`): what it carries is canonical, and nests at most as deep as the text
it was read from, or as the brackets that writing adds. So it gets over to another reader in the
text that is written for it, and from then on stays as it is (`Envelope.read_write_of_read`). -/

namespace SessionHub

open Json (Gives named)

/-! ## First stage -/

/-- The greatest nesting in what an envelope holds. -/
def Content.nesting : Content → Nat
  | named members => Json.nestingMembers members
  | positional elements => Json.nestingElements elements

namespace Tagged

theorem gives_readMember {acc : Option Kind × List (String × Json)}
    (fits : Json.nestingMembers acc.2 ≤ Json.nestingLimit - 1) (name : String) :
    Gives (readMember acc name) fun acc => Json.nestingMembers acc.2 ≤ Json.nestingLimit - 1 := by
  intro s acc' rest read
  unfold readMember at read
  split at read
  · split at read
    · cases read
    · obtain ⟨s', -, read⟩ := bind_eq_ok.mp read
      obtain ⟨p, -, same⟩ := bind_eq_ok.mp read
      cases same
      exact fits
  · obtain ⟨p, one, same⟩ := bind_eq_ok.mp read
    cases same
    exact Json.gives_readMember (Json.gives_read _) fits name s p.1 p.2 one

theorem gives_readObject :
    Gives readObject fun t => t.content.nesting ≤ Json.nestingLimit - 1 := by
  intro s t rest read
  obtain ⟨⟨⟨kind?, members⟩, s'⟩, inside, settled⟩ := bind_eq_ok.mp read
  have fits := Json.gives_readMembers (P := fun acc : Option Kind × List (String × Json) =>
      Json.nestingMembers acc.2 ≤ Json.nestingLimit - 1)
    (fun _ name fits => gives_readMember fits name) _ _ (Nat.zero_le _) _ _ _ inside
  cases kind? with
  | none => cases settled
  | some kind =>
    cases settled
    exact fits

theorem gives_readArray :
    Gives readArray fun t => t.content.nesting ≤ Json.nestingLimit - 1 := by
  intro s t rest read
  obtain ⟨next, -, read⟩ := bind_eq_ok.mp read
  cases next with
  | closed rest' => cases read
  | element s' =>
    obtain ⟨⟨kind, s''⟩, -, read⟩ := bind_eq_ok.mp read
    obtain ⟨⟨elements, last⟩, others, same⟩ := bind_eq_ok.mp read
    cases same
    exact Json.nestingElements_le.mpr
      (Json.gives_readElements (Json.gives_read _) _ _ _ _ _ others)

/-- What the first stage keeps leaves room for the bracket around it. -/
theorem gives_read : Gives Tagged.read fun t => t.content.nesting ≤ Json.nestingLimit - 1 :=
  Json.gives_dispatch (fun _ _ _ => nofun) gives_readArray gives_readObject

end Tagged

/-! ## Second stage -/

theorem Json.nesting_le_of_named {name : String} {members : List (String × Json)} {v : Json}
    (there : v ∈ named name members) : v.nesting ≤ Json.nestingMembers members := by
  obtain ⟨m, given, rfl⟩ := List.mem_map.mp there
  exact Json.nesting_le_nestingMembers (List.mem_filter.mp given).1

/-- The arguments of a call, if it has any, are meant by an array two brackets inside. -/
theorem MethodCall.args_of_isSpelledBy {call : MethodCall} {v : Json} (spelled : call.IsSpelledBy v) :
    call.args = [] ∨ ∃ args, call.args = Json.canonicalElements args ∧
      Json.nestingElements args + 2 ≤ v.nesting := by
  cases v with
  | object members =>
    obtain ⟨-, ⟨-, none⟩ | ⟨args, one, same⟩⟩ := spelled
    · exact .inl none
    · have inside : (Json.array args).nesting ≤ Json.nestingMembers members :=
        Json.nesting_le_of_named (one ▸ List.mem_singleton_self _)
      exact .inr ⟨args, same, Nat.succ_le_succ inside⟩
  | array elements =>
    obtain ⟨-, none⟩ | ⟨args, rfl, same⟩ := spelled
    · exact .inl none
    · have inside : (Json.array args).nesting ≤
          Json.nestingElements [.string call.method, .array args] :=
        Json.nesting_le_nestingElements (by simp)
      exact .inr ⟨args, same, Nat.succ_le_succ inside⟩
  | _ => cases spelled

namespace Envelope

variable {e : Envelope} {v : Json} {values : List Json} {s : Bytes}

/-- What an envelope carries is canonical, whatever spells it. -/
theorem isCanonical_of_isDataOf (spelled : IsDataOf v e) : e.IsCanonical := by
  cases e with
  | viewerMethod id call =>
    obtain none | ⟨args, same, -⟩ := call.args_of_isSpelledBy spelled
    · simp [IsCanonical, none, Json.canonicalElements]
    · rw [IsCanonical, same, Json.canonicalElements_canonicalElements]
  | response id data | error id data =>
    rw [IsDataOf] at spelled
    rw [IsCanonical, spelled]
    exact Json.isCanonical_canonical v
  | binary id data => trivial

/-- What an envelope carries nests no deeper than what spells it, but for the brackets that writing
    adds: two in a call without arguments. -/
theorem nesting_data_of_isDataOf (spelled : IsDataOf v e) : e.data.nesting ≤ max v.nesting 2 := by
  cases e with
  | viewerMethod id call =>
    rw [nesting_data_viewerMethod]
    obtain none | ⟨args, same, inside⟩ := call.args_of_isSpelledBy spelled
    · rw [none]
      exact Nat.le_max_right _ _
    · have canonical : Json.nestingElements call.args ≤ Json.nestingElements args := by
        rw [same]
        exact Nat.le_of_succ_le_succ (Json.nesting_canonical_le (.array args))
      omega
  | response id data | error id data =>
    rw [IsDataOf] at spelled
    rw [Envelope.data, spelled]
    exact Nat.le_trans (Json.nesting_canonical_le v) (Nat.le_max_left _ _)
  | binary id data =>
    rw [nesting_data_binary]
    omega

theorem isCanonical_of_isDataSpelledBy (spelled : e.IsDataSpelledBy values) : e.IsCanonical := by
  obtain ⟨v, -, spelled⟩ | ⟨-, null⟩ := spelled
  · exact isCanonical_of_isDataOf spelled
  · rcases null with null | null <;> rw [null] <;> rfl

theorem nesting_data_of_isDataSpelledBy {n : Nat} (spelled : e.IsDataSpelledBy values)
    (fits : ∀ v ∈ values, v.nesting ≤ n) (two : 2 ≤ n) : e.data.nesting ≤ n := by
  obtain ⟨v, rfl, spelled⟩ | ⟨-, null⟩ := spelled
  · have data := nesting_data_of_isDataOf spelled
    have value := fits v (List.mem_singleton_self v)
    omega
  · have nothing : e.data.nesting = 0 := by rcases null with null | null <;> rw [null] <;> rfl
    omega

/-- In both forms the data are spelled by values that the first stage kept. -/
theorem data_of_tagged {t : Tagged} (made : t.envelope = .ok e) :
    ∃ values, e.IsDataSpelledBy values ∧ ∀ v ∈ values, v.nesting ≤ t.content.nesting := by
  obtain ⟨kind, content⟩ := t
  cases content with
  | named members =>
    obtain ⟨-, -, data⟩ := ofMembers_eq_ok.mp made
    exact ⟨_, data, fun v => Json.nesting_le_of_named⟩
  | positional elements =>
    obtain ⟨-, -, -, data⟩ := ofElements_eq_ok.mp made
    refine ⟨_, data, fun v there => ?_⟩
    exact Json.nesting_le_nestingElements (List.mem_of_mem_drop there)

/-! ## Both stages -/

/-- An envelope that was read is portable unless it has doubles. -/
theorem isPortable_of_read (read : Envelope.read s = .ok e) (free : e.data.floatFree) :
    e.IsPortable := by
  obtain ⟨t, rest, tagged, made, -⟩ := read_eq_ok.mp read
  obtain ⟨values, data, inside⟩ := data_of_tagged made
  have kept : t.content.nesting ≤ Json.nestingLimit - 1 := Tagged.gives_read s t rest tagged
  have fits : e.data.nesting ≤ Json.nestingLimit - 1 :=
    nesting_data_of_isDataSpelledBy data (fun v there => Nat.le_trans (inside v there) kept)
      (by decide)
  refine ⟨free, isCanonical_of_isDataSpelledBy data, ?_⟩
  rw [nesting_toJson]
  exact Nat.succ_le_succ fits

/-- An envelope without doubles that was read from any text is read again from the text that is
    written for it, and this text stays the same from then on. -/
theorem read_write_of_read (read : Envelope.read s = .ok e) (free : e.data.floatFree) :
    Envelope.read e.write = .ok e ∧
    ∀ e', Envelope.read e.write = .ok e' → e'.write = e.write := by
  have again : Envelope.read e.write = .ok e := read_write (isPortable_of_read read free)
  refine ⟨again, fun e' read' => ?_⟩
  rw [again] at read'
  cases read'
  rfl

/-- A text in array form with blanks, an escape, a member that does not matter, and a name that
    stands twice inside the arguments. -/
theorem read_write_of_loose_text :
    let s := Bytes.ofString (" [\"viewer_method\" ,7, \x7b\"args\":[\x7b\"b\":1,\"a\":2,\"b\":[]\x7d]" ++
      ",\"x\":0,\"method\":\"\\u0041\"\x7d]\n")
    let e := viewerMethod (some ⟨7⟩)
      { method := "A", args := [.object [("a", .number (.natural 2)), ("b", .array [])]] }
    Envelope.read s = .ok e ∧ e.data.floatFree ∧ e.write ≠ s ∧ Envelope.read e.write = .ok e := by
  intro s e
  have read : Envelope.read s = .ok e := rfl
  exact ⟨read, rfl, by decide, (read_write_of_read read rfl).1⟩

end Envelope

end SessionHub
