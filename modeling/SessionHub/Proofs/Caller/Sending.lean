import Mathlib.Data.List.Perm.Basic
import SessionHub.Proofs.Caller.Slots

set_option autoImplicit false

/-! # Sends that are carried out in any order

Each call that is accepted leaves a send behind, which is carried out by itself: at some time it
hands its payload to the outward path, and at some later time it ends, well or not. Sends set out
and end in any order, with anything else that happens to the caller in between (`Event`).

Payloads are neither lost nor made twice, for what is handed over and what still waits are together
the calls that were accepted (`handed_append_sends`). A send that fails settles its own call if that
is still pending, and nothing else (`handed_payloads_of_accepted`). -/

namespace SessionHub

/-- Whether a move is about a send that sets out or ends. -/
def Caller.Move.isSending : Caller.Move → Bool
  | .setOut | .sendEnded .. => true
  | _ => false

/-- The send of the call that a move issues, if it is accepted: one text, which calls the method
    with the arguments and, if there are any, the named arguments as one object after them. -/
def Caller.Move.send? (c : Caller) : Caller.Move → Option Send
  | .issue scheduled method args named =>
    match (c.issue scheduled method args named).2.1 with
    | .ok _ =>
      let all := if named = [] then args else args ++ [.object named]
      some ⟨⟨c.next⟩, .text (.viewerMethod (some ⟨c.next⟩) { method, args := all })⟩
    | .error _ => none
  | _ => none

/-- A caller and its sends that are under way: their payload was handed over, and they have not
    ended yet. -/
structure SendingCaller where
  caller : Caller := {}
  underway : List Send := []

namespace SendingCaller

/-! ## Events -/

/-- What can happen to a caller and its sends. -/
inductive Event where
  /-- Something that is not about a send. -/
  | move (m : Caller.Move) (apart : m.isSending = false)
  /-- The send at place `i` of those that wait hands its payload over. -/
  | setOut (i : Nat)
  /-- The send at place `i` of those that are under way ends. -/
  | ended (i : Nat) (result : Except DeliveryError Unit)

/-- What an event makes of a caller and its sends. -/
def happen (s : SendingCaller) : Event → SendingCaller
  | .move m _ => { s with caller := s.caller.move m }
  | .setOut i =>
    match s.caller.sends[i]? with
    | none => s
    | some send =>
      { caller := { s.caller with sends := s.caller.sends.eraseIdx i }
        underway := send :: s.underway }
  | .ended i result =>
    match s.underway[i]? with
    | none => s
    | some send =>
      { caller := (s.caller.sendEnded send.id result).1, underway := s.underway.eraseIdx i }

/-- The caller and its sends after some events. -/
def after (s : SendingCaller) (events : List Event) : SendingCaller :=
  Run.after happen s events

/-- The send that an event hands over. -/
def Event.handed? (s : SendingCaller) : Event → Option Send
  | .setOut i => s.caller.sends[i]?
  | _ => none

/-- The send of the call that an event issues, if it is accepted. -/
def Event.send? (s : SendingCaller) : Event → Option Send
  | .move m _ => m.send? s.caller
  | _ => none

/-- The sends that events hand over, in order. -/
def handed (s : SendingCaller) (events : List Event) : List Send :=
  Run.seen happen (fun s e => (e.handed? s).toList) s events

/-- The sends of the calls that events issue and that are accepted, in order. -/
def accepted (s : SendingCaller) (events : List Event) : List Send :=
  Run.seen happen (fun s e => (e.send? s).toList) s events

/-- Whether an event uses up an identity. -/
def Event.takesIdentity : Event → Bool
  | .move m _ => m.takesIdentity
  | _ => false

/-- How many identities events use up. -/
def identities (events : List Event) : Nat :=
  events.countP Event.takesIdentity

@[simp] theorem identities_concat (events : List Event) (e : Event) :
    identities (events ++ [e]) = identities events + if e.takesIdentity then 1 else 0 := by
  simp [identities, List.countP_append, List.countP_cons]

/-- What an event does. -/
inductive Happened (s : SendingCaller) : Event → SendingCaller → Prop where
  | moved (m : Caller.Move) (apart : m.isSending = false) :
    Happened s (.move m apart) { s with caller := s.caller.move m }
  | setOut {i : Nat} {send : Send} (found : s.caller.sends[i]? = some send) :
    Happened s (.setOut i)
      { caller := { s.caller with sends := s.caller.sends.eraseIdx i }
        underway := send :: s.underway }
  | ended {i : Nat} {send : Send} (found : s.underway[i]? = some send)
    (result : Except DeliveryError Unit) :
    Happened s (.ended i result)
      { caller := s.caller.move (.sendEnded send.id result), underway := s.underway.eraseIdx i }
  /-- There is no such send. -/
  | nothing {e : Event} (handed : e.handed? s = none) (send : e.send? s = none)
    (identity : e.takesIdentity = false) : Happened s e s

theorem happened (s : SendingCaller) (e : Event) : Happened s e (s.happen e) := by
  cases e with
  | move m apart => exact .moved m apart
  | setOut i =>
    cases found : s.caller.sends[i]? with
    | none =>
      simp only [happen, found]
      exact .nothing found rfl rfl
    | some send =>
      simp only [happen, found]
      exact .setOut found
  | ended i result =>
    cases found : s.underway[i]? with
    | none =>
      simp only [happen, found]
      exact .nothing rfl rfl rfl
    | some send =>
      simp only [happen, found]
      exact .ended found result

/-! ## Payloads -/

/-- The send of a call that is accepted waits, and no other move adds one. -/
theorem sends_move (c : Caller) {m : Caller.Move} (apart : m.isSending = false) :
    (c.move m).sends = (m.send? c).toList ++ c.sends := by
  cases m with
  | issue scheduled method args named =>
    cases scheduled with
    | false => rfl
    | true =>
      simp only [Caller.move, Caller.act, Caller.Move.send?]
      rcases c.issue_cases method args named with ⟨e, records, same⟩ | ⟨-, records, same⟩
      · rw [same]
        rfl
      · rw [same]
        have payload : (Envelope.call ⟨c.next⟩ method args named).payload =
            .text (.viewerMethod (some ⟨c.next⟩)
              { method, args := if named = [] then args else args ++ [.object named] }) := by
          simp [Envelope.call, Envelope.payload]
        simp [Caller.sends_insert, payload]
  | setOut => cases apart
  | _ => exact c.sends_move rfl

/-- What an event hands over and what then waits are what waited and what was added. -/
theorem Happened.sends {s s' : SendingCaller} {e : Event} (h : Happened s e s') :
    ((e.handed? s).toList ++ s'.caller.sends).Perm ((e.send? s).toList ++ s.caller.sends) := by
  cases h with
  | moved m apart =>
    have sends := sends_move s.caller apart
    rw [sends]
    exact .refl _
  | @setOut i send found =>
    obtain ⟨inside, rfl⟩ := List.getElem?_eq_some_iff.mp found
    simp only [Event.handed?, Event.send?, found]
    exact List.getElem_cons_eraseIdx_perm inside
  | @ended i send found result =>
    have sends : (s.caller.move (.sendEnded send.id result)).sends = s.caller.sends :=
      s.caller.sends_move rfl
    simp [Event.handed?, Event.send?, sends]
  | nothing handed send identity => simp [handed, send]

/-- What was handed over and what still waits are together the calls that were accepted. -/
theorem handed_append_sends (events : List Event) :
    (handed {} events ++ (after {} events).caller.sends).Perm (accepted {} events) := by
  refine Run.after_induction happen (motive := fun events s =>
    (handed {} events ++ s.caller.sends).Perm (accepted {} events)) {} (.refl _) ?_ events
  intro events e ih
  simp only [handed, accepted, Run.seen_concat] at ih ⊢
  rw [List.append_assoc]
  let s := after {} events
  have now := (s.happened e).sends
  calc
    (handed {} events ++ ((e.handed? s).toList ++ (s.happen e).caller.sends)).Perm
        (handed {} events ++ ((e.send? s).toList ++ s.caller.sends)) := now.append_left _
    List.Perm _ ((e.send? s).toList ++ (handed {} events ++ s.caller.sends)) :=
      List.perm_append_comm_assoc ..
    List.Perm _ ((e.send? s).toList ++ accepted {} events) := ih.append_left _
    List.Perm _ (accepted {} events ++ (e.send? s).toList) := List.perm_append_comm

/-- Whatever waits can set out, one send after the other. -/
theorem sends_after_setOut (s : SendingCaller) :
    (after s (List.replicate s.caller.sends.length (.setOut 0))).caller.sends = [] := by
  induction waiting : s.caller.sends generalizing s with
  | nil => exact waiting
  | cons send sends ih =>
    have left : (s.happen (.setOut 0)).caller.sends = sends := by
      simp [happen, waiting]
    rw [List.length_cons, List.replicate_succ, after, Run.after_cons]
    exact ih _ left

theorem accepted_append (s : SendingCaller) (events more : List Event) :
    accepted s (events ++ more) = accepted s events ++ accepted (after s events) more :=
  Run.seen_append ..

/-- Nothing is accepted while sends set out. -/
theorem accepted_append_setOut (s : SendingCaller) (events : List Event) (n : Nat) :
    accepted s (events ++ List.replicate n (.setOut 0)) = accepted s events := by
  have nothing : accepted (after s events) (List.replicate n (.setOut 0)) = [] := by
    refine Run.seen_eq_nil happen _ _ fun e he _ => ?_
    rw [List.eq_of_mem_replicate he]
    rfl
  rw [accepted_append, nothing, List.append_nil]

/-! ## Tickets -/

theorem Happened.keyed {s s' : SendingCaller} {e : Event} (h : Happened s e s')
    (keyed : s.caller.Keyed) : s'.caller.Keyed := by
  cases h with
  | moved m apart => exact keyed.move m
  | setOut found => exact keyed.of_same rfl rfl rfl
  | ended found result => exact keyed.move _
  | nothing => exact keyed

theorem keyed_after (events : List Event) : (after {} events).caller.Keyed :=
  Run.after_induction happen (motive := fun _ s => s.caller.Keyed) {} (Caller.keyed_start 1)
    (fun _ e keyed => (happened _ e).keyed keyed) events

/-- The send of a call that is accepted bears the identity of the call. -/
theorem map_id_send? (c : Caller) (m : Caller.Move) :
    (m.send? c).map (·.id) = m.accepted? c := by
  cases m with
  | issue scheduled method args named =>
    simp only [Caller.Move.send?, Caller.Move.accepted?]
    cases (c.issue scheduled method args named).2.1 <;> rfl
  | _ => rfl

/-- An event keeps the table tidy, and it adds the ticket of the call that it issues, if any. -/
theorem Happened.tidy {s s' : SendingCaller} {e : Event} (h : Happened s e s') {used : Nat}
    (tidy : s.caller.Tidy used) (few : used + (if e.takesIdentity then 1 else 0) < UInt64.size) :
    s'.caller.Tidy (used + if e.takesIdentity then 1 else 0) ∧
      s'.caller.ids = s.caller.ids ++ ((e.send? s).map (·.id)).toList := by
  have silent : ∀ d : Caller, d.ids = s.caller.ids → d.ids = s.caller.ids ++ [] := by
    intro d same
    rw [same, List.append_nil]
  cases h with
  | moved m apart =>
    refine ⟨(tidy.act m few).1, ?_⟩
    show (s.caller.move m).ids = s.caller.ids ++ ((m.send? s.caller).map (·.id)).toList
    rw [map_id_send?]
    exact tidy.ids_move m few
  | setOut found => exact ⟨tidy.withOthers _ _, silent _ rfl⟩
  | @ended i send found result =>
    refine ⟨(tidy.act (.sendEnded send.id result) few).1, ?_⟩
    exact tidy.ids_move (.sendEnded send.id result) few
  | nothing handed send identity =>
    rw [send, identity]
    exact ⟨tidy, silent _ rfl⟩

/-- Tickets are those of the calls that were accepted, in order. -/
theorem tidy_after (events : List Event) (few : identities events < UInt64.size) :
    (after {} events).caller.Tidy (identities events) ∧
      (after {} events).caller.ids = (accepted {} events).map (·.id) := by
  refine Run.after_induction happen (motive := fun events s => identities events < UInt64.size →
    s.caller.Tidy (identities events) ∧ s.caller.ids = (accepted {} events).map (·.id)) {} ?_ ?_
    events few
  · intro _
    exact ⟨Caller.tidy_start, rfl⟩
  · intro events e ih few
    rw [identities_concat] at few ⊢
    obtain ⟨tidy, ids⟩ := ih (by omega)
    obtain ⟨tidy', ids'⟩ := (happened _ e).tidy tidy few
    refine ⟨tidy', ids'.trans ?_⟩
    rw [ids, accepted, accepted, Run.seen_concat, List.map_append, Option.toList_map]

/-- A send that is under way has handed its payload over. -/
theorem mem_handed_of_underway (events : List Event) :
    ∀ send ∈ (after {} events).underway, send ∈ handed {} events := by
  refine Run.after_induction happen (motive := fun events s =>
    ∀ send ∈ s.underway, send ∈ handed {} events) {} nofun ?_ events
  intro events e ih
  suffices later : ∀ s', Happened (after {} events) e s' → ∀ send ∈ s'.underway,
      send ∈ handed {} (events ++ [e]) from later _ (happened _ e)
  intro s' step send there
  rw [handed, Run.seen_concat, List.mem_append]
  cases step with
  | moved m apart => exact .inl (ih send there)
  | setOut found =>
    rcases List.mem_cons.mp there with rfl | there
    · exact .inr (Option.mem_toList.mpr found)
    · exact .inl (ih send there)
  | ended found result => exact .inl (ih send (List.mem_of_mem_eraseIdx there))
  | nothing => exact .inl (ih send there)

/-- The ticket of a call whose send is under way is known from the place of the call among those
    that were accepted. -/
theorem ticket_of_underway (events : List Event) (few : identities events < UInt64.size)
    {send : Send}
    (there : send ∈ (after {} events).underway) :
    ∃ k, (accepted {} events)[k]? = some send ∧
      ((after {} events).caller.tickets[k]?).map (·.id) = some send.id ∧
      ∀ j, (send.id, j) ∈ (after {} events).caller.table → j = k := by
  obtain ⟨tidy, ids⟩ := tidy_after events few
  have issued : send ∈ accepted {} events :=
    (handed_append_sends events).mem_iff.mp
      (List.mem_append_left _ (mem_handed_of_underway events send there))
  obtain ⟨k, place⟩ := List.getElem?_of_mem issued
  have ticket : ((after {} events).caller.tickets[k]?).map (·.id) = some send.id := by
    have same : (after {} events).caller.ids[k]? = ((accepted {} events).map (·.id))[k]? := by
      rw [ids]
    simpa [Caller.ids, place] using same
  refine ⟨k, place, ticket, fun j entry => ?_⟩
  obtain ⟨t, ht, hid⟩ := Option.map_eq_some_iff.mp ticket
  obtain ⟨u, hu, hid', -⟩ := (tidy.entry send.id j).mp entry
  exact tidy.distinct j k u t hu ht (hid'.trans hid.symm)

/-! ## The law -/

/-- For every order in which sends set out and end, the payloads `handed` over and those still in
    `sends` are together the `accepted` calls, each once, and the first alone when `sends = []`, to
    which `setOut` leads. A send that ends in an error gives the pending call of its identity this
    error as result and changes nothing else, and changes nothing at all if there is none. As long
    as fewer than `2 ^ 64` identities are taken, this is the call whose send it was. -/
theorem handed_payloads_of_accepted (events : List Event) :
    let s := after {} events
    let c := s.caller
    (handed {} events ++ c.sends).Perm (accepted {} events) ∧
    (c.sends = [] → (handed {} events).Perm (accepted {} events)) ∧
    (handed {} (events ++ List.replicate c.sends.length (.setOut 0))).Perm (accepted {} events) ∧
    ∀ (i : Nat) (send : Send) (e : DeliveryError), s.underway[i]? = some send →
      let failed := (s.happen (.ended i (.error e))).caller
      (∀ k, (send.id, k) ∈ c.table → failed = { c with
        table := c.table.filter (·.1 ≠ send.id)
        tickets := c.tickets.modify k fun t =>
          { t with result := some (.error (.send e.message)) } }) ∧
      ((∀ k, (send.id, k) ∉ c.table) → failed = c) ∧
      (identities events < UInt64.size → ∃ k, (accepted {} events)[k]? = some send ∧
        (c.tickets[k]?).map (·.id) = some send.id ∧ ∀ j, (send.id, j) ∈ c.table → j = k) := by
  intro s c
  have account : (handed {} events ++ c.sends).Perm (accepted {} events) := handed_append_sends events
  have keyed : c.Keyed := keyed_after events
  refine ⟨account, fun all => ?_, ?_, fun i send e found => ?_⟩
  · rwa [all, List.append_nil] at account
  · let more : List Event := List.replicate c.sends.length (.setOut 0)
    have none_left : (after {} (events ++ more)).caller.sends = [] := by
      rw [after, Run.after_append]
      exact sends_after_setOut s
    have all := handed_append_sends (events ++ more)
    rwa [none_left, List.append_nil, accepted_append_setOut] at all
  · intro failed
    have completed : failed = (c.complete send.id (.error (.send e.message))).1 := by
      simp only [failed, happen, found]
      rfl
    refine ⟨fun k entry => ?_, fun absent => ?_, fun few => ?_⟩
    · rw [completed, keyed.complete_of_entry entry]
      rfl
    · have nothing : c.table.lookup send.id = none := by
        rw [Option.eq_none_iff_forall_ne_some]
        exact fun k there => absent k (keyed.lookup_eq_some.mp there)
      rw [completed, Caller.complete, nothing]
    · exact ticket_of_underway events few (List.mem_of_getElem? found)

/-- Of two calls the second is sent first, and the first is given up before it is sent. Both sends
    fail: this settles the second call, and does nothing to the first. -/
theorem handed_payloads_of_two_calls :
    let events : List Event := [.move (.issue true "save" [] []) rfl,
      .move (.issue true "load" [.null] [("deep", .bool true)]) rfl, .move (.release 0) rfl,
      .setOut 0, .setOut 0]
    let s := after {} events
    (handed {} events).Perm (accepted {} events) ∧
    (s.happen (.ended 0 (.error .closed))).caller = s.caller ∧
    ∃ t, (s.happen (.ended 1 (.error .closed))).caller.tickets[1]? = some t ∧
      t.result = some (.error (.send "delivery channel closed")) := by
  intro events s
  obtain ⟨-, whole, -, fails⟩ := handed_payloads_of_accepted events
  obtain ⟨-, unchanged, -⟩ := fails 0 _ .closed rfl
  obtain ⟨settles, -, -⟩ := fails 1 _ .closed rfl
  have given_up : ∀ k, (⟨1⟩, k) ∉ s.caller.table := by
    intro k entry
    have absent : (⟨1⟩ : MessageId) ∉ s.caller.table.map (·.1) := by decide
    exact absent (List.mem_map.mpr ⟨_, entry, rfl⟩)
  refine ⟨whole rfl, unchanged given_up, ?_⟩
  rw [settles 1 (by decide)]
  exact ⟨_, rfl, rfl⟩

end SendingCaller

end SessionHub
