import Mathlib.Data.List.Perm.Basic
import SessionHub.Engine.Sources
import SessionHub.Proofs.Service.Run

set_option autoImplicit false

/-! # Calls over connections

Calls of a connection go out over its own socket, and over no other, in the order in which their
sends set out (`Carried`). Their replies come in over that socket, too: a reply of the viewer on a
ticket of a connection was read by the loop of that connection (`texts_carry_own_calls`). Identities
play no part in this, for every caller counts its calls from one. -/

namespace SessionHub.Service

variable {σ : Type}

/-! ## What is seen of a connection -/

/-- The payload that an event hands to the loop. -/
def Event.handed? (e : Event σ) : Option Payload :=
  match e.move with
  | .send _ i =>
    if e.connection.role.looping then e.connection.caller.sends[i]?.map (·.payload) else none
  | _ => none

/-- The payload that an event turns away because the loop has ended. -/
def Event.turnedAway? (e : Event σ) : Option Payload :=
  match e.move with
  | .send _ i =>
    if e.connection.role.looping then none else e.connection.caller.sends[i]?.map (·.payload)
  | _ => none

/-- The call that an event issues and that is accepted, as it goes out. -/
def Event.issued? (e : Event σ) : Option Envelope :=
  match e.move with
  | .call _ method args named =>
    if (e.connection.caller.issue true method args named).2.1.isOk then
      some (Envelope.call ⟨e.connection.caller.next⟩ method args named)
    else none
  | _ => none

/-! ## The invariant -/

/-- How the texts that went out to a peer stand to the calls of the connection. -/
structure Carried (past : List (Event σ)) (c : Connection) : Prop where
  outbound : ∀ p ∈ c.role.outbound, p.isBinary = false
  sends : ∀ send ∈ c.caller.sends, send.payload.isBinary = false
  /-- What was handed to the loop went out, or will. -/
  rest : c.role.looping →
    c.texts ++ c.role.outbound.map Payload.bytes = (past.filterMap Event.handed?).map Payload.bytes
  texts : c.texts <+: (past.filterMap Event.handed?).map Payload.bytes
  welcome : c.role.looping → past.filterMap Event.turnedAway? = []
  /-- Each call that was accepted was handed over once, or turned away, or it waits. -/
  account : (past.filterMap Event.handed? ++ past.filterMap Event.turnedAway? ++
    c.caller.sends.map (·.payload)).Perm ((past.filterMap Event.issued?).map Envelope.payload)

theorem carried_fresh (h : Hub σ) (shared : Bool) :
    Carried ([] : List (Event σ)) (fresh h shared) where
  outbound := nofun
  sends := nofun
  rest _ := rfl
  texts := List.prefix_rfl
  welcome _ := rfl
  account := .nil

theorem frame_of_text {p : Payload} (text : p.isBinary = false) :
    p.frame.text? = some p.bytes ∧ p.frame.binary? = none := by
  cases p with
  | binary data => cases text
  | text e => exact ⟨rfl, rfl⟩

/-- What remains when the send at one place has set out. -/
theorem sends_eraseIdx {sends : List Send} {i : Nat} {send : Send} (found : sends[i]? = some send) :
    (send.payload :: (sends.eraseIdx i).map (·.payload)).Perm (sends.map (·.payload)) := by
  obtain ⟨inside, rfl⟩ := List.getElem?_eq_some_iff.mp found
  exact (List.getElem_cons_eraseIdx_perm inside).map (·.payload)

namespace Carried

variable {past : List (Event σ)} {c : Connection}

/-- Events that are not about calls. -/
theorem of_same (v : Carried past c) {e : Event σ} (handed : e.handed? = none)
    (turnedAway : e.turnedAway? = none) (issued : e.issued? = none) {c' : Connection}
    (sends : c'.caller.sends = c.caller.sends) (outbound : c'.role.outbound = c.role.outbound)
    (texts : c'.texts = c.texts) (looping : c'.role.looping → c.role.looping) :
    Carried (past ++ [e]) c' := by
  have same : (past ++ [e]).filterMap Event.handed? = past.filterMap Event.handed? ∧
      (past ++ [e]).filterMap Event.turnedAway? = past.filterMap Event.turnedAway? ∧
      (past ++ [e]).filterMap Event.issued? = past.filterMap Event.issued? := by
    simp [List.filterMap_append, handed, turnedAway, issued]
  obtain ⟨same_handed, same_turned, same_issued⟩ := same
  exact {
    outbound := outbound ▸ v.outbound
    sends := sends ▸ v.sends
    rest := by
      intro still
      rw [same_handed, texts, outbound]
      exact v.rest (looping still)
    texts := by
      rw [same_handed, texts]
      exact v.texts
    welcome := by
      intro still
      rw [same_turned]
      exact v.welcome (looping still)
    account := by
      rw [same_handed, same_turned, same_issued, sends]
      exact v.account }

/-- The loop ends. -/
theorem ended (v : Carried past c) {e : Event σ} (handed : e.handed? = none)
    (turnedAway : e.turnedAway? = none) (issued : e.issued? = none) {c' : Connection}
    (sends : c'.caller.sends = c.caller.sends) (outbound : c'.role.outbound = [])
    (texts : c'.texts = c.texts) (past_it : c'.role.looping = false) : Carried (past ++ [e]) c' := by
  have same : Carried (past ++ [e]) c := v.of_same handed turnedAway issued rfl rfl rfl id
  exact {
    outbound := by
      rw [outbound]
      exact nofun
    sends := sends ▸ same.sends
    rest := by
      intro still
      rw [past_it] at still
      cases still
    texts := texts ▸ same.texts
    welcome := by
      intro still
      rw [past_it] at still
      cases still
    account := sends ▸ same.account }

/-- A payload is written. -/
theorem carried (v : Carried past c) {e : Event σ} (handed : e.handed? = none)
    (turnedAway : e.turnedAway? = none) (issued : e.issued? = none) (looping : c.role.looping)
    {p : Payload} {rest : List Payload} (waits : c.role.outbound = p :: rest) :
    Carried (past ++ [e]) { c with
      role.outbound := rest
      role.written := p.frame :: c.role.written } := by
  have same : Carried (past ++ [e]) c := v.of_same handed turnedAway issued rfl rfl rfl id
  have text : p.isBinary = false := v.outbound p (waits ▸ List.mem_cons_self)
  have texts : Connection.texts { c with
      role.outbound := rest
      role.written := p.frame :: c.role.written } = c.texts ++ [p.bytes] := by
    rw [Connection.texts_of_written (c := c) (f := p.frame) rfl, (frame_of_text text).1]
    rfl
  have whole := same.rest looping
  rw [waits, List.map_cons, List.append_cons, ← texts] at whole
  exact {
    outbound := fun q hq => v.outbound q (waits ▸ List.mem_cons_of_mem p hq)
    sends := v.sends
    rest := fun _ => whole
    texts := ⟨_, whole⟩
    welcome := fun _ => same.welcome looping
    account := same.account }

/-- A send is put before the loop. -/
theorem sent (v : Carried past c) {h : Hub σ} {k i : Nat} {send : Send} (looping : c.role.looping)
    (found : c.caller.sends[i]? = some send) :
    Carried (past ++ [⟨h, c, .send k i⟩]) { c with
      caller := { c.caller with sends := c.caller.sends.eraseIdx i }
      role.outbound := c.role.outbound ++ [send.payload] } := by
  have handed : (past ++ [(⟨h, c, .send k i⟩ : Event σ)]).filterMap Event.handed? =
      past.filterMap Event.handed? ++ [send.payload] := by
    simp [List.filterMap_append, Event.handed?, looping, found]
  have turnedAway : (past ++ [(⟨h, c, .send k i⟩ : Event σ)]).filterMap Event.turnedAway? = [] := by
    simp [List.filterMap_append, Event.turnedAway?, looping, v.welcome looping]
  have issued : (past ++ [(⟨h, c, .send k i⟩ : Event σ)]).filterMap Event.issued? =
      past.filterMap Event.issued? := by
    simp [List.filterMap_append, Event.issued?]
  have text : send.payload.isBinary = false := v.sends send (List.mem_of_getElem? found)
  have account := v.account
  rw [v.welcome looping, List.append_nil] at account
  exact {
    outbound := by
      intro p hp
      rcases List.mem_append.mp hp with hp | hp
      · exact v.outbound p hp
      · rw [List.mem_singleton.mp hp]
        exact text
    sends := fun other hs => v.sends other (List.mem_of_mem_eraseIdx hs)
    rest := by
      intro _
      rw [handed, List.map_append, List.map_append, ← v.rest looping, List.append_assoc]
      rfl
    texts := by
      rw [handed, List.map_append]
      exact v.texts.trans (List.prefix_append _ _)
    welcome := fun _ => turnedAway
    account := by
      rw [handed, turnedAway, issued, List.append_nil, List.append_assoc]
      exact ((sends_eraseIdx found).append_left _).trans account }

/-- A send comes too late. -/
theorem sentLate (v : Carried past c) {h : Hub σ} {k i : Nat} {send : Send}
    (past_it : c.role.looping = false) (found : c.caller.sends[i]? = some send) {caller : Caller}
    (sends : caller.sends = c.caller.sends.eraseIdx i) :
    Carried (past ++ [⟨h, c, .send k i⟩]) { c with caller } := by
  have handed : (past ++ [(⟨h, c, .send k i⟩ : Event σ)]).filterMap Event.handed? =
      past.filterMap Event.handed? := by
    simp [List.filterMap_append, Event.handed?, past_it]
  have turnedAway : (past ++ [(⟨h, c, .send k i⟩ : Event σ)]).filterMap Event.turnedAway? =
      past.filterMap Event.turnedAway? ++ [send.payload] := by
    simp [List.filterMap_append, Event.turnedAway?, past_it, found]
  have issued : (past ++ [(⟨h, c, .send k i⟩ : Event σ)]).filterMap Event.issued? =
      past.filterMap Event.issued? := by
    simp [List.filterMap_append, Event.issued?]
  have never : ∀ {P : Prop}, c.role.looping → P := by
    intro P still
    rw [past_it] at still
    cases still
  exact {
    outbound := v.outbound
    sends := by
      rw [sends]
      exact fun other hs => v.sends other (List.mem_of_mem_eraseIdx hs)
    rest := never
    texts := by
      rw [handed]
      exact v.texts
    welcome := never
    account := by
      rw [handed, turnedAway, issued, sends, ← List.append_assoc, List.append_assoc _ [_]]
      exact ((sends_eraseIdx found).append_left _).trans v.account }

/-- A call is issued. -/
theorem called (v : Carried past c) {h : Hub σ} {k : Nat} (method : String) (args : List Json)
    (named : List (String × Json)) :
    Carried (past ++ [⟨h, c, .call k method args named⟩]) { c with
      caller := (c.caller.issue true method args named).1 } := by
  rcases c.caller.issue_cases method args named with ⟨e, records, same⟩ | ⟨-, records, same⟩
  · refine v.of_same rfl rfl ?_ ?_ rfl rfl id
    · simp [Event.issued?, same, Except.isOk, Except.toBool]
    · rw [same]
  · have call : (Envelope.call ⟨c.caller.next⟩ method args named).payload.isBinary = false := rfl
    have handed : (past ++ [(⟨h, c, .call k method args named⟩ : Event σ)]).filterMap
        Event.handed? = past.filterMap Event.handed? := by
      simp [List.filterMap_append, Event.handed?]
    have turnedAway : (past ++ [(⟨h, c, .call k method args named⟩ : Event σ)]).filterMap
        Event.turnedAway? = past.filterMap Event.turnedAway? := by
      simp [List.filterMap_append, Event.turnedAway?]
    have issued : (past ++ [(⟨h, c, .call k method args named⟩ : Event σ)]).filterMap
        Event.issued? = past.filterMap Event.issued? ++
          [Envelope.call ⟨c.caller.next⟩ method args named] := by
      simp [List.filterMap_append, Event.issued?, same, Except.isOk, Except.toBool]
    have sends : (c.caller.issue true method args named).1.sends =
        ⟨⟨c.caller.next⟩, (Envelope.call ⟨c.caller.next⟩ method args named).payload⟩ ::
          c.caller.sends := by
      rw [same]
      exact congrArg (_ :: ·) (Caller.sends_insert _ _)
    exact {
      outbound := v.outbound
      sends := by
        intro send hs
        rw [sends] at hs
        rcases List.mem_cons.mp hs with rfl | hs
        · exact call
        · exact v.sends send hs
      rest := by
        rw [handed]
        exact v.rest
      texts := by
        rw [handed]
        exact v.texts
      welcome := by
        rw [turnedAway]
        exact v.welcome
      account := by
        rw [handed, turnedAway, issued, sends, List.map_append, List.map_cons]
        exact List.perm_middle.trans ((v.account.cons _).trans
          (List.perm_append_singleton _ _).symm) }

/-- A turn of the loop. -/
theorem turn (v : Carried past c) {h : Hub σ} {k : Nat} {L : List Hub.Move} {c' : Connection}
    (turn : c.Turn h L c') : Carried (past ++ [⟨h, c, .serve k⟩]) c' := by
  cases turn with
  | nothing reads => exact v.of_same rfl rfl rfl rfl rfl rfl id
  | delivered waits looping =>
    refine v.of_same rfl rfl rfl rfl rfl ?_ id
    rw [Connection.texts_of_written (c := c) (f := .binary _) rfl]
    exact List.append_nil _
  | carried waits looping => exact v.carried rfl rfl rfl looping waits
  | asked rest reads accepted => exact v.of_same rfl rfl rfl rfl rfl rfl id
  | @told bytes rest reads =>
    exact v.of_same rfl rfl rfl (c.caller.sends_move (m := .receive bytes) rfl) rfl rfl id
  | passed rest reads frames =>
    refine v.of_same rfl rfl rfl rfl rfl ?_ id
    rcases frames with same | ⟨bytes, more⟩
    · exact Connection.texts_congr same
    · rw [Connection.texts_of_written (c := c) (f := .pong bytes) more]
      exact List.append_nil _
  | ended outbound inbound result looping leaving =>
    refine v.ended rfl rfl rfl ?_ rfl ?_ rfl
    · exact (Caller.sends_letGo _).trans (Caller.sends_terminate _)
    · exact Connection.texts_finished _

theorem changed (v : Carried past c) {h : Hub σ} {m : Move} {L : List Hub.Move} {c' : Connection}
    (change : Changed h c m L c') : Carried (past ++ [⟨h, c, m⟩]) c' := by
  cases change with
  | turn turn => exact v.turn turn
  | @unsent k i none_there =>
    refine v.of_same ?_ ?_ rfl rfl rfl rfl id
    · simp [Event.handed?, none_there]
    · simp [Event.turnedAway?, none_there]
  | sent looping found => exact v.sent looping found
  | @turnedAway k i send past_it found caller records told =>
    refine v.sentLate past_it found ?_
    have tells := Caller.frame_of_tells (c := { c.caller with sends := c.caller.sends.eraseIdx i })
      (m := .sendEnded send.id (.error .closed)) rfl
    rw [Caller.move, Caller.act, told] at tells
    exact tells.2.1
  | @owned m k a hm =>
    cases m <;> simp only [Move.owned?, reduceCtorEq, Option.some.injEq, Prod.mk.injEq] at hm <;>
      obtain ⟨rfl, rfl⟩ := hm
    case call k method args named => exact v.called method args named
    all_goals exact v.of_same rfl rfl rfl (c.caller.sends_move rfl) rfl rfl id
  | brought a => exact v.of_same rfl rfl rfl rfl rfl rfl id
  | linked unwritable => exact v.of_same rfl rfl rfl rfl rfl rfl id

end Carried

theorem carried_after (E : Engine σ) (engine : σ) (mode : Mode) (moves : List Move) {k : Nat}
    {c : Connection} (found : (after E (start engine mode) moves).members[k]? = some c) :
    Carried (history E k (start engine mode) moves) c :=
  history_induction engine mode (fun h shared => carried_fresh h shared)
    (fun _ _ _ _ _ _ _ change v => v.changed change) moves found

/-! ## Replies -/

/-- Whether an event is the reading of a text frame that answers the call `id` with `r`. -/
def Event.Answers (e : Event σ) (k : Nat) (id : MessageId) (r : Reply) : Prop :=
  e.move = .serve k ∧ ∃ bytes envelope, e.connection.textRead? e.hub = some bytes ∧
    Envelope.read bytes = .ok envelope ∧ envelope.reply? = some (id, r)

/-- Whether each reply of the viewer on a ticket of a connection was read from its peer while the
    ticket was waiting. -/
structure Heard (k : Nat) (past : List (Event σ)) (c : Connection) : Prop where
  keyed : c.caller.Keyed
  source : ∀ (j : Nat) (t : Ticket) (r : Reply), c.caller.tickets[j]? = some t →
    t.result = some r → r.isAnswer → ∃ e ∈ past, e.Answers k t.id r ∧
      ∃ s, e.connection.caller.tickets[j]? = some s ∧ s.id = t.id ∧ s.waiting

theorem heard_fresh (k : Nat) (h : Hub σ) (shared : Bool) :
    Heard k ([] : List (Event σ)) (fresh h shared) where
  keyed := Caller.keyed_start _
  source j t r ht := by
    have none_there : (#[] : Array Ticket)[j]? = some t := ht
    simp at none_there

namespace Heard

variable {k : Nat} {past : List (Event σ)} {c : Connection}

/-- Events in which the viewer says nothing. -/
theorem of_silent (v : Heard k past c) (e : Event σ) {c' : Connection} (keyed : c'.caller.Keyed)
    (silent : c.caller.NothingSaid c'.caller) : Heard k (past ++ [e]) c' where
  keyed
  source j t r ht hr answer := by
    obtain ⟨s, hs, hid, hr'⟩ := silent j t r ht hr answer
    obtain ⟨e', happened, answers, waited⟩ := v.source j s r hs hr' answer
    rw [hid] at answers waited
    exact ⟨e', List.mem_append_left _ happened, answers, waited⟩

/-- The caller makes a move that completes no call by a reply of the viewer. -/
theorem of_move (v : Heard k past c) (e : Event σ) (a : Caller.Move) {c' : Connection}
    (same : c'.caller = c.caller.move a)
    (silent : ∀ id r, a.completion? = some (id, r) → r.isAnswer = false) :
    Heard k (past ++ [e]) c' := by
  refine v.of_silent e (same ▸ v.keyed.move a) fun j t r ht hr answer => ?_
  rw [same] at ht
  rcases v.keyed.answered a ht hr answer with before | ⟨completes, -⟩
  · exact before
  · rw [silent t.id r completes] at answer
    cases answer

/-- A text frame is read. -/
theorem told (v : Heard k past c) {h : Hub σ} {bytes : Bytes} (reads : c.textRead? h = some bytes)
    {c' : Connection} (same : c'.caller = c.caller.move (.receive bytes)) :
    Heard k (past ++ [⟨h, c, .serve k⟩]) c' where
  keyed := same ▸ v.keyed.move _
  source j t r ht hr answer := by
    rw [same] at ht
    rcases v.keyed.answered _ ht hr answer with ⟨s, hs, hid, hr'⟩ | ⟨completes, waited⟩
    · obtain ⟨e, happened, answers, waited⟩ := v.source j s r hs hr' answer
      rw [hid] at answers waited
      exact ⟨e, List.mem_append_left _ happened, answers, waited⟩
    · refine ⟨_, List.mem_append_right _ (List.mem_singleton.mpr rfl), ⟨rfl, ?_⟩, waited⟩
      simp only [Caller.Move.completion?] at completes
      split at completes
      · next envelope parsed => exact ⟨bytes, envelope, reads, parsed, completes⟩
      · cases completes

theorem changed (v : Heard k past c) {h : Hub σ} {m : Move} {L : List Hub.Move} {c' : Connection}
    (about : m.connection? = some k) (change : Changed h c m L c') :
    Heard k (past ++ [⟨h, c, m⟩]) c' := by
  have same : ∀ {c' : Connection}, c'.caller = c.caller → Heard k (past ++ [⟨h, c, m⟩]) c' :=
    fun same => v.of_silent _ (same ▸ v.keyed) (.of_same (by rw [same]))
  cases change with
  | turn turn =>
    cases about
    cases turn with
    | told rest reads => exact v.told reads rfl
    | ended outbound inbound result looping leaving =>
      -- the loop terminates the caller and then drops it
      have terminated : Heard k (past ++ [⟨h, c, .serve k⟩])
          { c with caller := c.caller.terminate.1 } := v.of_move _ .terminate rfl (by rintro _ _ ⟨⟩)
      refine v.of_silent _ (terminated.keyed.move .letGo) ?_
      exact (Caller.NothingSaid.terminate _).trans (Caller.NothingSaid.letGo _)
    | nothing reads => exact same rfl
    | delivered waits looping => exact same rfl
    | carried waits looping => exact same rfl
    | asked rest reads accepted => exact same rfl
    | passed rest reads frames => exact same rfl
  | unsent none_there => exact same rfl
  | sent looping found => exact v.of_silent _ (v.keyed.of_same rfl rfl rfl) (.of_same rfl)
  | @turnedAway j i send past_it found caller records told =>
    -- the send is gone when the caller is told how it ended
    have gone : Heard k past { c with
        caller := { c.caller with sends := c.caller.sends.eraseIdx i } } :=
      ⟨v.keyed.of_same rfl rfl rfl, v.source⟩
    refine gone.of_move _ (.sendEnded send.id (.error .closed)) ?_ ?_
    · rw [Caller.move, Caller.act, told]
    · intro id r completes
      cases completes
      rfl
  | @owned m j a hm =>
    refine v.of_move _ a rfl ?_
    cases m <;> simp only [Move.owned?, reduceCtorEq, Option.some.injEq, Prod.mk.injEq] at hm <;>
      obtain ⟨rfl, rfl⟩ := hm <;> rintro _ _ ⟨⟩
  | brought a => exact same rfl
  | linked unwritable => exact same rfl

end Heard

/-! ## The law -/

/-- In every run of a service over any engine: the text frames written to the peer of connection `k`
    are a prefix of the payloads `handed` to its loop, and all of them when the loop has no
    `backlog`. The payloads that were handed over, those that were turned away because the loop had
    ended, and those of `sends` are together the accepted calls of this connection, each once. If
    the result of a ticket is an answer of the viewer (`isAnswer`), then the loop of this connection
    has read a text frame with this answer while the ticket was waiting. -/
theorem texts_carry_own_calls (E : Engine σ) (engine : σ) (mode : Mode) (moves : List Move) (k : Nat)
    (c : Connection) :
    let start := start engine mode
    let n := after E start moves
    let events := history E k start moves
    let handed := events.filterMap Event.handed?
    let turnedAway := events.filterMap Event.turnedAway?
    n.members[k]? = some c →
    c.texts <+: handed.map Payload.bytes ∧
    (c.role.looping → c.backlog n.hub = 0 → c.texts = handed.map Payload.bytes) ∧
    (handed ++ turnedAway ++ c.caller.sends.map (·.payload)).Perm
      ((events.filterMap Event.issued?).map Envelope.payload) ∧
    (c.role.looping → turnedAway = []) ∧
    ∀ (j : Nat) (t : Ticket) (r : Reply), c.caller.tickets[j]? = some t → t.result = some r →
      r.isAnswer → ∃ (before rest : List Move) (d : Connection) (bytes : Bytes)
        (envelope : Envelope), moves = before ++ .serve k :: rest ∧
        (after E start before).members[k]? = some d ∧
        d.textRead? (after E start before).hub = some bytes ∧
        Envelope.read bytes = .ok envelope ∧ envelope.reply? = some (t.id, r) ∧
        ∃ s, d.caller.tickets[j]? = some s ∧ s.id = t.id ∧ s.waiting := by
  intro start n events handed turnedAway found
  have carried : Carried events c := carried_after E engine mode moves found
  have heard : Heard k events c := history_induction engine mode
    (fun h shared => heard_fresh k h shared)
    (fun _ _ _ _ _ _ about change v => v.changed about change) moves found
  refine ⟨carried.texts, fun looping done => ?_, carried.account, carried.welcome, ?_⟩
  · have nothing : c.role.outbound = [] := by
      rw [Connection.backlog, if_pos looping] at done
      exact List.length_eq_zero_iff.mp (by omega)
    have rest := carried.rest looping
    rw [nothing, List.map_nil, List.append_nil] at rest
    exact rest
  · intro j t r ht hr answer
    obtain ⟨e, happened, ⟨serves, bytes, envelope, reads, parsed, replies⟩, waited⟩ :=
      heard.source j t r ht hr answer
    obtain ⟨before, rest, parts, hub, there⟩ := mem_history happened
    rw [serves] at parts
    rw [hub] at reads
    exact ⟨before, rest, e.connection, bytes, envelope, parts, there, reads, parsed, replies, waited⟩

/-- Two connections issue a call each, under the same identity, and a viewer answers one of them. -/
theorem texts_of_two_connections :
    let start := start ({} : Sources) .cooperative
    let moves : List Move := [.accept true, .accept true, .call 0 "load" [] [], .call 1 "save" [] [],
      .send 0 0, .send 1 0, .serve 0, .serve 1,
      .bring 1 (.text (Envelope.response (some ⟨1⟩) .null).write), .serve 1]
    ∃ (c : Connection) (t : Ticket), (after Sources.engine start moves).members[1]? = some c ∧
      c.texts = [(Envelope.call ⟨1⟩ "save" [] []).write] ∧ c.caller.tickets[0]? = some t ∧
      t.result.any (·.isAnswer) ∧
      ∃ (before rest : List Move) (d : Connection), moves = before ++ .serve 1 :: rest ∧
        (after Sources.engine start before).members[1]? = some d ∧
        (d.textRead? (after Sources.engine start before).hub).isSome := by
  intro start moves
  let n := after Sources.engine start moves
  have there : n.members[1]?.isSome := by decide +kernel
  have idle : n.members[1]?.all fun c => c.role.looping && Connection.backlog n.hub c == 0 := by
    decide +kernel
  have told : n.members[1]?.all fun c =>
      (c.caller.tickets[0]?.bind (·.result)).any (·.isAnswer) := by
    decide +kernel
  obtain ⟨c, found⟩ := Option.isSome_iff_exists.mp there
  rw [found, Option.all_some, Bool.and_eq_true, beq_iff_eq] at idle
  rw [found, Option.all_some, Option.any_eq_true] at told
  obtain ⟨r, result, answer⟩ := told
  obtain ⟨t, ht, hr⟩ := Option.bind_eq_some_iff.mp result
  obtain ⟨-, whole, -, -, heard⟩ :=
    texts_carry_own_calls Sources.engine {} .cooperative moves 1 c found
  obtain ⟨before, rest, d, bytes, -, parts, there, reads, -⟩ := heard 0 t r ht hr answer
  refine ⟨c, t, found, (whole idle.1 idle.2).trans ?_, ht, by simp [hr, answer], before, rest, d, parts,
    there, by rw [reads, Option.isSome_some]⟩
  decide +kernel

end SessionHub.Service
