import SessionHub.Proofs.Hub.Silence

set_option autoImplicit false

/-! # From the opening of a session to its closing

A session that was opened with a mailbox is reached by it, under a number of its own, until it is
closed (`Reached`). From then on the number leads nowhere, and no number leads to the mailbox
(`Retired`). The first is ended only by an act that closes the session or strikes its number off,
and the second by none. The one closing of the session that ever comes in is that of the act that
closes it, if the driver runs then. -/

namespace SessionHub.Hub

variable {σ : Type}

/-- Whether an act strikes a number off, and not by way of its session. -/
def Act.strikes (id : SessionId) : Act → Bool
  | move (.strike other) => other = id
  | _ => false

/-- Whether an act neither closes session `k` nor strikes the number `id` off. -/
def Act.spares (k : Nat) (id : SessionId) (a : Act) : Bool :=
  !a.closes k && !a.strikes id

theorem Act.spares_iff {k : Nat} {id : SessionId} {a : Act} :
    a.spares k id ↔ a.closes k = false ∧ a.strikes id = false := by
  simp [spares]

/-- Whether session `k` is open, bears the number `id`, and is reached by mailbox `m`, which no
    other number leads to. -/
structure Reached (k m : Nat) (id : SessionId) (h : Hub σ) : Prop where
  session : h.sessions[k]? = some { id }
  entry : h.directory.callback? id = some (.mailbox m)
  leads : h.Leads k m

/-- Whether session `k`, which bears the number `id`, is closed, and neither this number nor any
    other leads to mailbox `m`. -/
structure Retired (k m : Nat) (id : SessionId) (h : Hub σ) : Prop where
  session : h.sessions[k]? = some { id, closed := true }
  gone : h.Gone id
  absent : h.directory.callback? id = none
  severed : h.Severed m

/-! ## The directory -/

namespace Altered

variable {h h' : Hub σ} {a : Act}

theorem numbered (d : h.Altered a h') (few : h'.directory.enrolments < Directory.numbers)
    (n : h.directory.Numbered) : h'.directory.Numbered := by
  have count := d.enrolments_eq
  cases d with
  | kept sessions directory => exact directory ▸ n
  | closed k s found live sessions directory => exact directory ▸ n.remove s.id
  | struck id sessions directory => exact directory ▸ n.remove id
  | enrolled e sessions directory mailboxes keeps gives =>
    rw [if_pos gives] at count
    exact directory ▸ n.enrol (by omega) _
  | opened callback sessions directory mailboxes place keeps gives =>
    rw [if_pos gives] at count
    exact directory ▸ n.enrol (by omega) callback

/-- Where a number leads that was given stays as it is, unless the number is struck off or a session
    that bears it is closed. Then it leads nowhere. -/
theorem callback?_cases (d : h.Altered a h') (few : h'.directory.enrolments < Directory.numbers)
    {id : SessionId} (given : id.val.toNat ≤ h.directory.enrolments) :
    h'.directory.callback? id = h.directory.callback? id ∨
    h'.directory.callback? id = none ∧ (a.strikes id ∨
      ∃ k s, h.sessions[k]? = some s ∧ s.closed = false ∧ s.id = id ∧ a.closes k) := by
  have count := d.enrolments_eq
  cases d with
  | kept sessions directory => exact .inl (by rw [directory])
  | closed k s found live sessions directory mailboxes closes =>
    rw [directory, Directory.callback?_remove]
    split
    · next same => exact .inr ⟨rfl, .inr ⟨k, s, found, live, same.symm, by simp [closes]⟩⟩
    · exact .inl rfl
  | struck other sessions directory mailboxes keeps gives source =>
    rw [directory, Directory.callback?_remove]
    split
    · next same => exact .inr ⟨rfl, .inl (by simp [source, Act.strikes, same])⟩
    · exact .inl rfl
  | enrolled e sessions directory mailboxes keeps gives =>
    rw [if_pos gives] at count
    exact .inl (by rw [directory, Directory.callback?_enrol_of_given (by omega) _ given])
  | opened callback sessions directory mailboxes place keeps gives =>
    rw [if_pos gives] at count
    exact .inl (by rw [directory, Directory.callback?_enrol_of_given (by omega) _ given])

/-- The number of a session that is spared leads where it did. -/
theorem callback?_of_spared (d : h.Altered a h')
    (few : h'.directory.enrolments < Directory.numbers) (i : h.Issued) {k : Nat} {s : Session}
    (found : h.sessions[k]? = some s) (spared : a.spares k s.id) :
    h'.directory.callback? s.id = h.directory.callback? s.id := by
  obtain ⟨keeps, unstruck⟩ := Act.spares_iff.mp spared
  rcases d.callback?_cases few (i.given k s found) with same
    | ⟨-, struck | ⟨j, t, there, -, same, closes⟩⟩
  · exact same
  · rw [unstruck] at struck
    cases struck
  · rw [i.distinct j k t s there found same, keeps] at closes
    cases closes

end Altered

/-! ## Acts -/

section Acts

variable {h h' : Hub σ} {a : Act} {k m : Nat} {id : SessionId}

theorem Reached.spared (t : h.Reached k m id) (i : h.Issued) (d : h.Altered a h')
    (few : h'.directory.enrolments < Directory.numbers) (spared : a.spares k id) :
    h'.Reached k m id where
  session := by
    rw [d.session_next t.session, (Act.spares_iff.mp spared).1]
    rfl
  entry := (d.callback?_of_spared few i t.session spared).trans t.entry
  leads := d.leads t.leads

theorem Reached.closed (t : h.Reached k m id) (v : h.Sealed) (d : h.Altered a h')
    (few : h'.directory.enrolments < Directory.numbers) (closes : a.closes k) :
    h'.Retired k m id where
  session := by
    rw [d.session_next t.session, closes]
    rfl
  gone := v.gone_of_closed d few t.session closes
  absent := by
    have severed := d.severed_of_closes t.leads closes
    rcases d.callback?_cases few (v.issued.given k _ t.session) with same | ⟨nowhere, -⟩
    · exact absurd (same.trans t.entry) (severed.unreached id)
    · exact nowhere
  severed := d.severed_of_closes t.leads closes

theorem Retired.act (t : h.Retired k m id) (d : h.Altered a h')
    (few : h'.directory.enrolments < Directory.numbers) : h'.Retired k m id where
  session := d.session_next t.session
  gone := d.gone few t.gone
  absent := by
    rcases d.callback?_cases few t.gone.given with same | ⟨nowhere, -⟩
    · exact same.trans t.absent
    · exact nowhere
  severed := d.severed t.severed

/-- Closings come in under numbers that were given. -/
theorem Issued.given_of_accepted (i : h.Issued) (discreet : a.isDiscreet)
    (accepted : .close id ∈ a.accepted h) : id.val.toNat ≤ h.directory.enrolments := by
  cases sent_of_accepted discreet accepted with
  | close k s found live closes => exact i.given k s found

theorem Reached.unaccepted (t : h.Reached k m id) (i : h.Issued) (discreet : a.isDiscreet)
    (spared : a.spares k id) : .close id ∉ a.accepted h := by
  intro accepted
  have keeps := (Act.spares_iff.mp spared).1
  -- this closing is sent by the session that bears the number
  generalize same : Command.close id = c at accepted
  cases sent_of_accepted discreet accepted with
  | close j s found live closes =>
    cases same
    rw [i.distinct j k s _ found t.session rfl, keeps] at closes
    cases closes
  | _ => cases same

theorem Reached.accepted_of_closes (t : h.Reached k m id) (closes : a.closes k) :
    a.accepted h = if h.isRunning then [.close id] else [] := by
  have sent : (h.openSession? k).map (fun s => Command.close s.id) = some (.close id) := by
    rw [openSession?_of_open t.session nofun]
    rfl
  cases a with
  | openWith callback => cases closes
  | move move =>
    show move.accepted h = _
    cases move <;> try cases closes
    case close j | drop j =>
      obtain rfl := of_decide_eq_true closes
      rw [accepted_eq, Move.sends?, sent]
      rfl

/-- When a session is dropped, that is the end of it, and a closing comes in if the driver runs. -/
theorem Reached.dropped (t : h.Reached k m id) (v : h.Sealed) (E : Engine σ)
    (few : h.directory.enrolments < Directory.numbers) :
    (h.act E (.move (.drop k))).Retired k m id ∧
      (Act.move (.drop k)).accepted h = if h.isRunning then [.close id] else [] := by
  have closes : (Act.move (.drop k)).closes k := decide_eq_true rfl
  have d := altered_act E h (a := .move (.drop k)) rfl
  refine ⟨t.closed v d ?_ closes, t.accepted_of_closes closes⟩
  rw [d.enrolments_eq]
  exact few

theorem Retired.unaccepted (t : h.Retired k m id) (discreet : a.isDiscreet) :
    .close id ∉ a.accepted h :=
  fun accepted => (t.gone.ne_of_sent (sent_of_accepted discreet accepted)).2 rfl

end Acts

/-! ## Some acts -/

section Runs

variable (E : Engine σ) {h : Hub σ} {k m : Nat} {id : SessionId} {acts : List Act}

theorem Reached.afterActs (t : h.Reached k m id) (v : h.Sealed)
    (discreet : ∀ a ∈ acts, a.isDiscreet) (spared : ∀ a ∈ acts, a.spares k id)
    (few : h.directory.enrolments + acts.countP Act.enrols < Directory.numbers) :
    (afterActs E h acts).Reached k m id ∧ .close id ∉ acceptedIn E h acts := by
  induction acts generalizing h with
  | nil => exact ⟨t, nofun⟩
  | cons a acts ih =>
    obtain ⟨first, discreet⟩ := List.forall_mem_cons.mp discreet
    obtain ⟨now, spared⟩ := List.forall_mem_cons.mp spared
    have d := altered_act E h first
    have count := d.enrolments_eq
    rw [List.countP_cons] at few
    obtain ⟨later, none_later⟩ := ih (t.spared v.issued d (by omega) now)
      (v.act E first (by omega)) discreet spared (by omega)
    refine ⟨later, fun accepted => ?_⟩
    rw [acceptedIn, Run.seen_cons, List.mem_append] at accepted
    exact accepted.elim (t.unaccepted v.issued first now) none_later

theorem Retired.afterActs (t : h.Retired k m id) (discreet : ∀ a ∈ acts, a.isDiscreet)
    (few : h.directory.enrolments + acts.countP Act.enrols < Directory.numbers) :
    (afterActs E h acts).Retired k m id ∧ .close id ∉ acceptedIn E h acts := by
  induction acts generalizing h with
  | nil => exact ⟨t, nofun⟩
  | cons a acts ih =>
    obtain ⟨first, discreet⟩ := List.forall_mem_cons.mp discreet
    have d := altered_act E h first
    have count := d.enrolments_eq
    rw [List.countP_cons] at few
    obtain ⟨later, none_later⟩ := ih (t.act d (by omega)) discreet (by omega)
    refine ⟨later, fun accepted => ?_⟩
    rw [acceptedIn, Run.seen_cons, List.mem_append] at accepted
    exact accepted.elim (t.unaccepted first) none_later

theorem Sealed.given_of_accepted (v : h.Sealed) (discreet : ∀ a ∈ acts, a.isDiscreet)
    (few : h.directory.enrolments + acts.countP Act.enrols < Directory.numbers)
    (accepted : .close id ∈ acceptedIn E h acts) :
    id.val.toNat ≤ h.directory.enrolments + acts.countP Act.enrols := by
  induction acts generalizing h with
  | nil => cases accepted
  | cons a acts ih =>
    obtain ⟨first, discreet⟩ := List.forall_mem_cons.mp discreet
    have count := (altered_act E h first).enrolments_eq
    rw [List.countP_cons] at few ⊢
    rw [acceptedIn, Run.seen_cons, List.mem_append] at accepted
    rcases accepted with now | later
    · exact Nat.le_add_right_of_le (v.issued.given_of_accepted first now)
    · have given := ih (v.act E first (by omega)) discreet (by omega) later
      omega

theorem numbered_afterActs (n : h.directory.Numbered) (discreet : ∀ a ∈ acts, a.isDiscreet)
    (few : h.directory.enrolments + acts.countP Act.enrols < Directory.numbers) :
    (afterActs E h acts).directory.Numbered :=
  afterActs_induction (motive := fun h => h.directory.Numbered) E
    (fun h _ discreet few n => (altered_act E h discreet).numbered few n) n acts discreet few

end Runs

/-! ## Openings -/

theorem Sealed.reached_openMailbox {h : Hub σ} (v : h.Sealed) :
    h.openMailbox.1.Reached h.sessions.size h.mailboxes.size h.directory.nextId where
  session := Array.getElem?_push_size
  entry := by
    show (h.directory.enrol (.mailbox h.mailboxes.size)).callback? h.directory.nextId = _
    rw [Directory.callback?_enrol, if_pos rfl]
  leads := v.leads_openMailbox

/-! ## Mailboxes that are cut off -/

theorem Reached.isCutOff {h : Hub σ} {k m : Nat} {id : SessionId} (t : h.Reached k m id) :
    h.isCutOff m = false := by
  rw [← Bool.not_eq_true, isCutOff_iff]
  rintro ⟨unreached, -⟩
  exact unreached _ (Directory.mem_of_callback? t.entry) rfl

/-- Whether the next read of mailbox `m` does not wait: there is something to read, or nothing will
    come any more. -/
def isReadable (h : Hub σ) (m : Nat) : Prop :=
  h.unread m ≠ [] ∨ h.isCutOff m

/-- A mailbox that no number leads to is cut off once nothing is in flight to it. -/
theorem Severed.isCutOff_iff {h : Hub σ} {m : Nat} (v : h.Severed m) (n : h.directory.Numbered) :
    h.isCutOff m ↔ h.inFlightTo m = [] := by
  refine Hub.isCutOff_iff.trans (and_iff_right ?_)
  rintro ⟨id, callback⟩ listed same
  cases same
  exact v.unreached id (n.callback?_of_mem listed)

end SessionHub.Hub
