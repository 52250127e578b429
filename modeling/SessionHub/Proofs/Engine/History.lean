import SessionHub.Engine.Sources
import SessionHub.Proofs.Run

set_option autoImplicit false

/-! # What the engine of named sources owes to its history

What `Sources.engine` answers can be said without its queue. An `Account` only records what calls
were made: which contents were hosted, which answer each request was given, and which requests were
returned by a poll or closed with their session. The answers that a poll may still return are those
of `Account.remaining`.

After every sequence of calls (`Run.after use`) the engine `Agrees` with the account of it: one call
keeps this (`Agrees.use`), and so a run does (`agrees_after`). -/

namespace SessionHub.Sources

/-- A call of the engine. -/
inductive Use where
  | host (name : String) (contents : Bytes)
  | request (session : SessionId) (bytes : Bytes)
  | poll
  | close (session : SessionId)
  deriving DecidableEq, Repr

/-- The engine after a call. -/
def use (s : Sources) : Use → Sources
  | .host name contents => s.host name contents
  | .request session bytes => (s.request session bytes).state
  | .poll => s.poll.state
  | .close session => (s.close session).state

/-- What a call returns if it is a poll. -/
def Use.given (s : Sources) : Use → List Response
  | .poll => s.poll.result.getD []
  | _ => []

/-- What the polls among some calls of a new engine return, in order. -/
def given (uses : List Use) : List Response :=
  Run.seen use Use.given {} uses

/-! ## The account of a history -/

/-- What is on record of the calls of an engine. Requests are counted from `0`. -/
structure Account where
  /-- The names and contents of the sources hosted, in order. -/
  hostings : List (String × Bytes) := []
  /-- The answers to the requests, in order. -/
  answers : List Response := []
  /-- The requests that were followed by a `close` of their session. -/
  shut : List Nat := []
  /-- The requests whose answers were returned, in order. -/
  returned : List Nat := []
  /-- The requests whose answers waited for a poll when their session was closed. -/
  discarded : List Nat := []

namespace Account

/-- The contents of the source of some name: what was hosted under it last. -/
def contents? (a : Account) (name : String) : Option Bytes :=
  a.hostings.reverse.lookup name

/-- What a request is answered with: the contents of the source that it names, blanks at its ends
    aside, or else the request itself. -/
def answerTo (a : Account) (bytes : Bytes) : Bytes :=
  (bytes.text?.bind fun text => a.contents? (Text.trim text)).getD bytes

/-- Whether request `i` is one of `session`. -/
def asks (a : Account) (session : SessionId) (i : Nat) : Bool :=
  a.answers[i]?.any (·.session = session)

/-- The requests whose answers were not returned and whose session was not closed after them. -/
def remaining (a : Account) : List Nat :=
  (List.range a.answers.length).filter fun i => i ∉ a.returned ∧ i ∉ a.shut

/-- The account after one more call. A poll returns the oldest answers that remain. -/
def note (a : Account) : Use → Account
  | .host name contents => { a with hostings := a.hostings ++ [(name, contents)] }
  | .request session bytes => { a with answers := a.answers ++ [⟨session, a.answerTo bytes⟩] }
  | .poll => { a with returned := a.returned ++ a.remaining.take batch }
  | .close session =>
    { a with
      shut := a.shut ++ (List.range a.answers.length).filter (a.asks session)
      discarded := a.discarded ++ a.remaining.filter (a.asks session) }

end Account

/-- The account of some calls of a new engine. -/
def account (uses : List Use) : Account :=
  Run.after Account.note {} uses

namespace Account

variable {a : Account} {i : Nat}

theorem mem_remaining :
    i ∈ a.remaining ↔ i < a.answers.length ∧ i ∉ a.returned ∧ i ∉ a.shut := by
  rw [remaining, List.mem_filter, List.mem_range, decide_eq_true_eq]

theorem lt_of_mem_remaining (there : i ∈ a.remaining) : i < a.answers.length :=
  (mem_remaining.mp there).1

theorem remaining_sorted (a : Account) : a.remaining.Pairwise (· < ·) :=
  List.pairwise_lt_range.filter _

/-- The answer to a new request remains, behind the others. -/
theorem remaining_request (returned : ∀ i ∈ a.returned, i < a.answers.length)
    (shut : ∀ i ∈ a.shut, i < a.answers.length) (session : SessionId) (bytes : Bytes) :
    (a.note (.request session bytes)).remaining = a.remaining ++ [a.answers.length] := by
  conv => rhs; rw [remaining]
  rw [remaining, note, List.length_append, List.length_singleton, List.range_succ,
    List.filter_append]
  congr 1
  refine List.filter_eq_self.mpr fun i new => ?_
  obtain rfl := List.mem_singleton.mp new
  rw [decide_eq_true_eq]
  exact ⟨fun there => Nat.lt_irrefl _ (returned _ there),
    fun there => Nat.lt_irrefl _ (shut _ there)⟩

/-- The front of a list of different elements is what is taken from it. -/
theorem filter_not_mem_take {l : List Nat} (sorted : l.Pairwise (· < ·)) (n : Nat) :
    l.filter (· ∉ l.take n) = l.drop n := by
  have nodup : (l.take n ++ l.drop n).Nodup := by
    rw [List.take_append_drop]
    exact sorted.imp Nat.ne_of_lt
  obtain ⟨-, -, apart⟩ := List.nodup_append.mp nodup
  conv => lhs; arg 2; rw [← List.take_append_drop n l]
  rw [List.filter_append, List.filter_eq_nil_iff.mpr, List.filter_eq_self.mpr, List.nil_append]
  · intro i behind
    exact decide_eq_true fun front => apart i front i behind rfl
  · intro i front
    simpa using front

/-- A poll takes the oldest. -/
theorem remaining_poll (a : Account) : (a.note .poll).remaining = a.remaining.drop batch := by
  rw [← filter_not_mem_take a.remaining_sorted]
  conv => rhs; arg 2; rw [remaining]
  rw [List.filter_filter]
  refine List.filter_congr fun i _ => ?_
  simp only [note, List.mem_append]
  grind

/-- Closing a session takes its own. -/
theorem remaining_close (a : Account) (session : SessionId) :
    (a.note (.close session)).remaining = a.remaining.filter fun i => ¬ a.asks session i := by
  conv => rhs; rw [remaining]
  rw [List.filter_filter]
  refine List.filter_congr fun i inside => ?_
  have inside : i ∈ List.range a.answers.length := inside
  simp only [note, List.mem_append, List.mem_filter, inside, true_and]
  grind

end Account

/-! ## Agreement -/

/-- Whether an engine agrees with the account `a` of its calls, of which the polls returned
    `given`. -/
structure Agrees (s : Sources) (a : Account) (given : List Response) : Prop where
  hosted : ∀ name, s.hosted.lookup name = a.contents? name
  /-- The queue holds the answers that remain. -/
  queued : s.queued.map some = a.remaining.map (a.answers[·]?)
  given : given.map some = a.returned.map (a.answers[·]?)
  /-- Requests are returned in order, before those that remain. -/
  sorted : (a.returned ++ a.remaining).Pairwise (· < ·)
  /-- Each request is accounted for once. -/
  accounted : (a.returned ++ a.discarded ++ a.remaining).Perm (List.range a.answers.length)
  shut : ∀ i ∈ a.shut, i < a.answers.length

theorem lookup_filter_ne {hosted : List (String × Bytes)} {name other : String}
    (differ : other ≠ name) :
    (hosted.filter (·.1 ≠ other)).lookup name = hosted.lookup name := by
  induction hosted with
  | nil => rfl
  | cons entry hosted ih =>
    by_cases here : entry.1 = other
    · rw [List.filter_cons_of_neg (by simpa using here), ih, List.lookup_cons]
      have apart : (name == entry.1) = false := by simpa [here] using differ.symm
      rw [apart]
    · rw [List.filter_cons_of_pos (by simpa using here), List.lookup_cons, List.lookup_cons, ih]

namespace Agrees

variable {s : Sources} {a : Account} {given : List Response}

theorem answer_eq (g : Agrees s a given) (bytes : Bytes) : s.answer bytes = a.answerTo bytes := by
  simp only [answer, lookup?, Account.answerTo, g.hosted]

theorem lt_of_mem_returned (g : Agrees s a given) : ∀ i ∈ a.returned, i < a.answers.length :=
  fun _ there => List.mem_range.mp <|
    g.accounted.mem_iff.mp (List.mem_append_left _ (List.mem_append_left _ there))

theorem host (g : Agrees s a given) (name : String) (contents : Bytes) :
    Agrees (s.host name contents) (a.note (.host name contents)) given where
  hosted other := by
    rw [Sources.host, Account.note, Account.contents?, List.reverse_append, List.reverse_singleton,
      List.singleton_append, List.lookup_cons, List.lookup_cons]
    by_cases same : other = name
    · rw [same, beq_self_eq_true]
    · rw [beq_false_of_ne same, lookup_filter_ne (Ne.symm same), g.hosted, Account.contents?]
  queued := g.queued
  given := g.given
  sorted := g.sorted
  accounted := g.accounted
  shut := g.shut

theorem request (g : Agrees s a given) (session : SessionId) (bytes : Bytes) :
    Agrees (s.request session bytes).state (a.note (.request session bytes)) given := by
  have remaining := Account.remaining_request g.lt_of_mem_returned g.shut session bytes
  -- earlier requests keep their answers
  have kept : ∀ l : List Nat, (∀ i ∈ l, i < a.answers.length) →
      l.map ((a.note (.request session bytes)).answers[·]?) = l.map (a.answers[·]?) :=
    fun l inside => List.map_congr_left fun i there => List.getElem?_append_left (inside i there)
  have length : (a.note (.request session bytes)).answers.length = a.answers.length + 1 :=
    List.length_append
  refine ⟨g.hosted, ?_, ?_, ?_, ?_, fun i there => ?_⟩
  · rw [remaining, List.map_append, kept _ fun i => Account.lt_of_mem_remaining, ← g.queued,
      Sources.request, List.map_append, g.answer_eq]
    congr 1
    rw [List.map_singleton, List.map_singleton, Account.note, List.getElem?_concat_length]
  · exact g.given.trans (kept _ g.lt_of_mem_returned).symm
  · rw [remaining, ← List.append_assoc, List.pairwise_append]
    refine ⟨g.sorted, List.pairwise_singleton .., fun i old j new => ?_⟩
    rw [List.mem_singleton.mp new]
    exact (List.mem_append.mp old).elim (g.lt_of_mem_returned i) Account.lt_of_mem_remaining
  · rw [remaining, ← List.append_assoc, length, List.range_succ]
    exact g.accounted.append_right _
  · exact length ▸ Nat.lt_succ_of_lt (g.shut i there)

theorem poll (g : Agrees s a given) :
    Agrees s.poll.state (a.note .poll) (given ++ s.poll.result.getD []) := by
  refine ⟨g.hosted, ?_, ?_, ?_, ?_, g.shut⟩
  · rw [Account.remaining_poll, List.map_drop]
    exact (List.map_drop ..).trans (congrArg _ g.queued)
  · rw [Account.note, List.map_append, List.map_append, g.given, List.map_take, ← g.queued,
      ← List.map_take]
    rfl
  · rw [Account.remaining_poll, Account.note, List.append_assoc, List.take_append_drop]
    exact g.sorted
  · refine .trans ?_ g.accounted
    rw [Account.remaining_poll, Account.note]
    conv => rhs; rw [← List.take_append_drop batch a.remaining]
    simp only [List.append_assoc]
    refine .append_left _ ?_
    rw [← List.append_assoc, ← List.append_assoc]
    exact List.perm_append_comm.append_right _

theorem close (g : Agrees s a given) (session : SessionId) :
    Agrees (s.close session).state (a.note (.close session)) given := by
  refine ⟨g.hosted, ?_, g.given, ?_, ?_, fun i there => ?_⟩
  · rw [Account.remaining_close]
    calc ((s.queued.filter (·.session ≠ session)).map some)
        = (s.queued.map some).filter (fun r => ¬ r.any (·.session = session)) := by
          rw [List.filter_map]
          congr 2
          funext r
          simp
      _ = (a.remaining.filter fun i => ¬ a.asks session i).map (a.answers[·]?) := by
          rw [g.queued, List.filter_map]
          rfl
  · rw [Account.remaining_close]
    exact g.sorted.sublist (List.filter_sublist.append_left _)
  · refine .trans ?_ g.accounted
    rw [Account.remaining_close, Account.note]
    simp only [List.append_assoc]
    refine .append_left _ (.append_left _ ?_)
    simpa using List.filter_append_perm (a.asks session) a.remaining
  · refine (List.mem_append.mp there).elim (g.shut i) fun new => ?_
    exact List.mem_range.mp (List.mem_filter.mp new).1

/-- One call keeps engine and account in agreement. -/
theorem use (g : Agrees s a given) (u : Use) :
    Agrees (s.use u) (a.note u) (given ++ u.given s) := by
  cases u with
  | host name contents => exact (List.append_nil given).symm ▸ g.host name contents
  | request session bytes => exact (List.append_nil given).symm ▸ g.request session bytes
  | poll => exact g.poll
  | close session => exact (List.append_nil given).symm ▸ g.close session

end Agrees

/-- Two sessions ask, the first of them is closed, and a poll returns the answer to the other. -/
example :
    let a := account [.request ⟨1⟩ [120], .request ⟨2⟩ [121], .close ⟨1⟩, .poll]
    a.returned = [1] ∧ a.discarded = [0] ∧ a.remaining = [] := by
  decide +kernel

end SessionHub.Sources
