import SessionHub.Proofs.Directory.History

set_option autoImplicit false

/-! # Which numbers are given

A directory is used through handles, and a handle can be doubled: both then lead to the same
directory. The `k`-th callback that is enrolled, through whichever handle, gets the number `k`
modulo `2 ^ 32`, whatever else is done in between (`numbers_given_in_turn`). Here runs may be of any
length, so that a number may be given twice; what is kept up is that every entry has a number that
was given (`Drawn`). -/

namespace SessionHub

/-! ## The counter -/

namespace Directory

variable {κ : Type}

/-- The number that the `k`-th enrolment gives. -/
def numberOf (k : Nat) : SessionId :=
  ⟨k.toUInt32⟩

@[simp] theorem toNat_numberOf (k : Nat) : (numberOf k).val.toNat = k % UInt32.size := by
  simp [numberOf]

/-- The counter comes round after `2 ^ 32` numbers. -/
theorem numberOf_eq_iff (j k : Nat) :
    numberOf j = numberOf k ↔ (UInt32.size : Int) ∣ (j : Int) - k := by
  have same : numberOf j = numberOf k ↔ j % UInt32.size = k % UInt32.size := by
    rw [← toNat_numberOf, ← toNat_numberOf, UInt32.toNat_inj, numberOf, numberOf,
      SessionId.mk.injEq]
  rw [same, UInt32.size]
  omega

/-- An entry after `enrol` was there before, or is the new one. -/
theorem mem_of_mem_enrol {d : Directory κ} {callback : κ} {e : SessionId × κ}
    (he : e ∈ (d.enrol callback).entries) : e = (d.nextId, callback) ∨ e ∈ d.entries := by
  rw [enrol, List.mem_cons] at he
  refine he.imp_right fun old => ?_
  split at old
  · exact old
  · exact (List.mem_filter.mp old).1

/-- Whether every entry has a number that was given. -/
def Drawn (d : Directory κ) : Prop :=
  ∀ e ∈ d.entries, ∃ k, 1 ≤ k ∧ k ≤ d.enrolments ∧ e.1 = numberOf k

namespace Drawn

variable {d : Directory κ}

theorem start : ({} : Directory κ).Drawn :=
  nofun

theorem enrol (drawn : d.Drawn) (callback : κ) : (d.enrol callback).Drawn := by
  intro e he
  rcases mem_of_mem_enrol he with rfl | old
  · exact ⟨d.enrolments + 1, Nat.le_add_left .., Nat.le_refl _, rfl⟩
  · obtain ⟨k, positive, given, number⟩ := drawn e old
    exact ⟨k, positive, Nat.le_succ_of_le given, number⟩

theorem remove (drawn : d.Drawn) (id : SessionId) : (d.remove id).Drawn :=
  fun e he => drawn e (List.mem_filter.mp he).1

/-- A number that is listed was given. -/
theorem given (drawn : d.Drawn) {id : SessionId} (listed : d.contains id) :
    ∃ k, 1 ≤ k ∧ k ≤ d.enrolments ∧ id = numberOf k := by
  obtain ⟨callback, found⟩ := Option.isSome_iff_exists.mp listed
  exact drawn _ (mem_of_callback? found)

/-- Until the counter comes round, `nextId` is not listed. -/
theorem callback?_nextId (drawn : d.Drawn) (few : d.enrolments < UInt32.size) :
    d.callback? d.nextId = none := by
  refine Option.not_isSome_iff_eq_none.mp fun taken => ?_
  obtain ⟨k, positive, given, number⟩ := drawn.given taken
  have round := (numberOf_eq_iff (d.enrolments + 1) k).mp number
  unfold UInt32.size at few round
  omega

end Drawn

end Directory

/-! ## One operation -/

namespace Switchboard

variable {κ ω : Type} (react : κ → Bytes → ω → ω × Except DeliveryError Unit)

/-- The number that an operation gives. -/
def Operation.given (s : Switchboard κ ω) : Operation κ ω → List SessionId
  | enrol r => [(s.enrol r).2]
  | _ => []

/-- The numbers that an operation gives are those that the counter goes on by. -/
theorem given_eq (s : Switchboard κ ω) (o : Operation κ ω) :
    ∃ n, o.given s = (List.range' (s.directory.enrolments + 1) n).map Directory.numberOf ∧
      (s.operate react o).directory.enrolments = s.directory.enrolments + n := by
  refine ⟨if o.enrols then 1 else 0, ?_, enrolments_operate react s o⟩
  cases o <;> rfl

theorem drawn_operate {s : Switchboard κ ω} (drawn : s.directory.Drawn) (o : Operation κ ω) :
    (s.operate react o).directory.Drawn := by
  rw [directory_operate]
  cases o with
  | enrol r => exact drawn.enrol _
  | strike id => exact drawn.remove id
  | _ => exact drawn

/-- `enrol` lists the callback under `nextId` and leaves the other entries alone. -/
theorem callback?_of_given {s : Switchboard κ ω} {o : Operation κ ω} {id : SessionId}
    (new : id ∈ o.given s) : id = s.directory.nextId ∧ ∃ r, o = .enrol r ∧ ∀ other,
      (s.operate react o).directory.callback? other =
        if other = id then some ⟨id, r⟩ else s.directory.callback? other := by
  cases o with
  | enrol r =>
    obtain rfl : id = s.directory.nextId := List.mem_singleton.mp new
    exact ⟨rfl, r, rfl, Directory.callback?_enrol _ _⟩
  | _ => cases new

theorem contains_of_struck {s : Switchboard κ ω} {o : Operation κ ω} {id : SessionId}
    (gone : id ∈ o.struck s) : s.directory.contains id := by
  cases o with
  | strike other =>
    by_cases there : s.directory.contains other
    · rw [Operation.struck, strike, if_pos there] at gone
      exact List.mem_singleton.mp gone ▸ there
    · rw [Operation.struck, strike, if_neg there] at gone
      cases gone
  | _ => cases gone

end Switchboard

/-! ## Handles -/

/-- Switchboards, and the handles that they are used by. -/
structure SwitchRoom (κ ω : Type) where
  boards : List (Switchboard κ ω) := []
  /-- Which board each handle leads to. -/
  handles : List Nat := []

namespace SwitchRoom

variable {κ ω : Type}

/-- What can be done through handles. A handle that was dropped is one that is not used again. -/
inductive Move (κ ω : Type) where
  /-- There is a new board, with one handle. -/
  | found (world : ω)
  /-- There is another handle to where handle `h` leads. -/
  | clone (h : Nat)
  /-- Handle `h` is used for an operation. -/
  | use (h : Nat) (o : Switchboard.Operation κ ω)

variable (react : κ → Bytes → ω → ω × Except DeliveryError Unit)

/-- The room after a move. -/
def step (x : SwitchRoom κ ω) : Move κ ω → SwitchRoom κ ω
  | .found world =>
    { boards := x.boards ++ [{ world }], handles := x.handles ++ [x.boards.length] }
  | .clone h => { x with handles := x.handles ++ x.handles[h]?.toList }
  | .use h o =>
    match x.handles[h]? with
    | none => x
    | some b => { x with boards := x.boards.modify b (·.operate react o) }

/-- The room after some moves. -/
def after (x : SwitchRoom κ ω) (moves : List (Move κ ω)) : SwitchRoom κ ω :=
  Run.after (step react) x moves

/-- What the operations on board `b` give. -/
def watch {α : Type} (look : Switchboard κ ω → Switchboard.Operation κ ω → List α) (b : Nat)
    (x : SwitchRoom κ ω) : Move κ ω → List α
  | .use h o => if x.handles[h]? = some b then x.boards[b]?.toList.flatMap (look · o) else []
  | _ => []

/-- The number that board `b` gives in a move. -/
def given (b : Nat) : SwitchRoom κ ω → Move κ ω → List SessionId :=
  watch Switchboard.Operation.given b

/-- The number that is struck off board `b` in a move, if it was there. -/
def struck (b : Nat) : SwitchRoom κ ω → Move κ ω → List SessionId :=
  watch Switchboard.Operation.struck b

/-- The numbers that board `b` gives, in order. -/
def numbersGiven (b : Nat) (x : SwitchRoom κ ω) (moves : List (Move κ ω)) : List SessionId :=
  Run.seen (step react) (given b) x moves

/-- The callback that a number leads to on board `b`. -/
def reached? (x : SwitchRoom κ ω) (b : Nat) (id : SessionId) : Option (Subscriber κ) :=
  x.boards[b]?.bind (·.directory.callback? id)

/-- How many were ever enrolled on board `b`. -/
def enrolled (x : SwitchRoom κ ω) (b : Nat) : Nat :=
  x.boards[b]?.elim 0 (·.directory.enrolments)

/-! ## One move -/

/-- What a move takes board `b` to, and what is seen of it there. -/
inductive Touched (x : SwitchRoom κ ω) (b : Nat) (m : Move κ ω) (x' : SwitchRoom κ ω) : Prop where
  | founded (world : ω) (before : x.boards[b]? = none) (after : x'.boards[b]? = some { world })
    (unseen : ∀ {α : Type} (look : _ → _ → List α), watch look b x m = [])
  | kept (same : x'.boards[b]? = x.boards[b]?)
    (unseen : ∀ {α : Type} (look : _ → _ → List α), watch look b x m = [])
  | used (h : Nat) (o : Switchboard.Operation κ ω) (source : m = .use h o) (s : Switchboard κ ω)
    (before : x.boards[b]? = some s) (after : x'.boards[b]? = some (s.operate react o))
    (seen : ∀ {α : Type} (look : _ → _ → List α), watch look b x m = look s o)

theorem touched_step (x : SwitchRoom κ ω) (b : Nat) (m : Move κ ω) :
    Touched react x b m (x.step react m) := by
  cases m with
  | found world =>
    by_cases new : b = x.boards.length
    · subst new
      exact .founded world (by simp) (by simp [step]) fun _ => rfl
    · refine .kept ?_ fun _ => rfl
      simp only [step, List.getElem?_append]
      split
      · rfl
      · rw [List.getElem?_eq_none (by simp; omega), List.getElem?_eq_none (by omega)]
  | clone h => exact .kept rfl fun _ => rfl
  | use h o =>
    cases leads : x.handles[h]? with
    | none =>
      refine .kept (by simp only [step, leads]) fun look => ?_
      simp [watch, leads]
    | some c =>
      by_cases here : c = b
      · subst here
        cases there : x.boards[c]? with
        | none =>
          refine .kept ?_ fun look => ?_
          · simp [step, leads, there]
          · simp [watch, leads, there]
        | some s =>
          refine .used h o rfl s there ?_ fun look => ?_
          · simp [step, leads, there]
          · simp [watch, leads, there]
      · refine .kept ?_ fun look => ?_
        · simp [step, leads, here]
        · simp [watch, leads, here]

/-- The numbers that a board gives in a move are those that its counter goes on by. -/
theorem given_step (x : SwitchRoom κ ω) (b : Nat) (m : Move κ ω) :
    ∃ n, x.given b m = (List.range' (x.enrolled b + 1) n).map Directory.numberOf ∧
      (x.step react m).enrolled b = x.enrolled b + n := by
  cases touched_step react x b m with
  | founded world before after unseen =>
    refine ⟨0, unseen _, ?_⟩
    rw [enrolled, enrolled, before, after]
    rfl
  | kept same unseen =>
    refine ⟨0, unseen _, ?_⟩
    rw [enrolled, enrolled, same]
    rfl
  | used h o source s before after seen =>
    obtain ⟨n, numbers, counted⟩ := Switchboard.given_eq react s o
    refine ⟨n, ?_, ?_⟩
    · rw [given, seen, enrolled, before]
      exact numbers
    · rw [enrolled, enrolled, before, after]
      exact counted

/-- Whether the entries of all boards have numbers that were given. -/
def Drawn (x : SwitchRoom κ ω) : Prop :=
  ∀ (b : Nat) (s : Switchboard κ ω), x.boards[b]? = some s → s.directory.Drawn

theorem drawn_step {x : SwitchRoom κ ω} (drawn : x.Drawn) (m : Move κ ω) :
    (x.step react m).Drawn := by
  intro b s' found
  cases touched_step react x b m with
  | founded world before after _ =>
    cases after.symm.trans found
    exact .start
  | kept same _ => exact drawn b s' (same.symm.trans found)
  | used h o _ s before after _ =>
    cases after.symm.trans found
    exact Switchboard.drawn_operate react (drawn b s before) o

/-- Whether all handles lead somewhere. -/
def Connected (x : SwitchRoom κ ω) : Prop :=
  ∀ b ∈ x.handles, b < x.boards.length

theorem connected_step {x : SwitchRoom κ ω} (connected : x.Connected) (m : Move κ ω) :
    (x.step react m).Connected := by
  intro b hb
  cases m with
  | found world =>
    have length : (x.step react (.found world)).boards.length = x.boards.length + 1 := by
      simp [step]
    rw [length]
    rcases List.mem_append.mp hb with old | new
    · exact Nat.lt_succ_of_lt (connected b old)
    · exact Nat.lt_succ_of_le (Nat.le_of_eq (List.mem_singleton.mp new))
  | clone h =>
    rcases List.mem_append.mp hb with old | new
    · exact connected b old
    · exact connected b (List.mem_of_getElem? (Option.mem_toList.mp new))
  | use h o =>
    cases leads : x.handles[h]? with
    | none =>
      simp only [step, leads] at hb ⊢
      exact connected b hb
    | some c =>
      simp only [step, leads, List.length_modify] at hb ⊢
      exact connected b hb

/-- Enrolling through a handle returns a number. -/
theorem exists_given_of_enrol {x : SwitchRoom κ ω} (connected : x.Connected) {h b : Nat}
    (leads : x.handles[h]? = some b) (r : Recipient κ) :
    ∃ id, x.given b (.use h (.enrol r)) = [id] := by
  have there := connected b (List.mem_of_getElem? leads)
  refine ⟨x.boards[b].directory.nextId, ?_⟩
  rw [given, watch, if_pos leads, List.getElem?_eq_getElem there]
  rfl

/-- What is seen on a board is seen in an operation on it. -/
theorem used_of_seen {x : SwitchRoom κ ω} {b : Nat} {m : Move κ ω} {α : Type}
    {look : Switchboard κ ω → Switchboard.Operation κ ω → List α} {v : α}
    (seen : v ∈ watch look b x m) :
    ∃ h o s, m = .use h o ∧ x.boards[b]? = some s ∧
      (x.step react m).boards[b]? = some (s.operate react o) ∧ v ∈ look s o := by
  cases touched_step react x b m with
  | founded _ _ _ unseen | kept _ unseen => exact absurd (unseen look ▸ seen) List.not_mem_nil
  | used h o source s before after same => exact ⟨h, o, s, source, before, after, same look ▸ seen⟩

/-- A number that is given leads to its callback, and all others lead where they led before. -/
theorem reached?_of_given {x : SwitchRoom κ ω} {b : Nat} {m : Move κ ω} {id : SessionId}
    (new : id ∈ x.given b m) : ∃ h r, m = .use h (.enrol r) ∧ ∀ other,
      (x.step react m).reached? b other =
        if other = id then some ⟨id, r⟩ else x.reached? b other := by
  obtain ⟨h, o, s, rfl, before, after, new⟩ := used_of_seen react new
  obtain ⟨-, r, rfl, found⟩ := Switchboard.callback?_of_given react new
  refine ⟨h, r, rfl, fun other => ?_⟩
  rw [reached?, reached?, before, after]
  exact found other

/-! ## Runs -/

/-- The numbers that a board gives in a run are those that its counter goes on by. -/
theorem numbersGiven_eq (x : SwitchRoom κ ω) (b : Nat) (moves : List (Move κ ω)) :
    ∃ n, numbersGiven react b x moves =
        (List.range' (x.enrolled b + 1) n).map Directory.numberOf ∧
      (after react x moves).enrolled b = x.enrolled b + n := by
  refine Run.after_induction (step react) (motive := fun moves y => ∃ n,
    numbersGiven react b x moves = (List.range' (x.enrolled b + 1) n).map Directory.numberOf ∧
      y.enrolled b = x.enrolled b + n) x ⟨0, rfl, rfl⟩ ?_ moves
  intro moves m ⟨n, numbers, counted⟩
  obtain ⟨more, new, further⟩ := given_step react (after react x moves) b m
  have counted : (after react x moves).enrolled b = x.enrolled b + n := counted
  rw [counted] at new further
  refine ⟨n + more, ?_, further.trans (Nat.add_assoc ..)⟩
  rw [numbersGiven, Run.seen_concat, ← numbersGiven, ← after, numbers, new, ← List.map_append,
    Nat.add_right_comm, List.range'_append_1]

theorem drawn_after (moves : List (Move κ ω)) : (after react {} moves).Drawn :=
  Run.after_induction (step react) (motive := fun _ x => x.Drawn) {} nofun
    (fun _ m drawn => drawn_step react drawn m) moves

theorem connected_after (moves : List (Move κ ω)) : (after react {} moves).Connected :=
  Run.after_induction (step react) (motive := fun _ x => x.Connected) {} nofun
    (fun _ m connected => connected_step react connected m) moves

/-- A board counts the numbers that it gives, from one. -/
theorem numbersGiven_of_start (b : Nat) (moves : List (Move κ ω)) :
    let given := numbersGiven react b {} moves
    (after react {} moves).enrolled b = given.length ∧
      given = (List.range' 1 given.length).map Directory.numberOf := by
  intro given
  obtain ⟨n, numbers, counted⟩ := numbersGiven_eq react {} b moves
  have none : ({} : SwitchRoom κ ω).enrolled b = 0 := by simp [enrolled]
  rw [none, Nat.zero_add] at numbers counted
  have length : given.length = n := by simp [given, numbers]
  exact ⟨counted.trans length.symm, numbers.trans (by rw [length])⟩

/-- A number that is struck off was given. -/
theorem given_of_struck (moves : List (Move κ ω)) {b : Nat} {m : Move κ ω} {id : SessionId}
    (gone : id ∈ (after react {} moves).struck b m) : id ∈ numbersGiven react b {} moves := by
  obtain ⟨h, o, s, rfl, before, -, gone⟩ := used_of_seen react gone
  obtain ⟨k, positive, given, rfl⟩ :=
    (drawn_after react moves b s before).given (Switchboard.contains_of_struck gone)
  obtain ⟨counted, numbers⟩ := numbersGiven_of_start react b moves
  rw [enrolled, before] at counted
  have counted : s.directory.enrolments = _ := counted
  rw [counted] at given
  rw [numbers]
  exact List.mem_map_of_mem (List.mem_range'_1.mpr ⟨positive, by omega⟩)

/-- Until the counter comes round, a number that is given was not listed. -/
theorem reached?_eq_none_of_given (moves : List (Move κ ω)) {b : Nat} {m : Move κ ω}
    {id : SessionId} (new : id ∈ (after react {} moves).given b m)
    (few : (numbersGiven react b {} moves).length < UInt32.size) :
    (after react {} moves).reached? b id = none := by
  obtain ⟨h, o, s, rfl, before, -, new⟩ := used_of_seen react new
  obtain ⟨rfl, -⟩ := Switchboard.callback?_of_given react new
  rw [← (numbersGiven_of_start react b moves).1, enrolled, before] at few
  rw [reached?, before]
  exact (drawn_after react moves b s before).callback?_nextId few

/-- The `k`-th number that a board gives, counted from zero. -/
theorem getElem_numbersGiven (b : Nat) (moves : List (Move κ ω)) {k : Nat}
    (hk : k < (numbersGiven react b {} moves).length) :
    (numbersGiven react b {} moves)[k] = Directory.numberOf (k + 1) := by
  refine (List.getElem_eq_iff hk).mpr ?_
  rw [(numbersGiven_of_start react b moves).2, List.getElem?_map, List.getElem?_range' hk,
    Nat.one_mul, Nat.add_comm, Option.map_some]

theorem numbersGiven_append (x : SwitchRoom κ ω) (b : Nat) (first more : List (Move κ ω)) :
    numbersGiven react b x (first ++ more) =
      numbersGiven react b x first ++ numbersGiven react b (after react x first) more :=
  Run.seen_append ..

/-- In every run of operations on directories through any handles, each `enrol` returns a number,
    and the `k`-th number given by directory `b` is `k` modulo `2 ^ 32`; two of them are the same
    exactly if `2 ^ 32` divides the distance of their places. The number leads to the callback that
    was enrolled, and other numbers lead where they led before. As long as fewer than `2 ^ 32`
    numbers were given, they are different and not zero, a number that is struck off was given
    before and is not given again, and a number that is given was not listed. -/
theorem numbers_given_in_turn (moves : List (Move κ ω)) (b : Nat) :
    let given := numbersGiven react b {} moves
    (∀ h r, (after react {} moves).handles[h]? = some b →
      ∃ id, (after react {} moves).given b (.use h (.enrol r)) = [id]) ∧
    (∀ k (hk : k < given.length), given[k].val.toNat = (k + 1) % UInt32.size) ∧
    (∀ j k (hj : j < given.length) (hk : k < given.length),
      given[j] = given[k] ↔ (UInt32.size : Int) ∣ (j : Int) - k) ∧
    (∀ first m later, moves = first ++ m :: later →
      let x := after react {} first
      ∀ id ∈ x.given b m, ∃ h r, m = .use h (.enrol r) ∧ ∀ other,
        (x.step react m).reached? b other =
          if other = id then some ⟨id, r⟩ else x.reached? b other) ∧
    (given.length < UInt32.size →
      given.Nodup ∧ (∀ id ∈ given, 1 ≤ id.val.toNat) ∧
      ∀ first m later, moves = first ++ m :: later →
        let x := after react {} first
        (∀ id ∈ x.struck b m, id ∈ numbersGiven react b {} first ∧
          id ∉ numbersGiven react b x (m :: later)) ∧
        ∀ id ∈ x.given b m, x.reached? b id = none) := by
  intro given
  have value : ∀ k (hk : k < given.length), given[k].val.toNat = (k + 1) % UInt32.size := by
    intro k hk
    rw [getElem_numbersGiven react b moves hk, Directory.toNat_numberOf]
  have same : ∀ j k (hj : j < given.length) (hk : k < given.length),
      given[j] = given[k] ↔ (UInt32.size : Int) ∣ (j : Int) - k := by
    intro j k hj hk
    rw [getElem_numbersGiven react b moves hj, getElem_numbersGiven react b moves hk,
      Directory.numberOf_eq_iff, UInt32.size]
    omega
  refine ⟨fun h r leads => exists_given_of_enrol (connected_after react moves) leads r, value, same,
    fun _ _ _ _ _ => reached?_of_given react, fun few => ?_⟩
  have nodup : given.Nodup := by
    refine List.pairwise_iff_getElem.mpr fun j k hj hk before equal => ?_
    have round := (same j k hj hk).mp equal
    unfold UInt32.size at few round
    omega
  refine ⟨nodup, fun id new => ?_, ?_⟩
  · obtain ⟨k, hk, rfl⟩ := List.getElem_of_mem new
    rw [value k hk, UInt32.size]
    unfold UInt32.size at few
    omega
  · rintro first m later rfl x
    have parts : given = numbersGiven react b {} first ++ numbersGiven react b x (m :: later) :=
      numbersGiven_append ..
    rw [parts] at nodup few
    refine ⟨fun id gone => ?_, fun id new => ?_⟩
    · have old := given_of_struck react first gone
      exact ⟨old, fun again => (List.nodup_append.mp nodup).2.2 id old id again rfl⟩
    · exact reached?_eq_none_of_given react first new (Nat.lt_of_le_of_lt (by simp) few)

/-- Two are enrolled through two handles of one directory, and a third after the first was struck
    off. -/
theorem third_number_after_strike :
    let react : Unit → Bytes → Unit → Unit × Except DeliveryError Unit :=
      fun _ _ w => (w, .error .closed)
    let first : List (Move Unit Unit) := [.found (), .clone 0, .use 0 (.enrol (.mailbox 0)),
      .use 1 (.enrol (.other ()))]
    let later : List (Move Unit Unit) := [.use 0 (.deliver ⟨2⟩ [120]), .use 0 (.enrol (.mailbox 1))]
    let moves := first ++ .use 1 (.strike ⟨1⟩) :: later
    numbersGiven react 0 {} moves = [⟨1⟩, ⟨2⟩, ⟨3⟩] ∧ (numbersGiven react 0 {} moves).Nodup ∧
    (⟨1⟩ : SessionId) ∉ numbersGiven react 0 (after react {} first)
      (.use 1 (.strike ⟨1⟩) :: later) := by
  intro react first later moves
  obtain ⟨-, -, -, -, early⟩ := numbers_given_in_turn react moves 0
  obtain ⟨nodup, -, moment⟩ := early (by decide)
  obtain ⟨gone, -⟩ := moment first (.use 1 (.strike ⟨1⟩)) later rfl
  exact ⟨by decide, nodup, (gone ⟨1⟩ (by decide)).2⟩

end SwitchRoom

end SessionHub
