import SessionHub.Proofs.Network.Run

set_option autoImplicit false

/-! # Turns are runs

`settle` gives tasks their turns in one particular order. Whose turn it is, and how long a turn
lasts, is kept in parts of a network that no task looks at. In the others, the hub and its members,
whatever `settle` does is a run of tasks (`reaches_settle`), so that what holds after every run
holds there. -/

namespace SessionHub.Network

variable {σ : Type} {E : Engine σ} {n n' n'' : Network σ Local}

/-- Whether a move is a step of a task. -/
def Move.isTask : Move → Bool
  | .drive | .send .. | .forward _ => true
  | _ => false

/-- Whether two networks differ at most in whose turn it is. -/
def Alike (n n' : Network σ Local) : Prop :=
  n.hub = n'.hub ∧ n.members = n'.members

theorem Alike.trans (first : n.Alike n') (second : n'.Alike n'') : n.Alike n'' :=
  ⟨first.1.trans second.1, first.2.trans second.2⟩

theorem Alike.act (alike : n.Alike n') (k : Nat) (step : Hub σ → Client → Hub σ × Client) :
    (n.act k step).Alike (n'.act k step) := by
  obtain ⟨hub, members⟩ := alike
  cases hc : n.members[k]? with
  | none =>
    rw [act_of_none hc, act_of_none (members ▸ hc)]
    exact ⟨hub, members⟩
  | some c =>
    rw [act_of_some hc, act_of_some (members ▸ hc), hub, members]
    exact ⟨rfl, rfl⟩

theorem Alike.after (alike : n.Alike n') {moves : List Move} (tasks : ∀ m ∈ moves, m.isTask) :
    (after E n moves).Alike (after E n' moves) := by
  induction moves generalizing n n' with
  | nil => exact alike
  | cons m moves ih =>
    have task := tasks m List.mem_cons_self
    have moved : (n.move E m).Alike (n'.move E m) := by
      cases m with
      | drive => exact ⟨congrArg (·.step E) alike.1, alike.2⟩
      | send k i => exact (alike.act k _).act k _
      | forward k => exact alike.act k _
      | _ => cases task
    exact ih moved fun m hm => tasks m (List.mem_cons_of_mem _ hm)

theorem fold_related {r : Network σ Local → Network σ Local → Prop} (refl : ∀ n, r n n)
    (trans : ∀ {n n' n''}, r n n' → r n' n'' → r n n'') {size : Nat}
    {step : (k : Nat) → k < size → Network σ Local → Network σ Local}
    (each : ∀ k inside n, r n (step k inside n)) (n : Network σ Local) :
    r n (size.fold step n) := by
  induction size with
  | zero => exact refl n
  | succ size ih =>
    rw [Nat.fold_succ]
    exact trans (ih fun k inside => each k (Nat.lt_succ_of_lt inside)) (each size _ _)

theorem alike_wake (n : Network σ Local) (t : Actor) : n.Alike (n.wake t) := by
  unfold wake
  split <;> exact ⟨rfl, rfl⟩

theorem alike_wakeMembers (C : Conduct σ Local) (n : Network σ Local) :
    n.Alike (n.wakeMembers C) := by
  refine fold_related (fun _ => ⟨rfl, rfl⟩) .trans (fun k inside w => ?_) n
  split
  · exact ⟨rfl, rfl⟩
  · exact alike_wake w _

theorem alike_wakeAll (C : Conduct σ Local) (n : Network σ Local) : n.Alike (n.wakeAll C) := by
  unfold wakeAll
  dsimp only
  split
  · exact (alike_wakeMembers C n).trans (alike_wake _ _)
  · exact alike_wakeMembers C n

/-- Whether a run of tasks leads from one network to another, turns aside. -/
def Reaches (E : Engine σ) (n n' : Network σ Local) : Prop :=
  ∃ moves, (∀ m ∈ moves, m.isTask) ∧ (after E n moves).Alike n'

namespace Reaches

theorem of_alike (alike : n.Alike n') : Reaches E n n' :=
  ⟨[], nofun, alike⟩

theorem refl (n : Network σ Local) : Reaches E n n :=
  of_alike ⟨rfl, rfl⟩

theorem of_move {m : Move} (task : m.isTask) : Reaches E n (n.move E m) :=
  ⟨[m], fun _ hm => List.mem_singleton.mp hm ▸ task, rfl, rfl⟩

theorem trans (first : Reaches E n n') (second : Reaches E n' n'') : Reaches E n n'' := by
  obtain ⟨moves, tasks, alike⟩ := first
  obtain ⟨more, tasks', alike'⟩ := second
  refine ⟨moves ++ more, fun m hm => ?_, ?_⟩
  · exact (List.mem_append.mp hm).elim (tasks m) (tasks' m)
  · rw [after, Run.after_append]
    exact (alike.after tasks').trans alike'

/-! ## Turns -/

theorem drive (n : Network σ Local) : Reaches E n (n.drive E) :=
  of_move (m := .drive) rfl

theorem routeAll (n : Network σ Local) : Reaches E n (n.routeAll E Client.conduct) := by
  unfold Network.routeAll
  split
  · exact fold_related refl trans
      (fun _ _ n => (drive n).trans ((drive _).trans (of_alike (alike_wakeMembers _ _)))) n
  · exact refl n

theorem proceed (n : Network σ Local) : Reaches E n (n.proceed E Client.conduct) := by
  unfold Network.proceed
  dsimp only
  split
  · exact (drive n).trans (of_alike ⟨rfl, rfl⟩)
  · refine (drive n).trans ((drive _).trans ((routeAll _).trans ?_))
    split <;> exact of_alike ⟨rfl, rfl⟩
  · exact drive n

theorem driverTurn (n : Network σ Local) : Reaches E n (n.driverTurn E Client.conduct) := by
  unfold Network.driverTurn
  split
  · exact (drive n).trans (proceed _)
  · exact (drive n).trans ((routeAll _).trans (proceed _))
  · exact proceed n

theorem serve (n : Network σ Local) (k : Nat) : Reaches E n (n.serve Client.conduct k) := by
  have served : ∀ steps : Nat,
      Reaches E n (steps.fold (fun _ _ n => n.act k Client.conduct.serve) n) :=
    fun _ => fold_related refl trans (fun _ _ n => of_move (m := .forward k) rfl) n
  unfold Network.serve
  split
  · exact refl n
  · next m _ =>
    refine (served (min (Client.backlog n.hub m) turnLength)).trans (of_alike ?_)
    refine .trans ?_ (alike_wakeAll Client.conduct _)
    split <;> exact ⟨rfl, rfl⟩

/-- A send is carried out, and then the session is dropped if it is not needed. In between, other
    tasks are only woken. -/
theorem send (n : Network σ Local) (k : Nat) :
    Reaches E n (n.turn E Client.conduct (.send k)) := by
  have oldest : ∃ i, n.act k Client.conduct.send = n.act k (Client.sendAt i) := by
    cases hc : n.members[k]? with
    | none => exact ⟨0, by rw [act_of_none hc, act_of_none hc]⟩
    | some c =>
      refine ⟨c.caller.sends.length - 1, ?_⟩
      rw [act_of_some hc, act_of_some hc]
      rfl
  obtain ⟨i, oldest⟩ := oldest
  refine (of_move (m := .send k i) rfl).trans (of_alike ?_)
  refine .trans ?_ (alike_wakeAll Client.conduct _)
  rw [oldest]
  exact (alike_wakeAll Client.conduct _).act k Client.tidy

theorem turn (n : Network σ Local) (t : Actor) : Reaches E n (n.turn E Client.conduct t) := by
  cases t with
  | driver => exact driverTurn n
  | send k => exact send n k
  | serve k => exact serve n k

theorem callBack (n : Network σ Local) : Reaches E n n.callBack := by
  unfold Network.callBack
  split <;> exact of_alike ⟨rfl, rfl⟩

theorem next? {t : Actor} (next : n.next? = some (t, n')) : Reaches E n n' := by
  refine of_alike ?_
  unfold Network.next? at next
  dsimp only at next
  split at next
  · cases next
    exact ⟨rfl, rfl⟩
  · split at next
    · cases next
      exact ⟨rfl, rfl⟩
    · split at next
      · cases next
        exact ⟨rfl, rfl⟩
      · cases next

end Reaches

/-- What `settle` does is a run of tasks. -/
theorem reaches_settle (E : Engine σ) (fuel : Nat) (n : Network σ Local) :
    Reaches E n (n.settle E Client.conduct fuel) := by
  induction fuel generalizing n with
  | zero => exact .refl n
  | succ fuel ih =>
    have called : Reaches E n n.callBack := .callBack n
    unfold settle
    dsimp only
    split
    · exact called
    · next t n' next =>
      exact called.trans ((Reaches.next? next).trans ((Reaches.turn n' t).trans (ih _)))

end SessionHub.Network
