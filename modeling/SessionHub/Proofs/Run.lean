set_option autoImplicit false

/-! # Runs

A run is a list of moves that are made one after the other. A system is given by its `step`, which
makes one move in one state. What can be said of a run is said of the state that it leaves, `after`,
and of what its moves show along the way, `seen`. Both grow at the end of a run, so that a law that
relates them is proved by `after_induction`: it holds before the first move, and one more move keeps
it. -/

namespace SessionHub.Run

variable {σ μ α : Type} (step : σ → μ → σ)

/-- The state that a run leaves. -/
def after (s : σ) (moves : List μ) : σ :=
  moves.foldl step s

/-- What `look` shows along a run, of each move and the state that it is made in. -/
def seen (look : σ → μ → List α) (s : σ) : List μ → List α
  | [] => []
  | m :: moves => look s m ++ seen look (step s m) moves

@[simp] theorem after_cons (s : σ) (m : μ) (moves : List μ) :
    after step s (m :: moves) = after step (step s m) moves := rfl

theorem after_append (s : σ) (moves more : List μ) :
    after step s (moves ++ more) = after step (after step s moves) more :=
  List.foldl_append ..

@[simp] theorem after_concat (s : σ) (moves : List μ) (m : μ) :
    after step s (moves ++ [m]) = step (after step s moves) m := by
  rw [after_append]; rfl

@[simp] theorem seen_nil (look : σ → μ → List α) (s : σ) : seen step look s [] = [] := rfl

@[simp] theorem seen_cons (look : σ → μ → List α) (s : σ) (m : μ) (moves : List μ) :
    seen step look s (m :: moves) = look s m ++ seen step look (step s m) moves := rfl

theorem seen_append (look : σ → μ → List α) (s : σ) (moves more : List μ) :
    seen step look s (moves ++ more)
      = seen step look s moves ++ seen step look (after step s moves) more := by
  induction moves generalizing s with
  | nil => rfl
  | cons m moves ih => simp only [List.cons_append, seen_cons, after_cons, ih, List.append_assoc]

@[simp] theorem seen_concat (look : σ → μ → List α) (s : σ) (moves : List μ) (m : μ) :
    seen step look s (moves ++ [m]) = seen step look s moves ++ look (after step s moves) m := by
  rw [seen_append, seen_cons, seen_nil, List.append_nil]

/-- If `look` shows nothing in any of the moves, nothing is seen along a run. -/
theorem seen_eq_nil (look : σ → μ → List α) (s : σ) {moves : List μ}
    (nothing : ∀ m ∈ moves, ∀ s, look s m = []) : seen step look s moves = [] := by
  induction moves generalizing s with
  | nil => rfl
  | cons m moves ih =>
    obtain ⟨first, nothing⟩ := List.forall_mem_cons.mp nothing
    rw [seen_cons, first, ih (step s m) nothing]
    rfl

/-- What is seen along a run is seen in one of its moves. -/
theorem exists_of_mem_seen {look : σ → μ → List α} {s : σ} {moves : List μ} {x : α}
    (there : x ∈ seen step look s moves) :
    ∃ first m later, moves = first ++ m :: later ∧ x ∈ look (after step s first) m := by
  induction moves generalizing s with
  | nil => cases there
  | cons m moves ih =>
    rw [seen_cons, List.mem_append] at there
    rcases there with now | later
    · exact ⟨[], m, moves, rfl, now⟩
    · obtain ⟨first, m', rest, parts, found⟩ := ih later
      exact ⟨m :: first, m', rest, by rw [parts]; rfl, found⟩

/-- A law of runs and the states they leave holds of every run if it holds of the empty one and each
    move keeps it. -/
theorem after_induction {motive : List μ → σ → Prop} (s : σ) (start : motive [] s)
    (move : ∀ moves m, motive moves (after step s moves) →
      motive (moves ++ [m]) (step (after step s moves) m)) (moves : List μ) :
    motive moves (after step s moves) := by
  suffices backward : ∀ l : List μ, motive l.reverse (after step s l.reverse) by
    simpa using backward moves.reverse
  intro l
  induction l with
  | nil => exact start
  | cons m l ih =>
    rw [List.reverse_cons, after_concat]
    exact move l.reverse m ih

end SessionHub.Run
