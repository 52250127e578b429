import SessionHub.Engine.Basic

set_option autoImplicit false

/-! # Calls one after the other

Calls of an engine that are made one after the other, each in the state that the one before it has
left, whether it panicked or not. -/

namespace SessionHub.Engine

variable {σ : Type} (E : Engine σ)

/-- The state that some calls leave. -/
def after (s : σ) (calls : List Invocation) : σ :=
  calls.foldl (fun s call => (E.invoke s call).state) s

/-- Some calls, each with what it came to. -/
def transcript (s : σ) : List Invocation → List (Invocation × Outcome σ Answer)
  | [] => []
  | call :: calls => (call, E.invoke s call) :: transcript (E.invoke s call).state calls

theorem after_append (s : σ) (calls more : List Invocation) :
    E.after s (calls ++ more) = E.after (E.after s calls) more :=
  List.foldl_append ..

@[simp] theorem after_concat (s : σ) (calls : List Invocation) (call : Invocation) :
    E.after s (calls ++ [call]) = (E.invoke (E.after s calls) call).state :=
  E.after_append s calls [call]

theorem transcript_append (s : σ) (calls more : List Invocation) :
    E.transcript s (calls ++ more) =
      E.transcript s calls ++ E.transcript (E.after s calls) more := by
  induction calls generalizing s with
  | nil => rfl
  | cons call calls ih => rw [List.cons_append, transcript, ih, transcript]; rfl

@[simp] theorem transcript_concat (s : σ) (calls : List Invocation) (call : Invocation) :
    E.transcript s (calls ++ [call]) =
      E.transcript s calls ++ [(call, E.invoke (E.after s calls) call)] :=
  E.transcript_append s calls [call]

end SessionHub.Engine
