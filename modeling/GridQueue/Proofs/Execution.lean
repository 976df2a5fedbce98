/-
# `GridQueue.Proofs.Execution` — tasks that are executed one by one

A task that is executed alone makes its calls of a steady store with no
other call between them.  The clock and the other collaborators answer as
they like, so one task has many executions; what all of them have in
common is proved from the protocol the task follows
(`Task.Executes.invariant`).  `Task.executes_serve` gives one.

`Served` is a sequence of tasks, each of which is executed on the store
that the one before it left.  Results about a sequence are inductions on
it, and a step is a task as a whole: what becomes of a store between the
calls of one task is not seen from there.
-/
import GridQueue.Proofs.Surroundings

namespace GridQueue

/-- A task is executed alone, from its first call to its end. -/
def Task.Executes (t : Task) (s : Store) (result : t.Result) (s' : Store) : Prop :=
  ∃ es u, Run Surroundings.steady.world (Task.threads (fun _ : Unit => t) s) es u ∧
    u.Finished () result ∧ u.state = s'

/-- Tasks are executed one after another.  The list has the tasks, each
with the state in which it began. -/
inductive Served : Store → List (Store × Task) → Store → Prop
  | nil {s} : Served s [] s
  | cons {s t result s₁ rest s'} :
      t.Executes s result s₁ → Served s₁ rest s' → Served s ((s, t) :: rest) s'

/-- What a program keeps and how it ends carries over to its execution. -/
theorem Task.Executes.invariant {M : Type} {P : Protocol Call Call.Answer M} {t : Task}
    {s s' : Store} {result : t.Result} {ends : M → t.Result → Prop} {first : M}
    (h : t.Executes s result s') (hfollows : t.program.Follows P ends first)
    (I : M → Store → Prop) (hstart : I first s)
    (hmove : ∀ m s c a s' m', I m s → P m c a m' → Surroundings.steady.world c s a s' → I m' s') :
    ∃ m, I m s' ∧ ends m result := by
  obtain ⟨es, u, hrun, hdone, rfl⟩ := h
  obtain ⟨m, hI, hf⟩ := hrun.invariant (fun _ => P) (fun _ => ends) (fun _ => first)
    (fun _ => hfollows) (fun _ m s => I (m ()) s) hstart
    (fun _ m s i c a s' m' hI hm hW => by
      rw [Function.update_self]
      exact hmove _ _ _ _ _ _ hI hm hW)
  have hend := hf ()
  rw [show u.rest () = .done result from hdone] at hend
  exact ⟨m (), hI, hend⟩

/-- To serve a program to its end is a run in which no other takes a turn. -/
theorem Run.exists_serve {ι : Type} [DecidableEq ι] {α : ι → Type} (p : Partners) (i : ι)
    (program : Action (α i)) (t : Threads ι Call Call.Answer α Store) (ht : t.rest i = program) :
    ∃ es u, Run Surroundings.steady.world t es u ∧ u.Finished i (p.serve program t.state).1 ∧
      u.state = (p.serve program t.state).2 := by
  induction program generalizing t with
  | done a => exact ⟨[], t, .start, ht, rfl⟩
  | call c next ih =>
      let answer := p.reply c t.state
      let v : Threads ι Call Call.Answer α Store :=
        ⟨answer.2, Function.update t.rest i (next answer.1)⟩
      have hstep : Step Surroundings.steady.world t ⟨i, c, answer.1, t.state, answer.2⟩ v :=
        .call ht (Surroundings.steady_reply p c t.state)
      obtain ⟨es, u, hrun, hdone, hu⟩ := ih answer.1 v (Function.update_self ..)
      exact ⟨_, u, (Run.step .start hstep).trans hrun, hdone, hu⟩

theorem Task.executes_serve (p : Partners) (t : Task) (s : Store) :
    t.Executes s (p.serve t.program s).1 (p.serve t.program s).2 :=
  Run.exists_serve (α := fun _ => t.Result) p () t.program (Task.threads (fun _ => t) s) rfl

end GridQueue
