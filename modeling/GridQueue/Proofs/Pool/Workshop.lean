/-
# `GridQueue.Proofs.Pool.Workshop` — a pool and its workers, step by step

A workshop is a pool with its workers, over a state that their commands
change.  Whoever holds a handle submits commands, and the owner starts the
pool and shuts it down:

    created ──start──▸ running ──signal──▸ stopping ──join, timeout──▸ closed

A worker without a command waits for two things at once, and looks at them
one after the other:

               no signal           a command is there
        idle ─────────────▸ looked ───────────────────▸ holding
         │ ▴                 │  │                          │
         │ └─────────────────┘  │ the queue is closed      │ answer
         ▾    nothing there     ▾                          ▾
        gone ◂──────────────────┘                         idle

The signal comes first.  If it was given the worker leaves; if not, it goes
on to the queue and takes the oldest command, and goes back to sleep if there
is none.  Nothing keeps the owner from giving the signal in between: the two
looks are two steps.  A worker with a command makes the calls of its program,
one at a time, and answers when the program is done, whatever became of the
pool meanwhile.

A `Step` is what one of them does before somebody else may do something.
The end of a command with its answer and its count is one, and so is the
closing of the queue with the refusal of all that still waits, for which the
queue is locked: none of these parts waits for anything.  A `Run` is any
order of steps, with the log of them.
-/
import GridQueue.Command.Dispatch
import GridQueue.Pool.Queue
import GridQueue.Proofs.Interleaving

namespace GridQueue

/-! ## What the operations of a pool do -/

namespace Pool

variable {κ : Type} {p q : Pool κ} {t : ℕ} {c : κ}

/-- A worker took a command from a pool. -/
structure Taken (p : Pool κ) (t : ℕ) (c : κ) (q : Pool κ) : Prop where
  phase_eq : q.phase = p.phase
  refused : p.refused = t :: q.refused
  busy : q.busy = p.busy ++ [(t, c)]
  completed : q.completed = p.completed
  failed : q.failed = p.failed

theorem receive_eq_some (h : p.receive = some ((t, c), q)) : Taken p t c q := by
  unfold receive at h
  split at h
  · cases h
  · next d rest hqueue =>
    cases h
    refine ⟨rfl, ?_, rfl, rfl, rfl⟩
    simp only [Pool.refused, hqueue, List.cons_append, List.map_cons, List.append_assoc,
      List.take_append_drop]

@[simp] theorem phase_submit : (p.submit t c).phase = p.phase := by
  unfold submit
  split <;> rfl

@[simp] theorem busy_submit : (p.submit t c).busy = p.busy := by
  unfold submit
  split <;> rfl

@[simp] theorem settings_submit : (p.submit t c).settings = p.settings := by
  unfold submit
  split <;> rfl

theorem backlog_submit : (p.submit t c).backlog = p.backlog + 1 := by
  unfold submit backlog
  split <;> simp only [List.length_append, List.length_singleton] <;> omega

@[simp] theorem counts_submit :
    (p.submit t c).completed + (p.submit t c).failed = p.completed + p.failed := by
  unfold submit
  split <;> rfl

theorem refused_submit : (p.submit t c).refused.Perm (p.refused ++ [t]) := by
  unfold submit Pool.refused
  split
  · simp only [List.map_append, List.append_assoc, List.map_cons, List.map_nil]
    exact List.perm_append_comm.append_left _
  · simp only [List.map_append, List.append_assoc, List.map_cons, List.map_nil]
    exact .refl _

theorem start_eq_ok (h : p.start = .ok q) : p.phase = .created ∧ q = { p with phase := .running } := by
  unfold start at h
  split at h <;> cases h
  next hphase => exact ⟨hphase, rfl⟩

theorem stop_eq_ok (h : p.stop = .ok q) :
    p.phase = .running ∧ q = { p with phase := .stopping } := by
  unfold stop at h
  split at h <;> cases h
  next hphase => exact ⟨hphase, rfl⟩

theorem isOpen_eq_false : p.isOpen = false ↔ p.phase = .closed := by
  simp [isOpen]

end Pool

/-! ## Workers -/

abbrev Command.Result : Type := Except CommandError Response

/-- A worker of a pool. -/
inductive Worker
  /-- the pool was not started -/
  | absent
  /-- waits for the signal or a command -/
  | idle
  /-- found no signal, and goes on to the queue -/
  | looked
  /-- has this left to do of the command with this ticket -/
  | holding (ticket : ℕ) (rest : Action Command.Result)
  /-- saw the signal -/
  | gone

/-- A pool with its workers, over a state. -/
structure Workshop (σ : Type) where
  pool : Pool Command
  workers : ℕ → Worker
  state : σ
  /-- The answers so far, by ticket. -/
  answers : List (ℕ × Command.Result) := []
  /-- How many commands were submitted, each under the next ticket. -/
  tickets : ℕ := 0

namespace Workshop

/-- What happens in a workshop. -/
inductive Event
  | submitted (ticket : ℕ) (c : Command)
  | started (result : Except PoolError Unit)
  /-- a worker found no signal -/
  | looked (worker : ℕ)
  | took (worker ticket : ℕ)
  /-- a worker found no command -/
  | passed (worker : ℕ)
  | called (worker ticket : ℕ) (c : Call) (answer : c.Answer)
  | finished (worker ticket : ℕ) (result : Command.Result)
  | left (worker : ℕ)
  /-- a shutdown began: the signal was given, unless there is an error -/
  | signalled (result : Except PoolError Unit)
  /-- a shutdown returned -/
  | closed (result : Except PoolError Unit)

def Event.worker? : Event → Option ℕ
  | looked i | took i _ | passed i | called i _ _ _ | finished i _ _ | left i => some i
  | submitted _ _ | started _ | signalled _ | closed _ => none

variable {σ : Type}

/-- A pool that was just made. -/
def opening (settings : PoolSettings) (s : σ) : Workshop σ where
  pool := { settings }
  workers _ := .absent
  state := s

def answer (h : Workshop σ) (ticket : ℕ) (result : Command.Result) : Workshop σ :=
  { h with answers := h.answers ++ [(ticket, result)] }

def setWorker (h : Workshop σ) (i : ℕ) (w : Worker) : Workshop σ :=
  { h with workers := Function.update h.workers i w }

def crew (settings : PoolSettings) (i : ℕ) : Worker :=
  if i < settings.workers then .idle else .absent

/-- The queue is closed, and what still waits is refused. -/
def close (h : Workshop σ) : Workshop σ :=
  { h with
    pool := h.pool.close
    answers := h.answers ++ h.pool.refused.map fun t => (t, .error .shuttingDown) }

/-- One step of a submitter, of a worker or of the owner. -/
inductive Step (settings : BrokerSettings) (W : World Call Call.Answer σ) :
    Workshop σ → Event → Workshop σ → Prop
  | submit {h c} : h.pool.isOpen = true →
      Step settings W h (.submitted h.tickets c)
        { h with pool := h.pool.submit h.tickets c, tickets := h.tickets + 1 }
  | turnAway {h c} : h.pool.isOpen = false →
      Step settings W h (.submitted h.tickets c)
        { h.answer h.tickets (.error .shuttingDown) with tickets := h.tickets + 1 }
  | start {h pool} : h.pool.start = .ok pool →
      Step settings W h (.started (.ok ())) { h with pool, workers := crew h.pool.settings }
  | startFails {h e} : h.pool.start = .error e → Step settings W h (.started (.error e)) h
  /-- the signal was not given so far -/
  | look {h i} : h.workers i = .idle → h.pool.phase = .running →
      Step settings W h (.looked i) (h.setWorker i .looked)
  /-- a command is there -/
  | take {h i t c pool} : h.workers i = .looked → h.pool.receive = some ((t, c), pool) →
      Step settings W h (.took i t)
        ({ h with pool }.setWorker i (.holding t (c.dispatch settings)))
  /-- no command is there, or others are at the queue -/
  | pass {h i} : h.workers i = .looked → Step settings W h (.passed i) (h.setWorker i .idle)
  | call {h i t c next a s} : h.workers i = .holding t (.call c next) → W c h.state a s →
      Step settings W h (.called i t c a) ({ h with state := s }.setWorker i (.holding t (next a)))
  | finish {h i t result} : h.workers i = .holding t (.done result) →
      Step settings W h (.finished i t result)
        (({ h with pool := h.pool.finish t (Command.succeeded result) }.setWorker i .idle).answer
          t result)
  /-- the signal was given -/
  | leave {h i} : h.workers i = .idle → h.pool.phase ≠ .running →
      Step settings W h (.left i) (h.setWorker i .gone)
  /-- the queue was closed -/
  | hangUp {h i} : h.workers i = .looked → h.pool.phase = .closed →
      Step settings W h (.left i) (h.setWorker i .gone)
  | signal {h pool} : h.pool.stop = .ok pool →
      Step settings W h (.signalled (.ok ())) { h with pool }
  | signalFails {h e} : h.pool.stop = .error e → Step settings W h (.signalled (.error e)) h
  | join {h} : h.pool.phase = .stopping → (∀ i, h.workers i = .absent ∨ h.workers i = .gone) →
      Step settings W h (.closed (.ok ())) h.close
  | timeout {h} : h.pool.phase = .stopping →
      Step settings W h (.closed (.error (.shutdownTimeout h.pool.settings.shutdownTimeout)))
        h.close

/-- Steps from a start, with the log of what happened, oldest first. -/
inductive Run (settings : BrokerSettings) (W : World Call Call.Answer σ) (first : Workshop σ) :
    List Event → Workshop σ → Prop
  | start : Run settings W first [] first
  | step {log h e h'} : Run settings W first log h → Step settings W h e h' →
      Run settings W first (log ++ [e]) h'

section Runs

variable {settings : BrokerSettings} {W : World Call Call.Answer σ} {first h h' : Workshop σ}
  {e : Event} {log before after : List Event}

theorem Run.split (hrun : Run settings W first (before ++ e :: after) h) :
    ∃ h₁ h₂, Run settings W first before h₁ ∧ Step settings W h₁ e h₂ ∧
      Run settings W h₂ after h := by
  generalize hlog : before ++ e :: after = log at hrun
  induction hrun generalizing after with
  | start => simp at hlog
  | @step log h₀ d h hrun hstep ih =>
      rcases split_append hlog.symm with ⟨rfl, rfl, rfl⟩ | ⟨between, rfl, rfl⟩
      · exact ⟨h₀, h, hrun, hstep, .start⟩
      · obtain ⟨h₁, h₂, hbefore, hmiddle, hafter⟩ := ih rfl
        exact ⟨h₁, h₂, hbefore, hmiddle, hafter.step hstep⟩

theorem Run.trans (hrun : Run settings W first before h) (hrun' : Run settings W h after h') :
    Run settings W first (before ++ after) h' := by
  induction hrun' with
  | start => rwa [List.append_nil]
  | step _ hstep ih =>
      rw [← List.append_assoc]
      exact ih.step hstep

theorem Run.keeps {I : Workshop σ → Prop} (hrun : Run settings W first log h) (hfirst : I first)
    (hstep : ∀ {h e h'}, I h → Step settings W h e h' → I h') : I h := by
  induction hrun with
  | start => exact hfirst
  | step _ hs ih => exact hstep ih hs

theorem Step.answers_subset (hstep : Step settings W h e h') : h.answers ⊆ h'.answers := by
  cases hstep with
  | turnAway | finish | join | timeout => exact List.subset_append_left ..
  | _ => exact List.Subset.refl _

theorem Run.answers_subset (hrun : Run settings W first log h) : first.answers ⊆ h.answers := by
  induction hrun with
  | start => exact List.Subset.refl _
  | step _ hstep ih => exact List.Subset.trans ih hstep.answers_subset

/-! ## The life of the pool -/

theorem Step.phase (hstep : Step settings W h e h') :
    h'.pool.phase = h.pool.phase ∨
      (h.pool.phase, h'.pool.phase) ∈
        [(.created, .running), (.running, .stopping), (.stopping, Pool.Phase.closed)] := by
  cases hstep with
  | submit => exact .inl Pool.phase_submit
  | take _ htake => exact .inl (Pool.receive_eq_some htake).phase_eq
  | start hstart =>
      obtain ⟨hcreated, rfl⟩ := Pool.start_eq_ok hstart
      exact .inr (by simp [hcreated])
  | signal hstop =>
      obtain ⟨hrunning, rfl⟩ := Pool.stop_eq_ok hstop
      exact .inr (by simp [hrunning])
  | join hstopping | timeout hstopping => exact .inr (by simp [hstopping, close, Pool.close])
  | _ => exact .inl rfl

theorem Run.signalled (hrun : Run settings W first log h)
    (hfirst : first.pool.phase = .stopping ∨ first.pool.phase = .closed) :
    h.pool.phase = .stopping ∨ h.pool.phase = .closed := by
  refine hrun.keeps (I := fun h => h.pool.phase = .stopping ∨ h.pool.phase = .closed) hfirst
    fun {h e h'} hphase hstep => ?_
  rcases hstep.phase with heq | hnext
  · rwa [heq]
  · rcases hphase with hphase | hphase <;> simp [hphase] at hnext
    exact .inr hnext

theorem Run.closed (hrun : Run settings W first log h) (hfirst : first.pool.phase = .closed) :
    h.pool.phase = .closed := by
  refine hrun.keeps (I := fun h => h.pool.phase = .closed) hfirst fun {h e h'} hphase hstep => ?_
  rcases hstep.phase with heq | hnext
  · rwa [heq]
  · simp [hphase] at hnext

/-! ## Looking at the signal -/

theorem workers_setWorker {w x : Worker} {i j : ℕ} (hj : (h.setWorker i w).workers j = x) :
    (j = i ∧ w = x) ∨ (j ≠ i ∧ h.workers j = x) := by
  change Function.update h.workers i w j = x at hj
  rw [Function.update_apply] at hj
  split at hj
  · next hji => exact .inl ⟨hji, hj⟩
  · next hji => exact .inr ⟨hji, hj⟩

theorem Step.running_of_looked {i : ℕ} (hstep : Step settings W h (.looked i) h') :
    h.pool.phase = .running := by
  cases hstep with
  | look _ hrunning => exact hrunning

theorem Step.looked_of_took {i t : ℕ} (hstep : Step settings W h (.took i t) h') :
    h.workers i = .looked := by
  cases hstep with
  | take hlooked _ => exact hlooked

/-- A worker has looked because it just did, or because it did before and
does nothing now. -/
theorem Step.looked {i : ℕ} (hstep : Step settings W h e h') (hi : h'.workers i = .looked) :
    e = .looked i ∨ h.workers i = .looked ∧ e.worker? ≠ some i := by
  cases hstep with
  | look =>
      rcases workers_setWorker hi with ⟨rfl, -⟩ | ⟨hne, hi⟩
      · exact .inl rfl
      · exact .inr ⟨hi, fun heq => hne (Option.some.inj heq).symm⟩
  | take | call | pass | finish | leave | hangUp =>
      rcases workers_setWorker hi with ⟨-, hother⟩ | ⟨hne, hi⟩
      · cases hother
      · exact .inr ⟨hi, fun heq => hne (Option.some.inj heq).symm⟩
  | start =>
      exfalso
      revert hi
      simp only [crew]
      split <;> nofun
  | _ => exact .inr ⟨hi, nofun⟩

theorem Run.exists_looked {i : ℕ} (hrun : Run settings W first log h)
    (hfirst : first.workers i ≠ .looked) (hi : h.workers i = .looked) :
    ∃ earlier since, log = earlier ++ .looked i :: since ∧ ∀ e ∈ since, e.worker? ≠ some i := by
  induction hrun with
  | start => exact absurd hi hfirst
  | @step log h e h' _ hstep ih =>
      rcases hstep.looked hi with rfl | ⟨hbefore, hquiet⟩
      · exact ⟨log, [], rfl, List.forall_mem_nil _⟩
      · obtain ⟨earlier, since, rfl, hsince⟩ := ih hbefore
        exact ⟨earlier, since ++ [e], List.append_assoc ..,
          List.forall_mem_append.mpr ⟨hsince, List.forall_mem_singleton.mpr hquiet⟩⟩

/-- After the signal nobody finds that it was not given: a worker that has
looked did so before, and did nothing since. -/
theorem Run.looked_before {i : ℕ} (hrun : Run settings W first log h)
    (hfirst : first.pool.phase = .stopping ∨ first.pool.phase = .closed)
    (hi : h.workers i = .looked) :
    first.workers i = .looked ∧ ∀ e ∈ log, e.worker? ≠ some i := by
  induction hrun with
  | start => exact ⟨hi, List.forall_mem_nil _⟩
  | @step log h e h' hrun hstep ih =>
      rcases hstep.looked hi with rfl | ⟨hbefore, hquiet⟩
      · have hphase := hrun.signalled hfirst
        rw [hstep.running_of_looked] at hphase
        exact absurd hphase (by simp)
      · obtain ⟨hlooked, hlog⟩ := ih hbefore
        exact ⟨hlooked,
          List.forall_mem_append.mpr ⟨hlog, List.forall_mem_singleton.mpr hquiet⟩⟩

end Runs

end Workshop

end GridQueue
