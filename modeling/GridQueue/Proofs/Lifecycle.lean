/-
# `GridQueue.Proofs.Lifecycle` — no run leaves the life cycle of a job

Five calls of the store write the status of a job, each under a guard of
its own.  `Task.Writer` lists which task makes which of them, with which
arguments; the guard of the call and these arguments together leave only
the moves of the life cycle (`Writer.moves_or_forces`):

    claim                 request for work    broker
    report `ERROR_A`      request for work    broker
    report by an agent    set_job_status      agent
    heartbeat             heartbeat           agent
    giving up             sweep               monitor
    force                 force_job_status    an operator, into a failure status

So it is in every run, whatever fails and whoever comes next, and a job
that ended stays ended.
-/
import GridQueue.Proofs.Surroundings

namespace GridQueue

/-! ## Moves -/

namespace Status

theorem mem_predecessors {s target : Status} {actor : Actor} :
    s ∈ target.predecessors actor ↔ s.mover? target = some actor := by
  simp [predecessors, mem_all, canMove]

theorem mover?_of_isTerminal {s : Status} (h : s.isTerminal = true) (t : Status) :
    s.mover? t = none := by
  cases s <;> first | rfl | cases h

theorem mover?_zombie {s : Status} (h : s ∈ inFlight) : s.mover? .zombie = some .monitor := by
  cases s <;> first | rfl | simp [inFlight] at h

theorem isTerminal_of_isFailure {s : Status} (h : s.isFailure = true) : s.isTerminal = true := by
  simp [isTerminal, isFailure] at h ⊢
  exact .inr h

end Status

/-! ## Who writes jobs -/

namespace Task

/-- An operator forces this status on this job. -/
def Forces (t : Task) (jobId : Int) (status : Status) : Prop :=
  ∃ settings, t = .command settings (.forceJobStatus jobId status)

/-- A task writes jobs by such a call. -/
inductive Writer : Task → StoreCall → Prop
  | claim {t settings r aggregateId} : t.request? = some (settings, r) →
      Writer t (.claimWaiting aggregateId r.target)
  | withdraw {t settings r jobId n} : t.request? = some (settings, r) →
      Writer t (.updateStatus ⟨jobId, n, .errorA, .broker⟩)
  | report {settings jobId n status} :
      Writer (.command settings (.setJobStatus jobId n status))
        (.updateStatus ⟨jobId, n, status, .agent⟩)
  | heartbeat {settings jobId n} :
      Writer (.command settings (.heartbeat jobId n)) (.touchHeartbeat jobId n)
  | force {settings jobId} {status : Status} : status.isFailure = true →
      Writer (.command settings (.forceJobStatus jobId status)) (.forceStatus jobId status)
  | giveUp {t jobId cutoff} : t.actor? = some .monitor →
      Writer t (.transitionIfStale jobId Status.inFlight .zombie cutoff)
  | expire {t jobId cutoff} : t.actor? = some .monitor →
      Writer t (.transitionIfStale jobId [.zombie] .expired cutoff)

theorem actor?_of_request? {t : Task} {p : BrokerSettings × Matching.Request}
    (h : t.request? = some p) : t.actor? = some .broker := by
  unfold request? at h
  split at h <;> first | rfl | cases h

theorem writer_of_sweep {t : Task} {settings : LivenessSettings} {now : Instant} {c : StoreCall}
    (ht : t.actor? = some .monitor) (h : Liveness.Calls settings now (.store c))
    (hw : c.writes = some .jobs) : t.Writer c := by
  cases h with
  | silent | zombies => cases hw
  | giveUp => exact .giveUp ht
  | expire => exact .expire ht

theorem writer_of_calls {t : Task} {c : StoreCall} (h : t.Calls (.store c))
    (hw : c.writes = some .jobs) : t.Writer c := by
  cases t with
  | request => exact h.elim
  | command settings asked =>
      cases h with
      | getJobs | trace | traceForce => cases hw
      | report => exact .report
      | heartbeat => exact .heartbeat
      | force hf => exact .force hf
  | sweep settings now => exact writer_of_sweep rfl h hw
  | cycle settings owner =>
      cases h with
      | marker => cases hw
      | sweep h => exact writer_of_sweep rfl h hw
  | batch | batchIfDue => cases h <;> cases hw

theorem Moves.writer {t : Task} {m m' : Matching.Stage} {c : StoreCall} {a : Call.Answer (.store c)}
    (h : t.Moves m (.store c) a m') (hw : c.writes = some .jobs) : t.Writer c := by
  unfold Moves at h
  split at h
  · next settings r hr =>
    cases h <;> first | cases hw; done | skip
    case claimError | lost | won => exact .claim hr
    case withdraw => exact .withdraw hr
  · exact writer_of_calls h.1 hw

/-- What a writer does to the status of a job is a move of its own in the
life cycle, or a forced failure. -/
theorem Writer.moves_or_forces {t : Task} {c : StoreCall} {now : Instant} {j j' : Job}
    (h : t.Writer c) (hc : Store.JobChange now c j j') (hne : j'.status ≠ j.status) :
    (∃ actor, t.actor? = some actor ∧ j.status.mover? j'.status = some actor) ∨
      (t.Forces j.id j'.status ∧ j'.status.isFailure = true) := by
  cases h with
  | claim hr =>
      cases hc with
      | claim hw _ => exact .inl ⟨_, actor?_of_request? hr, by rw [hw]; rfl⟩
  | withdraw hr =>
      cases hc with
      | report _ _ hs =>
          refine .inl ⟨_, actor?_of_request? hr, Status.mem_predecessors.mp ?_⟩
          simpa [StatusChange.allowedFrom] using hs
  | report =>
      cases hc with
      | report _ _ hs =>
          refine .inl ⟨.agent, rfl, Status.mem_predecessors.mp ?_⟩
          rcases List.mem_append.mp hs with hs | hs
          · exact hs
          · -- reporting the present status once more is no move
            split at hs
            · exact absurd (List.mem_singleton.mp hs).symm hne
            · cases hs
  | heartbeat =>
      cases hc with
      | heartbeat => exact absurd rfl hne
      | revive _ _ hz => exact .inl ⟨.agent, rfl, by rw [hz]; rfl⟩
  | force hf =>
      cases hc with
      | force hid _ => exact .inr ⟨⟨_, by rw [hid]⟩, hf⟩
  | giveUp ht =>
      cases hc with
      | giveUp _ hs =>
          have hs : j.status ∈ Status.inFlight := by simpa using (Bool.and_eq_true_iff.mp hs).1
          exact .inl ⟨_, ht, Status.mover?_zombie hs⟩
  | expire ht =>
      cases hc with
      | giveUp _ hs =>
          have hs : j.status = .zombie := by simpa using (Bool.and_eq_true_iff.mp hs).1
          exact .inl ⟨_, ht, by rw [hs]; rfl⟩

end Task

/-! ## Runs -/

section Runs

variable {ι : Type} {w : Surroundings} {tasks : ι → Task}

/-- Whatever an event does to the status of a job is a move of the life
cycle by the component that called, or an operator forces a failure. -/
def Conforms (tasks : ι → Task) (e : Event ι Call Call.Answer Store) : Prop :=
  ∀ id j j', e.before.jobs.get? id = some j → e.after.jobs.get? id = some j' →
    j'.status ≠ j.status →
    (∃ actor, (tasks e.thread).actor? = some actor ∧ j.status.mover? j'.status = some actor) ∨
      ((tasks e.thread).Forces id j'.status ∧ j'.status.isFailure = true)

/-- An event by which an operator changes the status of this job. -/
def ForcesJob (tasks : ι → Task) (id : Int) (e : Event ι Call Call.Answer Store) : Prop :=
  ∃ j j', e.before.jobs.get? id = some j ∧ e.after.jobs.get? id = some j' ∧
    j'.status ≠ j.status ∧ (tasks e.thread).Forces id j'.status

theorem conforms_of_moves {i : ι} {m m' : Matching.Stage} {c : Call} {a : c.Answer}
    {s s' : Store} (hm : (tasks i).Moves m c a m') (hW : w.world c s a s') :
    Conforms tasks ⟨i, c, a, s, s'⟩ := by
  intro id j j' hj hj' hne
  rcases Surroundings.world_job hW id with hsame | ⟨now, sc, k, k', rfl, hk, hk', hchange⟩
  · exact absurd (congrArg Job.status (Option.some.inj (hj'.symm.trans (hsame.trans hj)))) hne
  · cases Option.some.inj (hj.symm.trans hk)
    cases Option.some.inj (hj'.symm.trans hk')
    rw [← Store.id_of_get? hj]
    exact (hm.writer hchange.writes).moves_or_forces hchange hne

theorem Conforms.ended {e : Event ι Call Call.Answer Store} (h : Conforms tasks e) {id : Int}
    {j j' : Job} (hj : e.before.jobs.get? id = some j) (hj' : e.after.jobs.get? id = some j')
    (hend : j.status.isTerminal = true) :
    j'.status = j.status ∨ (ForcesJob tasks id e ∧ j'.status.isFailure = true) := by
  by_cases hne : j'.status = j.status
  · exact .inl hne
  · right
    rcases h id j j' hj hj' hne with ⟨actor, -, hmove⟩ | ⟨hforce, hfail⟩
    · rw [Status.mover?_of_isTerminal hend] at hmove
      cases hmove
    · exact ⟨⟨j, j', hj, hj', hne, hforce⟩, hfail⟩

/-- What becomes of a job in later states: `ForcesJob` is the only way to
change it once it ended, and there is no way back from a failure. -/
structure Endures (tasks : ι → Task) (es : List (Event ι Call Call.Answer Store)) (id : Int)
    (j j' : Job) : Prop where
  terminal : j.status.isTerminal = true → j'.status.isTerminal = true
  same : j.status.isTerminal = true → (∀ e ∈ es, ¬ ForcesJob tasks id e) → j'.status = j.status
  failure : j.status.isFailure = true → j'.status.isFailure = true

theorem Endures.refl (id : Int) (j : Job) : Endures tasks [] id j j :=
  ⟨fun h => h, fun _ _ => rfl, fun h => h⟩

/-- One more step: what endured so far endures it, too. -/
theorem Endures.step {es : List (Event ι Call Call.Answer Store)}
    {e : Event ι Call Call.Answer Store} {id : Int} {j k k' : Job}
    (h : Endures tasks es id j k) (he : Conforms tasks e) (hk : e.before.jobs.get? id = some k)
    (hk' : e.after.jobs.get? id = some k') : Endures tasks (es ++ [e]) id j k' := by
  have hstep := fun hend => he.ended hk hk' (h.terminal hend)
  refine ⟨?_, ?_, ?_⟩
  · intro hend
    rcases hstep hend with hsame | ⟨-, hfail⟩
    · exact hsame ▸ h.terminal hend
    · exact Status.isTerminal_of_isFailure hfail
  · intro hend hnone
    have hold := h.same hend fun e he => hnone e (List.mem_append_left _ he)
    rcases hstep hend with hsame | ⟨hforce, -⟩
    · exact hsame.trans hold
    · exact absurd hforce (hnone e (List.mem_append_right _ (List.mem_singleton_self e)))
  · intro hfail
    rcases hstep (Status.isTerminal_of_isFailure hfail) with hsame | ⟨-, hfail'⟩
    · exact hsame ▸ h.failure hfail
    · exact hfail'

variable [DecidableEq ι] {s : Store} {es es' : List (Event ι Call Call.Answer Store)}
  {t u : Threads ι Call Call.Answer (fun i => (tasks i).Result) Store}

theorem conforms_of_run (h : Run w.world (Task.threads tasks s) es t) :
    ∀ e ∈ es, Conforms tasks e := by
  intro e he
  obtain ⟨hW, m, m', hm⟩ := Task.run_event h e he
  exact conforms_of_moves hm hW

theorem exists_endures (h : Run w.world t es u) (hc : ∀ e ∈ es, Conforms tasks e) {id : Int}
    {j : Job} (hj : t.state.jobs.get? id = some j) :
    ∃ j', u.state.jobs.get? id = some j' ∧ Endures tasks es id j j' := by
  induction h with
  | start => exact ⟨j, hj, .refl id j⟩
  | @step es t' e u' _ hs ih =>
      obtain ⟨k, hk, hend⟩ := ih fun e he => hc e (List.mem_append_left _ he)
      have he := hc _ (List.mem_append_right _ (List.mem_singleton_self _))
      cases hs with
      | call _ hW =>
          obtain ⟨k', hk'⟩ := Surroundings.world_keeps_job hW hk
          exact ⟨k', hk', hend.step he hk hk'⟩

/-- Over a run of any tasks, in any order of their calls and whatever
fails: each change of a status is a move of the life cycle made by the
component that called, or a forced failure; and a job that ended in some
state of the run has ended in every later one, with the same status
unless an operator forced another one, and never in success after a
failure. -/
theorem statuses_follow_life_cycle
    (h : Run w.world (Task.threads tasks s) es t) (h' : Run w.world t es' u) :
    (∀ e ∈ es ++ es', Conforms tasks e) ∧
      ∀ id j, t.state.jobs.get? id = some j →
        ∃ j', u.state.jobs.get? id = some j' ∧ Endures tasks es' id j j' := by
  have hall := conforms_of_run (h.trans h')
  exact ⟨hall, fun id j hj =>
    exists_endures h' (fun e he => hall e (List.mem_append_right _ he)) hj⟩

end Runs

/-- An agent reports success, and an operator forces a failure. -/
def reportThenKill : Bool → Task
  | false => .command {} (.setJobStatus 1 1 .done)
  | true => .command {} (.forceJobStatus 1 .killed)

/-- The job is done after the first call, and killed, for good, after the
second. -/
theorem statuses_follow_life_cycle_of_killed_job :
    let s := ({} : Store).insertJob (runningJob 1)
    let answer := Partners.reply { issue := fun _ => .error (.unreachable "") }
    let t := (Task.threads reportThenKill s).play answer [false]
    let u := t.play answer [true]
    (t.state.jobs.get? 1).map (·.status) = some .done ∧
      (u.state.jobs.get? 1).map (·.status) = some .killed ∧
      ∃ es es', Run Surroundings.hostile.world (Task.threads reportThenKill s) es t ∧
        Run Surroundings.hostile.world t es' u ∧ (∀ e ∈ es ++ es', Conforms reportThenKill e) ∧
        ∀ id j, t.state.jobs.get? id = some j →
          ∃ j', u.state.jobs.get? id = some j' ∧ Endures reportThenKill es' id j j' := by
  intro s answer t u
  obtain ⟨es, h⟩ := Run.exists_play (Surroundings.hostile_reply _)
    (Task.threads reportThenKill s) [false]
  obtain ⟨es', h'⟩ := Run.exists_play (Surroundings.hostile_reply _) t [true]
  exact ⟨rfl, rfl, es, es', h, h', statuses_follow_life_cycle h h'⟩

end GridQueue
