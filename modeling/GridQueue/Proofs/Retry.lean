/-
# `GridQueue.Proofs.Retry` — commands that may be sent twice

What an agent or an operator sends may arrive twice.  For a question, a
report, a sign of life and a forced status this does no harm: the second
time leaves the store as the first one did (`retry_leaves_store`).  A job
that takes a report is in the reported status after it, so that status
alone decides what becomes of the second one:

    in flight   allowed from itself     made again, to no effect
    ended       nothing leaves it       rejected

Likewise a status that was just forced cannot be forced again, so no
second line comes into the trace.

Both commands are served by the same partners and at the same time, one
right after the other.  The second reply is a function of the command and
of the first one (`replyAgain`): the same again, except that a report that
ended the job is rejected now, and so is a force that applied.
-/
import GridQueue.Proofs.Lifecycle
import GridQueue.Proofs.Store.Verdict

namespace GridQueue

/-! ## What may be reported twice -/

section Reports

variable {jobId n : Int} {status current : Status}

theorem Status.predecessors_agent (hflight : status.isInFlight = false)
    (hended : status.isTerminal = false) : status.predecessors .agent = [] := by
  revert hflight hended
  cases status <;> decide

theorem StatusChange.isInFlight_or_isTerminal
    (h : current ∈ allowedFrom ⟨jobId, n, status, .agent⟩) :
    status.isInFlight = true ∨ status.isTerminal = true := by
  by_contra hneither
  obtain ⟨hflight, hended⟩ := not_or.mp hneither
  rw [allowedFrom, if_neg fun hself => hflight hself.2,
    Status.predecessors_agent (Bool.eq_false_iff.mpr hflight) (Bool.eq_false_iff.mpr hended)] at h
  cases h

theorem StatusChange.mem_allowedFrom_self (h : status.isInFlight = true) :
    status ∈ allowedFrom ⟨jobId, n, status, .agent⟩ := by
  rw [allowedFrom, if_pos ⟨rfl, h⟩]
  exact List.mem_append_right _ (List.mem_singleton.mpr rfl)

theorem StatusChange.not_mem_allowedFrom_self (h : status.isTerminal = true) :
    status ∉ allowedFrom ⟨jobId, n, status, .agent⟩ := by
  have hflight : ¬ status.isInFlight = true := by
    revert h
    cases status <;> decide
  rw [allowedFrom, if_neg fun hself => hflight hself.2, List.append_nil, Status.mem_predecessors,
    Status.mover?_of_isTerminal h]
  exact (Option.some_ne_none _).symm

end Reports

/-! ## Signs of life, given twice -/

theorem Job.isInFlight_touched {j : Job} {now : Instant}
    (h : j.status.isInFlight = true ∨ j.status = .zombie) :
    (j.touched now).status.isInFlight = true := by
  show (if j.status = .zombie then Status.running else j.status).isInFlight = true
  split
  next => rfl
  next hother => exact h.resolve_right hother

theorem Job.touched_touched (j : Job) (now : Instant) :
    (j.touched now).touched now = j.touched now := by
  have hrunning : ¬ (j.touched now).status = .zombie := by
    show ¬ (if j.status = .zombie then Status.running else j.status) = .zombie
    split
    next => decide
    next hother => exact hother
  rw [touched, if_neg hrunning]
  rfl

/-! ## The calls, made twice -/

namespace Store

variable {s : Store} {now : Instant} {j : Job} {jobId n : Int} {status : Status}

theorem insertJob_insertJob (s : Store) {j k : Job} (h : k.id = j.id) :
    (s.insertJob j).insertJob k = s.insertJob k := by
  refine SameBut.eq_of_jobs ((sameBut_insertJob s k).symm.trans
    ((sameBut_insertJob s j).trans (sameBut_insertJob _ k))) fun id => ?_
  rw [get?_insertJob, get?_insertJob, get?_insertJob, h]
  split <;> rfl

theorem get?_insertJob_of_get? {k : Job} (hj : s.jobs.get? jobId = some j) (hid : k.id = j.id) :
    (s.insertJob k).jobs.get? jobId = some k := by
  rw [get?_insertJob, hid, if_pos (id_of_get? hj).symm]

theorem miss_of_get? {g : Job → Bool} (hj : s.jobs.get? jobId = some j) (hg : ¬ g j = true) :
    ∀ k, s.jobs.get? jobId = some k → g k = false := by
  intro k hk
  obtain rfl : j = k := Option.some.inj (hj.symm.trans hk)
  exact Bool.eq_false_iff.mpr hg

theorem updateStatus_reported_of_isInFlight (hj : s.jobs.get? jobId = some j)
    (hn : j.resubmission = n) (hflight : status.isInFlight = true) :
    (s.insertJob (j.reported status now)).updateStatus ⟨jobId, n, status, .agent⟩ now =
      (.applied status, s.insertJob (j.reported status now)) := by
  have hj₁ : (s.insertJob (j.reported status now)).jobs.get? jobId =
      some (j.reported status now) := get?_insertJob_of_get? hj rfl
  have hallowed : status ∈ StatusChange.allowedFrom ⟨jobId, n, status, .agent⟩ :=
    StatusChange.mem_allowedFrom_self hflight
  rw [updateStatus_of_hit hj₁ (Job.isHandOut_iff_mem.mpr ⟨hn, hallowed⟩)]
  exact congrArg (Prod.mk _) (insertJob_insertJob s rfl)

theorem updateStatus_reported_of_isTerminal (hj : s.jobs.get? jobId = some j)
    (hn : j.resubmission = n) (hended : status.isTerminal = true) :
    (s.insertJob (j.reported status now)).updateStatus ⟨jobId, n, status, .agent⟩ now =
      (.rejected status, s.insertJob (j.reported status now)) := by
  have hj₁ : (s.insertJob (j.reported status now)).jobs.get? jobId =
      some (j.reported status now) := get?_insertJob_of_get? hj rfl
  have hnot : status ∉ StatusChange.allowedFrom ⟨jobId, n, status, .agent⟩ :=
    StatusChange.not_mem_allowedFrom_self hended
  have hfails := miss_of_get? (g := (·.isHandOut n _)) hj₁ fun hpasses =>
    hnot (Job.isHandOut_iff_mem.mp hpasses).2
  rw [updateStatus_of_miss hfails, hj₁]
  refine congrArg (Prod.mk · _) (if_neg fun hstale => ?_)
  exact bne_iff_ne.mp hstale hn.symm

/-- A report that was taken is taken again if the job is in flight, and
rejected if it ended with it. -/
theorem updateStatus_again {s₁ : Store} {previous : Status}
    (h : s.updateStatus ⟨jobId, n, status, .agent⟩ now = (.applied previous, s₁)) :
    s₁.updateStatus ⟨jobId, n, status, .agent⟩ now =
      (if status.isTerminal then .rejected status else .applied status, s₁) := by
  let change : StatusChange := ⟨jobId, n, status, .agent⟩
  obtain ⟨j, hj, hsame, rfl, hallowed⟩ :=
    ((s.updateStatus_judges change now).applied_iff previous).mp (congrArg Prod.fst h)
  have hn : j.resubmission = n := hsame n rfl
  have hpasses : j.isHandOut n change.allowedFrom = true :=
    Job.isHandOut_iff_mem.mpr ⟨hn, hallowed⟩
  obtain rfl : s.insertJob (j.reported status now) = s₁ :=
    congrArg Prod.snd ((updateStatus_of_hit hj hpasses).symm.trans h)
  split
  next hended => exact updateStatus_reported_of_isTerminal hj hn hended
  next hopen =>
    have hflight : status.isInFlight = true :=
      (StatusChange.isInFlight_or_isTerminal hallowed).resolve_right hopen
    exact updateStatus_reported_of_isInFlight hj hn hflight

theorem touchHeartbeat_again {s₁ : Store} (h : s.touchHeartbeat jobId n now = (true, s₁)) :
    s₁.touchHeartbeat jobId n now = (true, s₁) := by
  have hmade : (s.touchHeartbeat jobId n now).1 = true := congrArg Prod.fst h
  obtain ⟨j, hj, hn, halive⟩ := (s.touchHeartbeat_settles jobId n now).made_iff.mp hmade
  have hpasses : j.isHandOut n Status.accepting = true :=
    Job.isHandOut_iff_mem.mpr ⟨hn, Status.mem_accepting.mpr halive⟩
  obtain rfl : s.insertJob (j.touched now) = s₁ :=
    congrArg Prod.snd ((touchHeartbeat_of_hit hj hpasses).symm.trans h)
  have hj₁ : (s.insertJob (j.touched now)).jobs.get? jobId = some (j.touched now) :=
    get?_insertJob_of_get? hj rfl
  have hflight : (j.touched now).status.isInFlight = true := Job.isInFlight_touched halive
  have hpasses₁ : (j.touched now).isHandOut n Status.accepting = true :=
    Job.isHandOut_iff_mem.mpr ⟨hn, Status.mem_accepting.mpr (.inl hflight)⟩
  rw [touchHeartbeat_of_hit hj₁ hpasses₁, Job.touched_touched, insertJob_insertJob s rfl]

theorem forceStatus_of_status (hj : s.jobs.get? jobId = some j) :
    s.forceStatus jobId j.status = (.rejected j.status, s) := by
  have hmiss := miss_of_get? (g := (·.status.canForce j.status)) hj fun hforce =>
    (Status.canForce_iff.mp hforce).2 rfl
  rw [forceStatus_of_miss hmiss, hj]
  rfl

theorem exists_forced {previous : Status}
    (h : (s.forceStatus jobId status).1 = .applied previous) :
    ∃ j, (s.forceStatus jobId status).2.jobs.get? jobId = some j ∧ j.status = status := by
  have hsettles := s.forceStatus_settles jobId status
  have hmade : (s.forceStatus jobId status).1.isApplied = true := by
    rw [h]
    rfl
  obtain ⟨j, hj, -⟩ := hsettles.made_iff.mp hmade
  refine ⟨j.forced status, ?_, rfl⟩
  rw [(hsettles.changed hmade).jobs, if_pos rfl, hj, Option.map_some]

end Store

/-! ## The commands, sent twice -/

namespace Command

variable {p : Partners} {settings : BrokerSettings} {s : Store}

/-- The commands that may be sent twice: all but requests for work and
lines of traces. -/
def isRetryable : Command → Bool
  | getJobs _ | setJobStatus _ _ _ | heartbeat _ _ | forceJobStatus _ _ => true
  | appendTrace _ _ _ | matchJob _ => false

/-- The reply to a command that was just sent and got this reply: the same,
unless the command put the job where it cannot be put again. -/
def replyAgain : Command → Except CommandError Response → Except CommandError Response
  | setJobStatus _ _ status, .ok (.status jobId .applied) =>
      .ok (.status jobId (if status.isTerminal then .rejected else .applied))
  | forceJobStatus _ _, .ok (.status jobId .applied) => .ok (.status jobId .rejected)
  | _, reply => reply

theorem serve_dispatch (p : Partners) (settings : BrokerSettings) (c : Command) (s : Store) :
    p.serve (c.dispatch settings) s = p.serve (c.execute settings) s := by
  rw [dispatch, Partners.serve_bind]
  rfl

theorem serve_again_of_unchanged {c : Command} (h : (p.serve (c.dispatch settings) s).2 = s) :
    p.serve (c.dispatch settings) (p.serve (c.dispatch settings) s).2 =
      p.serve (c.dispatch settings) s := by
  rw [h]

/-- The second time a command leaves the store as the first one did. -/
def Repeats (p : Partners) (settings : BrokerSettings) (s : Store) (c : Command) : Prop :=
  p.serve (c.dispatch settings) (p.serve (c.dispatch settings) s).2 =
    (c.replyAgain (p.serve (c.dispatch settings) s).1, (p.serve (c.dispatch settings) s).2)

theorem repeats_getJobs (p : Partners) (settings : BrokerSettings) (s : Store) (ids : List Int) :
    (getJobs ids).Repeats p settings s := by
  refine serve_again_of_unchanged ?_
  rw [serve_dispatch, execute, runGetJobs]
  split <;> rfl

theorem repeats_setJobStatus (p : Partners) (settings : BrokerSettings) (s : Store)
    (jobId n : Int) (status : Status) : (setJobStatus jobId n status).Repeats p settings s := by
  let change : StatusChange := ⟨jobId, n, status, .agent⟩
  have hserve : ∀ s, p.serve ((setJobStatus jobId n status).dispatch settings) s =
      (.ok (.status jobId (.ofUpdate (s.updateStatus change p.now).1)),
        (s.updateStatus change p.now).2) := fun _ => rfl
  have hsettles := s.updateStatus_settles change p.now
  rw [Repeats, hserve, hserve]
  cases hverdict : (s.updateStatus change p.now).1 with
  | applied previous =>
    have htaken : s.updateStatus change p.now = (.applied previous, _) := Prod.ext hverdict rfl
    rw [Store.updateStatus_again htaken, StatusResult.ofUpdate, replyAgain]
    split <;> rfl
  | stale current | rejected current | notFound =>
    have hunmade : (s.updateStatus change p.now).1.isApplied = false := by
      rw [hverdict]
      rfl
    rw [hsettles.unchanged hunmade, hverdict, hsettles.unchanged hunmade]
    rfl

theorem repeats_heartbeat (p : Partners) (settings : BrokerSettings) (s : Store)
    (jobId n : Int) : (heartbeat jobId n).Repeats p settings s := by
  have hserve : ∀ s, p.serve ((heartbeat jobId n).dispatch settings) s =
      (.ok (.heartbeat jobId (s.touchHeartbeat jobId n p.now).1),
        (s.touchHeartbeat jobId n p.now).2) := fun _ => rfl
  have hsettles := s.touchHeartbeat_settles jobId n p.now
  rw [Repeats, hserve, hserve]
  cases hmade : (s.touchHeartbeat jobId n p.now).1 with
  | true =>
    have hcounted : s.touchHeartbeat jobId n p.now = (true, _) := Prod.ext hmade rfl
    rw [Store.touchHeartbeat_again hcounted]
    rfl
  | false =>
    rw [hsettles.unchanged hmade, hmade, hsettles.unchanged hmade]
    rfl

/-- The line that a forced status leaves in the trace of its job. -/
def traceForced (s : Store) (jobId : Int) (status : Status) (verdict : StatusUpdate)
    (now : Instant) : Store :=
  if verdict.isApplied then
    s.appendTrace jobId adminTag ("status forced to " ++ status.name) now
  else s

theorem serve_forceJobStatus (p : Partners) (settings : BrokerSettings) (s : Store) (jobId : Int)
    {status : Status} (hfailure : status.isFailure = true) :
    p.serve ((forceJobStatus jobId status).dispatch settings) s =
      (.ok (.status jobId (.ofUpdate (s.forceStatus jobId status).1)),
        traceForced (s.forceStatus jobId status).2 jobId status (s.forceStatus jobId status).1
          p.now) := by
  rw [serve_dispatch, execute, runForce, if_pos hfailure, traceForced]
  show p.serve (if (s.forceStatus jobId status).1.isApplied = true then _ else _)
    (s.forceStatus jobId status).2 = _
  split <;> rfl

theorem repeats_forceJobStatus (p : Partners) (settings : BrokerSettings) (s : Store)
    (jobId : Int) (status : Status) : (forceJobStatus jobId status).Repeats p settings s := by
  by_cases hfailure : status.isFailure = true
  · have hsettles := s.forceStatus_settles jobId status
    cases hverdict : (s.forceStatus jobId status).1 with
    | applied previous =>
      obtain ⟨j, hj, rfl⟩ := Store.exists_forced hverdict
      have hagain := Store.forceStatus_of_status (s := traceForced (s.forceStatus jobId j.status).2
        jobId j.status (.applied previous) p.now) hj
      rw [Repeats, serve_forceJobStatus p settings s jobId hfailure, hverdict,
        serve_forceJobStatus p settings _ jobId hfailure, hagain]
      rfl
    | stale current | rejected current | notFound =>
      have hunmade : (s.forceStatus jobId status).1.isApplied = false := by
        rw [hverdict]
        rfl
      refine (serve_again_of_unchanged ?_).trans ?_
      · rw [serve_forceJobStatus p settings s jobId hfailure, hsettles.unchanged hunmade,
          hverdict]
        rfl
      · rw [serve_forceJobStatus p settings s jobId hfailure, hverdict]
        rfl
  · have hrefused : p.serve ((forceJobStatus jobId status).dispatch settings) s =
        (.error (.invalid (status.name ++ " is not a failure status")), s) := by
      rw [serve_dispatch, execute, runForce, if_neg hfailure]
      rfl
    rw [Repeats, hrefused, hrefused]
    rfl

/-- Each question, report, sign of life and forced status may be sent
twice: the second time leaves the store as the first one did, and is
answered as the first, or told that the job is where it cannot be put
again. -/
theorem retry_leaves_store (p : Partners) (settings : BrokerSettings) (s : Store) {c : Command}
    (hc : c.isRetryable = true) :
    let once := p.serve (c.dispatch settings) s
    let again := p.serve (c.dispatch settings) once.2
    again.2 = once.2 ∧ again.1 = c.replyAgain once.1 := by
  intro once again
  have hrepeats : c.Repeats p settings s := by
    cases c with
    | getJobs ids => exact repeats_getJobs p settings s ids
    | setJobStatus jobId n status => exact repeats_setJobStatus p settings s jobId n status
    | heartbeat jobId n => exact repeats_heartbeat p settings s jobId n
    | forceJobStatus jobId status => exact repeats_forceJobStatus p settings s jobId status
    | appendTrace _ _ _ => exact absurd hc Bool.false_ne_true
    | matchJob _ => exact absurd hc Bool.false_ne_true
  have hagain : again = (c.replyAgain once.1, once.2) := hrepeats
  rw [hagain]
  exact ⟨rfl, rfl⟩

/-- An operator kills a running job twice. -/
theorem retry_leaves_store_of_kill :
    let s := ({} : Store).insertJob (runningJob 7)
    let kill := (forceJobStatus 7 .killed).dispatch {}
    let once := generousPartners.serve kill s
    let again := generousPartners.serve kill once.2
    (forceJobStatus 7 .killed).isRetryable = true ∧ once.1 = .ok (.status 7 .applied) ∧
      again.2 = once.2 ∧ again.1 = .ok (.status 7 .rejected) := by
  intro s kill once again
  obtain ⟨hstore, hreply⟩ :=
    retry_leaves_store generousPartners {} s (c := forceJobStatus 7 .killed) rfl
  exact ⟨rfl, rfl, hstore, hreply⟩

end Command

end GridQueue
