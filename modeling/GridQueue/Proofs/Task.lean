/-
# `GridQueue.Proofs.Task` — what is asked of the broker, and which calls it makes

A task is a request for work, a command of the front door, a sweep or a
batch.  Each is a program of the broker; any number of them share a store
and take turns at its calls.

    request, command `matchJob`    the stages of a request for work
    other commands                 one call of the store, and a trace
    sweep, cycle                   stale jobs, moves of silent jobs, a marker
    batch, batchIfDue              records, their weights, a marker

`Task.follows` says that a task makes no other calls, and `Task.actor?`
who it is that moves jobs by them.

Each kind of task has a predicate `Calls` for the calls it may make, with
a lemma that its program makes no others.  Only requests for work go
through stages; the rest stay at one, and `Task.Moves` treats them alike.
So an invariant of runs has two cases, a call of a request at its stage and
one of the calls in the lists above.
-/
import GridQueue.Command.Dispatch
import GridQueue.FairShare.Batch
import GridQueue.Liveness
import GridQueue.Proofs.Matching.Stage

namespace GridQueue

open Program

/-! ## Sweeps -/

namespace Liveness

/-- The calls of a sweep at an instant. -/
inductive Calls (settings : LivenessSettings) (now : Instant) : Call → Prop
  | stopwatch : Calls settings now .stopwatch
  | note {event} : Calls settings now (.note event)
  | silent {cutoff expiry} : cutoffs settings now = .ok (cutoff, expiry) →
      Calls settings now (.store (.staleJobs Status.inFlight cutoff))
  | giveUp {cutoff expiry jobId} : cutoffs settings now = .ok (cutoff, expiry) →
      Calls settings now (.store (.transitionIfStale jobId Status.inFlight .zombie cutoff))
  | zombies {cutoff expiry} : cutoffs settings now = .ok (cutoff, expiry) →
      Calls settings now (.store (.staleJobs [.zombie] expiry))
  | expire {cutoff expiry jobId} : cutoffs settings now = .ok (cutoff, expiry) →
      Calls settings now (.store (.transitionIfStale jobId [.zombie] .expired expiry))

variable {kind : Call → Prop} {sources : List Status} {target : Status} {cutoff : Instant}

theorem move_only (hnote : ∀ event, kind (.note event))
    (hmove : ∀ id, kind (.store (.transitionIfStale id sources target cutoff)))
    (counts : PassCounts) (job : StaleJob) :
    (move sources target cutoff counts job).Only kind := by
  refine ⟨hmove _, ?_⟩
  intro answer
  match answer with
  | .ok true => exact ⟨hnote _, fun _ => trivial⟩
  | .ok false => exact ⟨hnote _, fun _ => trivial⟩
  | .error _ => exact trivial

theorem moveAll_only (hnote : ∀ event, kind (.note event))
    (hmove : ∀ id, kind (.store (.transitionIfStale id sources target cutoff))) :
    ∀ (counts : PassCounts) (jobs : List StaleJob),
      (moveAll sources target cutoff counts jobs).Only kind
  | _, [] => trivial
  | counts, job :: rest =>
      (move_only hnote hmove counts job).bind fun counts => moveAll_only hnote hmove counts rest

theorem pass_only (hnote : ∀ event, kind (.note event))
    (hstale : kind (.store (.staleJobs sources cutoff)))
    (hmove : ∀ id, kind (.store (.transitionIfStale id sources target cutoff))) :
    (pass sources target cutoff).Only kind := by
  refine ⟨hstale, ?_⟩
  intro answer
  cases answer with
  | ok candidates => exact (moveAll_only hnote hmove _ _).bind fun _ => trivial
  | error e => exact trivial

theorem passes_only {settings : LivenessSettings} {now cutoff expiry : Instant}
    (h : cutoffs settings now = .ok (cutoff, expiry)) :
    (passes cutoff expiry).Only (Calls settings now) := by
  refine (pass_only (fun _ => .note) (.silent h) fun _ => .giveUp h).bind ?_
  intro zombie
  cases zombie with
  | error e => exact trivial
  | ok zombie =>
      refine (pass_only (fun _ => .note) (.zombies h) fun _ => .expire h).bind ?_
      intro expired
      cases expired with
      | error e => exact trivial
      | ok expired => exact trivial

theorem sweep_only (settings : LivenessSettings) (now : Instant) :
    (sweep settings now).Only (Calls settings now) := by
  refine ⟨.stopwatch, ?_⟩
  intro started
  dsimp only
  split
  · exact trivial
  · next cutoff expiry h =>
    refine (passes_only h).bind ?_
    intro result
    cases result with
    | error e => exact trivial
    | ok counts => exact ⟨.stopwatch, fun _ => ⟨.note, fun _ => trivial⟩⟩

/-- The calls of a cycle: a marker, and a sweep at the instant read
first. -/
inductive CycleCalls (settings : LivenessSettings) : Call → Prop
  | now : CycleCalls settings .now
  | marker {owner now} : CycleCalls settings
      (.store (.acquireMarker markerName owner (Marker.minAge settings.interval) now))
  | sweep {now c} : Calls settings now c → CycleCalls settings c

theorem cycle_only (settings : LivenessSettings) (owner : String) :
    (cycle settings owner).Only (CycleCalls settings) := by
  refine ⟨.now, fun now => ⟨.marker, ?_⟩⟩
  intro answer
  match answer with
  | .error _ => exact trivial
  | .ok false => exact trivial
  | .ok true => exact (sweep_only settings now).mono fun _ h => .sweep h

end Liveness

/-! ## Batches -/

namespace FairShare

/-- The calls of a batch. -/
inductive Calls : Call → Prop
  | now : Calls .now
  | stopwatch : Calls .stopwatch
  | note {event} : Calls (.note event)
  | marker {owner interval now} :
      Calls (.store (.acquireMarker markerName owner (Marker.minAge interval) now))
  | records {scope} : Calls (.store (.priorityRecords scope))
  | write {user userload weight} : Calls (.store (.updatePriority user userload weight))

section Batch

variable {kind : Call → Prop}

theorem writeWeight_only (hstop : kind .stopwatch) (hnote : ∀ event, kind (.note event))
    (hwrite : ∀ user userload weight, kind (.store (.updatePriority user userload weight)))
    (report : BatchReport) (r : Record) : (writeWeight report r).Only kind := by
  refine ⟨hstop, fun _ => ⟨hwrite _ _ _, fun result => ⟨hstop, ?_⟩⟩⟩
  intro _
  cases result with
  | ok _ => exact ⟨hnote _, fun _ => trivial⟩
  | error _ => exact ⟨hnote _, fun _ => trivial⟩

theorem writeWeights_only (hstop : kind .stopwatch) (hnote : ∀ event, kind (.note event))
    (hwrite : ∀ user userload weight, kind (.store (.updatePriority user userload weight))) :
    ∀ (report : BatchReport) (records : List Record), (writeWeights report records).Only kind
  | _, [] => trivial
  | report, r :: rest =>
      (writeWeight_only hstop hnote hwrite report r).bind fun report =>
        writeWeights_only hstop hnote hwrite report rest

theorem only_batch (hstop : kind .stopwatch) (hnote : ∀ event, kind (.note event))
    (hrecords : ∀ scope, kind (.store (.priorityRecords scope)))
    (hwrite : ∀ user userload weight, kind (.store (.updatePriority user userload weight)))
    (scope : Scope) : (batch scope).Only kind := by
  refine ⟨hstop, fun _ => ⟨hrecords _, ?_⟩⟩
  intro answer
  cases answer with
  | error e => exact trivial
  | ok records =>
      refine (writeWeights_only hstop hnote hwrite _ records).bind ?_
      intro report
      exact ⟨hstop, fun _ => ⟨hnote _, fun _ => trivial⟩⟩

end Batch

theorem batch_only (scope : Scope) : (batch scope).Only Calls :=
  only_batch .stopwatch (fun _ => .note) (fun _ => .records) (fun _ _ _ => .write) scope

theorem batchIfDue_only (scope : Scope) (owner : String) (interval : Span) :
    (batchIfDue scope owner interval).Only Calls := by
  refine ⟨.now, fun now => ⟨.marker, ?_⟩⟩
  intro answer
  match answer with
  | .error _ => exact trivial
  | .ok false => exact trivial
  | .ok true =>
      refine (batch_only scope).bind ?_
      intro report
      cases report with
      | error e => exact trivial
      | ok report => exact trivial

end FairShare

/-! ## Commands -/

namespace Command

/-- The calls of a command that asks for no work. -/
inductive Calls : Command → Call → Prop
  | note {c event} : Calls c (.note event)
  | getJobs {ids} : Calls (getJobs ids) (.store (.getJobs ids))
  | report {jobId resubmission status} : Calls (setJobStatus jobId resubmission status)
      (.store (.updateStatus ⟨jobId, resubmission, status, .agent⟩))
  | heartbeat {jobId resubmission} :
      Calls (heartbeat jobId resubmission) (.store (.touchHeartbeat jobId resubmission))
  | trace {jobId tag message} :
      Calls (appendTrace jobId tag message) (.store (.appendTrace jobId tag message))
  | force {jobId} {status : Status} : status.isFailure = true →
      Calls (forceJobStatus jobId status) (.store (.forceStatus jobId status))
  | traceForce {jobId status message} :
      Calls (forceJobStatus jobId status) (.store (.appendTrace jobId adminTag message))

theorem runGetJobs_only (ids : List Int) : (runGetJobs ids).Only (Calls (getJobs ids)) := by
  unfold runGetJobs
  split
  · exact ⟨.getJobs, fun _ => trivial⟩
  · exact trivial

theorem runAppendTrace_only (jobId : Int) (tag message : String) :
    (runAppendTrace jobId tag message).Only (Calls (appendTrace jobId tag message)) := by
  unfold runAppendTrace
  split
  · exact trivial
  · exact ⟨.trace, fun _ => trivial⟩

theorem runForce_only (jobId : Int) (status : Status) :
    (runForce jobId status).Only (Calls (forceJobStatus jobId status)) := by
  unfold runForce
  split
  · next h =>
    refine ⟨.force h, ?_⟩
    intro answer
    cases answer with
    | error e => exact trivial
    | ok update =>
        change Only _ (if StatusUpdate.isApplied update then _ else _)
        split
        · exact ⟨.traceForce, fun _ => trivial⟩
        · exact trivial
  · exact trivial

/-- The request for work in a command, if it is one. -/
def request? : Command → Option Matching.Request
  | matchJob request => some request
  | getJobs _ | setJobStatus _ _ _ | heartbeat _ _ | appendTrace _ _ _ | forceJobStatus _ _ => none

theorem dispatch_only (settings : BrokerSettings) (c : Command) (h : c.request? = none) :
    (c.dispatch settings).Only (Calls c) := by
  refine Only.bind ?_ fun result => ⟨.note, fun _ => trivial⟩
  cases c with
  | getJobs ids => exact runGetJobs_only ids
  | setJobStatus jobId resubmission status => exact ⟨.report, fun _ => trivial⟩
  | heartbeat jobId resubmission => exact ⟨.heartbeat, fun _ => trivial⟩
  | appendTrace jobId tag message => exact runAppendTrace_only jobId tag message
  | matchJob request => cases h
  | forceJobStatus jobId status => exact runForce_only jobId status

end Command

/-! ## Tasks -/

/-- Calls that are made for requests for work only. -/
def Call.servesRequest : Call → Bool
  | .store (.claimWaiting _ _) | .store (.decrement _ _) | .issue _ | .revoke _ => true
  | _ => false

/-- What is asked of the broker. -/
inductive Task
  | request (settings : BrokerSettings) (request : Matching.Request)
  | command (settings : BrokerSettings) (c : Command)
  | sweep (settings : LivenessSettings) (now : Instant)
  | cycle (settings : LivenessSettings) (owner : String)
  | batch (scope : Scope)
  | batchIfDue (scope : Scope) (owner : String) (interval : Span)

namespace Task

def Result : Task → Type
  | request _ _ => Except BrokerError Matching.Outcome
  | command _ _ => Except CommandError Response
  | sweep _ _ | cycle _ _ => Except StoreError Liveness.Report
  | batch _ => Except StoreError FairShare.BatchReport
  | batchIfDue _ _ _ => Except StoreError (Option FairShare.BatchReport)

instance (settings : BrokerSettings) (r : Matching.Request) :
    DecidableEq (request settings r).Result :=
  inferInstanceAs (DecidableEq (Except BrokerError Matching.Outcome))

def program : (t : Task) → Action t.Result
  | request settings r => Matching.matchJob settings r
  | command settings c => c.dispatch settings
  | sweep settings now => Liveness.sweep settings now
  | cycle settings owner => Liveness.cycle settings owner
  | batch scope => FairShare.batch scope
  | batchIfDue scope owner interval => FairShare.batchIfDue scope owner interval

/-- Who moves jobs by the calls of a task; an operator who forces a
status is none of the movers. -/
def actor? : Task → Option Actor
  | request _ _ | command _ (.matchJob _) => some .broker
  | command _ (.setJobStatus _ _ _) | command _ (.heartbeat _ _) => some .agent
  | sweep _ _ | cycle _ _ => some .monitor
  | command _ (.getJobs _) | command _ (.appendTrace _ _ _) | command _ (.forceJobStatus _ _)
  | batch _ | batchIfDue _ _ _ => none

/-- The request for work in a task, if it is one, and the settings under
which it is served. -/
def request? : Task → Option (BrokerSettings × Matching.Request)
  | request settings r | command settings (.matchJob r) => some (settings, r)
  | command _ (.getJobs _) | command _ (.setJobStatus _ _ _) | command _ (.heartbeat _ _)
  | command _ (.appendTrace _ _ _) | command _ (.forceJobStatus _ _)
  | sweep _ _ | cycle _ _ | batch _ | batchIfDue _ _ _ => none

/-- The outcome of the request for work in a task, if it has one. -/
def outcome? : (t : Task) → t.Result → Option Matching.Outcome
  | request _ _, .ok outcome => some outcome
  | command _ (.matchJob _), .ok (.matched _ _ outcome) => some outcome
  | _, _ => none

/-- The calls of a task that asks for no work. -/
def Calls : Task → Call → Prop
  | request _ _, _ => False
  | command _ asked, c => asked.Calls c
  | sweep settings now, c => Liveness.Calls settings now c
  | cycle settings _, c => Liveness.CycleCalls settings c
  | batch _, c | batchIfDue _ _ _, c => FairShare.Calls c

/-- The protocol of a task: the stages of its request for work, or else
its calls, at a stage that stays as it is. -/
def Moves (t : Task) (m : Matching.Stage) (c : Call) (a : c.Answer) (m' : Matching.Stage) : Prop :=
  match t.request? with
  | some (settings, r) => Matching.Stage.Moves settings r m c a m'
  | none => t.Calls c ∧ m' = m

theorem Calls.servesRequest_eq_false {t : Task} {c : Call} (h : t.Calls c) :
    c.servesRequest = false := by
  cases t with
  | request => exact h.elim
  | command => cases h <;> rfl
  | sweep => cases h <;> rfl
  | cycle =>
      cases h with
      | now | marker => rfl
      | sweep h => cases h <;> rfl
  | batch | batchIfDue => cases h <;> rfl

/-- A task moves as its request for work does, or else stays where it is. -/
theorem Moves.stage_or_stays {t : Task} {m m' : Matching.Stage} {c : Call} {a : c.Answer}
    (h : t.Moves m c a m') :
    (∃ settings r, Matching.Stage.Moves settings r m c a m') ∨ (t.Calls c ∧ m' = m) := by
  unfold Moves at h
  split at h
  · exact .inl ⟨_, _, h⟩
  · exact .inr h

/-- The stage of a task that has not begun. -/
def first (t : Task) : Matching.Stage :=
  match t.request? with
  | some (_, r) => .first r
  | none => .arriving

theorem claimed?_first (t : Task) : t.first.claimed? = none := by
  unfold first
  split
  · next settings r _ =>
    unfold Matching.Stage.first
    cases r.flaw? <;> rfl
  · rfl

/-- A request for work ends with the answer it is settled with. -/
def Ends : (t : Task) → Matching.Stage → t.Result → Prop
  | request _ _, m, result => m.result? = some result
  | command _ _, _, _ | sweep _ _, _, _ | cycle _ _, _, _ | batch _, _, _
  | batchIfDue _ _ _, _, _ => True

theorem exists_request {t : Task} {result : t.Result} {outcome : Matching.Outcome}
    (h : t.outcome? result = some outcome) : ∃ settings r, t.request? = some (settings, r) := by
  unfold outcome? at h
  split at h
  · exact ⟨_, _, rfl⟩
  · exact ⟨_, _, rfl⟩
  · cases h

/-- The request for work in a task is settled, with the outcome of the task
if there is one. -/
def Settles (t : Task) (m : Matching.Stage) (result : t.Result) : Prop :=
  m.result? ≠ none ∧ ∀ outcome, t.outcome? result = some outcome → m.result? = some (.ok outcome)

theorem dispatch_follows {settings : BrokerSettings} {r : Matching.Request} :
    ((Command.matchJob r).dispatch settings).Follows (Matching.Stage.Moves settings r)
      (command settings (.matchJob r)).Settles (.first r) := by
  refine Matching.keeps_bind.mpr (Matching.keeps_bind.mpr ?_)
  refine Matching.matchJob_follows.mono ?_
  intro m result h
  have hresult : m.result? = some result := h
  have hsettled : m.result? ≠ none := by
    rw [hresult]
    exact Option.some_ne_none _
  cases result with
  | ok outcome =>
      refine fun _ => ⟨_, .note, hsettled, ?_⟩
      rintro _ ⟨⟩
      exact hresult
  | error e => exact fun _ => ⟨_, .note, hsettled, nofun⟩

theorem follows (t : Task) : t.program.Follows t.Moves t.Ends t.first := by
  cases t with
  | request settings r => exact Matching.matchJob_follows
  | command settings c =>
      cases c with
      | matchJob r => exact dispatch_follows.mono fun _ _ _ => trivial
      | getJobs ids => exact (Command.dispatch_only settings _ rfl).follows _
      | setJobStatus jobId n status => exact (Command.dispatch_only settings _ rfl).follows _
      | heartbeat jobId n => exact (Command.dispatch_only settings _ rfl).follows _
      | appendTrace jobId tag text => exact (Command.dispatch_only settings _ rfl).follows _
      | forceJobStatus jobId status => exact (Command.dispatch_only settings _ rfl).follows _
  | sweep settings now => exact (Liveness.sweep_only settings now).follows _
  | cycle settings owner => exact (Liveness.cycle_only settings owner).follows _
  | batch scope => exact (FairShare.batch_only scope).follows _
  | batchIfDue scope owner interval =>
      exact (FairShare.batchIfDue_only scope owner interval).follows _

/-- A task that asks for work is done when its request is settled. -/
theorem follows_settled (t : Task) :
    t.program.Follows t.Moves (fun m result => t.request? ≠ none → t.Settles m result) t.first := by
  cases t with
  | request settings r =>
      refine Matching.matchJob_follows.mono ?_
      intro m result h _
      have hresult : m.result? = some result := h
      refine ⟨by rw [hresult]; exact Option.some_ne_none _, ?_⟩
      intro outcome houtcome
      cases result with
      | ok _ =>
          cases houtcome
          exact hresult
      | error _ => cases houtcome
  | command settings c =>
      cases c with
      | matchJob r => exact dispatch_follows.mono fun _ _ h _ => h
      | _ => exact (follows _).mono fun _ _ _ h => absurd rfl h
  | _ => exact (follows _).mono fun _ _ _ h => absurd rfl h

end Task

/-- Tasks that have not begun, on a store. -/
def Task.threads {ι σ : Type} (tasks : ι → Task) (s : σ) :
    Threads ι Call Call.Answer (fun i => (tasks i).Result) σ :=
  ⟨s, fun i => (tasks i).program⟩

/-- Every event of a run of tasks is an answer of the world and a move of
its task. -/
theorem Task.run_event {ι σ : Type} [DecidableEq ι] {W : World Call Call.Answer σ}
    {tasks : ι → Task} {s : σ} {es : List (Event ι Call Call.Answer σ)}
    {t : Threads ι Call Call.Answer (fun i => (tasks i).Result) σ}
    (h : Run W (Task.threads tasks s) es t) :
    ∀ e ∈ es, W e.call e.before e.answer e.after ∧
      ∃ m m', (tasks e.thread).Moves m e.call e.answer m' :=
  h.event (fun i => (tasks i).Moves) (fun i => (tasks i).Ends) (fun i => (tasks i).first)
    fun i => (tasks i).follows

end GridQueue
