/-
# `GridQueue.Proofs.Store.Verdict` — a change is made or leaves no trace

Three calls change a job that passes a check, and leave the store alone if
none does:

| call             | check on the job                       | what changes              |
| :--------------- | :------------------------------------- | :------------------------ |
| `updateStatus`   | same hand-out, in an allowed status    | status and last heartbeat |
| `touchHeartbeat` | same hand-out, in flight or a zombie   | `Job.touched`             |
| `forceStatus`    | the target is another failure status   | status                    |

`Settles` says so of one call, whatever the check and the change are.  The
verdict on a change that was not made is found by a second look at the
job: `Judges` says which verdict is given when, for a change that names a
hand-out and for one that does not.
-/
import GridQueue.Command.Dispatch
import GridQueue.Proofs.Liveness.Age
import GridQueue.Proofs.Store.Agreement

namespace GridQueue

variable {s s' : Store} {jobId : Int} {now : Instant} {target : Status}

/-! ## Changes of one job -/

/-- One row of a store is another, that of a job, and nothing else is. -/
structure Store.ChangesOnly (s s' : Store) (jobId : Int) (change : Job → Job) : Prop where
  jobs : ∀ id, s'.jobs.get? id =
    if id = jobId then (s.jobs.get? id).map change else s.jobs.get? id
  others : SameBut .jobs s s'

theorem Store.changesOnly_insertJob {j : Job} {change : Job → Job}
    (hj : s.jobs.get? jobId = some j) (hid : (change j).id = j.id) :
    s.ChangesOnly (s.insertJob (change j)) jobId change := by
  refine ⟨fun id => ?_, sameBut_insertJob _ _⟩
  rw [get?_insertJob, hid, id_of_get? hj]
  by_cases h : id = jobId
  · rw [if_pos h, if_pos h, h, hj, Option.map_some]
  · rw [if_neg h, if_neg h]

/-- A change is made if the job is there and passes a check, and then only
this job is changed; if the change is not made, nothing at all is. -/
structure Store.Settles (s : Store) (jobId : Int) (check : Job → Prop) (change : Job → Job)
    (made : Bool) (s' : Store) : Prop where
  made_iff : made = true ↔ ∃ j, s.jobs.get? jobId = some j ∧ check j
  changed : made = true → s.ChangesOnly s' jobId change
  unchanged : made = false → s' = s

section Settles

variable {check : Job → Prop} {change : Job → Job} {g : Job → Bool} {j : Job}

theorem Store.settles_of_hit (hj : s.jobs.get? jobId = some j) (hcheck : check j)
    (hid : (change j).id = j.id) :
    s.Settles jobId check change true (s.insertJob (change j)) where
  made_iff := ⟨fun _ => ⟨j, hj, hcheck⟩, fun _ => rfl⟩
  changed _ := changesOnly_insertJob hj hid
  unchanged h := absurd h (by decide)

theorem Store.settles_of_miss (hmiss : ∀ j, s.jobs.get? jobId = some j → ¬ check j) :
    s.Settles jobId check change false s where
  made_iff := ⟨fun h => absurd h (by decide), fun ⟨j, hj, hcheck⟩ => absurd hcheck (hmiss j hj)⟩
  changed h := absurd h (by decide)
  unchanged _ := rfl

end Settles

/-! ## The verdicts -/

/-- The right verdict on a change of a job, which may name a hand-out and
is allowed from certain statuses: a job that is missing comes before one
that was handed out again, and that before one in another status. -/
structure StatusUpdate.Judges (row : Option Job) (counter : Option Int) (allowed : Status → Prop)
    (verdict : StatusUpdate) : Prop where
  applied_iff : ∀ previous, verdict = .applied previous ↔
    ∃ j, row = some j ∧ (∀ n ∈ counter, j.resubmission = n) ∧ j.status = previous ∧
      allowed previous
  notFound_iff : verdict = .notFound ↔ row = none
  stale_iff : ∀ current, verdict = .stale current ↔
    ∃ j, row = some j ∧ j.resubmission = current ∧ ∃ n ∈ counter, current ≠ n
  rejected_iff : ∀ current, verdict = .rejected current ↔
    ∃ j, row = some j ∧ (∀ n ∈ counter, j.resubmission = n) ∧ j.status = current ∧
      ¬ allowed current

section Judges

variable {counter : Option Int} {allowed : Status → Prop} {j : Job} {n : Int}

theorem StatusUpdate.judges_notFound : Judges none counter allowed .notFound := by
  constructor <;> simp only [reduceCtorEq, false_and, exists_false, implies_true]

theorem StatusUpdate.not_stale_of_counter (hcounter : ∀ n ∈ counter, j.resubmission = n)
    {current : Int} :
    ¬ ∃ k, some j = some k ∧ k.resubmission = current ∧ ∃ n ∈ counter, current ≠ n := by
  rintro ⟨_, ⟨⟩, rfl, n, hn, hne⟩
  exact absurd (hcounter n hn) hne

theorem StatusUpdate.judges_applied (hcounter : ∀ n ∈ counter, j.resubmission = n)
    (hallowed : allowed j.status) : Judges (some j) counter allowed (.applied j.status) where
  applied_iff previous := by
    constructor
    · rintro ⟨⟩
      exact ⟨j, rfl, hcounter, rfl, hallowed⟩
    · rintro ⟨_, ⟨⟩, -, rfl, -⟩
      rfl
  notFound_iff := by simp only [reduceCtorEq]
  stale_iff _ := iff_of_false nofun (not_stale_of_counter hcounter)
  rejected_iff current := by
    refine ⟨fun h => (nomatch h), ?_⟩
    rintro ⟨_, ⟨⟩, -, rfl, hnot⟩
    exact absurd hallowed hnot

theorem StatusUpdate.judges_rejected (hcounter : ∀ n ∈ counter, j.resubmission = n)
    (hnot : ¬ allowed j.status) : Judges (some j) counter allowed (.rejected j.status) where
  applied_iff previous := by
    refine ⟨fun h => (nomatch h), ?_⟩
    rintro ⟨_, ⟨⟩, -, rfl, hallowed⟩
    exact absurd hallowed hnot
  notFound_iff := by simp only [reduceCtorEq]
  stale_iff _ := iff_of_false nofun (not_stale_of_counter hcounter)
  rejected_iff current := by
    constructor
    · rintro ⟨⟩
      exact ⟨j, rfl, hcounter, rfl, hnot⟩
    · rintro ⟨_, ⟨⟩, -, rfl, -⟩
      rfl

theorem StatusUpdate.judges_stale (hn : n ∈ counter) (hne : j.resubmission ≠ n) :
    Judges (some j) counter allowed (.stale j.resubmission) where
  applied_iff previous := by
    refine ⟨fun h => (nomatch h), ?_⟩
    rintro ⟨_, ⟨⟩, hsame, -⟩
    exact absurd (hsame n hn) hne
  notFound_iff := by simp only [reduceCtorEq]
  stale_iff current := by
    constructor
    · rintro ⟨⟩
      exact ⟨j, rfl, rfl, n, hn, hne⟩
    · rintro ⟨_, ⟨⟩, rfl, -⟩
      rfl
  rejected_iff current := by
    refine ⟨fun h => (nomatch h), ?_⟩
    rintro ⟨_, ⟨⟩, hsame, -⟩
    exact absurd (hsame n hn) hne

/-- The second look finds the right verdict on a change that no job
passed. -/
theorem StatusUpdate.judges_missed {row : Option Job}
    (hmiss : ∀ j, row = some j → (∀ n ∈ counter, j.resubmission = n) → ¬ allowed j.status) :
    Judges row counter allowed (.missed counter row) := by
  cases row with
  | none => exact judges_notFound
  | some j =>
    rw [missed]
    split
    next hstale =>
      obtain ⟨n, hn, hne⟩ := (Option.any_eq_true _ _).mp hstale
      exact judges_stale hn (Ne.symm (bne_iff_ne.mp hne))
    next hsame =>
      have hcounter : ∀ n ∈ counter, j.resubmission = n := by
        intro n hn
        by_contra hne
        exact hsame ((Option.any_eq_true _ _).mpr ⟨n, hn, bne_iff_ne.mpr (Ne.symm hne)⟩)
      exact judges_rejected hcounter (hmiss j rfl hcounter)

end Judges

/-! ## The three calls -/

def Job.reported (j : Job) (status : Status) (now : Instant) : Job :=
  { j with status, lastHeartbeat := some now }

def Job.forced (j : Job) (status : Status) : Job := { j with status }

theorem Job.isHandOut_iff_mem {j : Job} {n : Int} {statuses : List Status} :
    j.isHandOut n statuses = true ↔ j.resubmission = n ∧ j.status ∈ statuses := by
  rw [isHandOut_iff, List.contains_iff_mem]

theorem Status.mem_accepting {status : Status} :
    status ∈ accepting ↔ status.isInFlight = true ∨ status = .zombie := by
  cases status <;> decide

theorem Status.canForce_iff {status : Status} :
    status.canForce target = true ↔ target.isFailure = true ∧ status ≠ target := by
  rw [canForce, Bool.and_eq_true, bne_iff_ne]

theorem StatusUpdate.isApplied_missed (counter : Option Int) (row : Option Job) :
    (missed counter row).isApplied = false := by
  cases row with
  | none => rfl
  | some j =>
    rw [missed]
    split <;> rfl

namespace Store

theorem not_of_miss {check : Job → Prop} {g : Job → Bool} (hg : ∀ j, g j = true ↔ check j)
    (hfails : ∀ j, s.jobs.get? jobId = some j → g j = false) (j : Job)
    (hj : s.jobs.get? jobId = some j) : ¬ check j := by
  rw [← hg, hfails j hj]
  exact Bool.false_ne_true

theorem updateStatus_settles (s : Store) (c : StatusChange) (now : Instant) :
    s.Settles c.jobId (fun j => j.resubmission = c.resubmission ∧ j.status ∈ c.allowedFrom)
      (·.reported c.status now) (s.updateStatus c now).1.isApplied (s.updateStatus c now).2 := by
  rcases s.hit_or_miss c.jobId (·.isHandOut c.resubmission c.allowedFrom) with
    ⟨j, hj, hpasses⟩ | hfails
  · rw [updateStatus_of_hit hj hpasses]
    exact settles_of_hit hj (Job.isHandOut_iff_mem.mp hpasses) rfl
  · rw [updateStatus_of_miss hfails, StatusUpdate.isApplied_missed]
    exact settles_of_miss (not_of_miss (fun _ => Job.isHandOut_iff_mem) hfails)

theorem updateStatus_judges (s : Store) (c : StatusChange) (now : Instant) :
    StatusUpdate.Judges (s.jobs.get? c.jobId) (some c.resubmission) (· ∈ c.allowedFrom)
      (s.updateStatus c now).1 := by
  rcases s.hit_or_miss c.jobId (·.isHandOut c.resubmission c.allowedFrom) with
    ⟨j, hj, hpasses⟩ | hfails
  · obtain ⟨hsame, hallowed⟩ := Job.isHandOut_iff_mem.mp hpasses
    rw [updateStatus_of_hit hj hpasses, hj]
    refine StatusUpdate.judges_applied ?_ hallowed
    rintro _ ⟨⟩
    exact hsame
  · rw [updateStatus_of_miss hfails]
    refine StatusUpdate.judges_missed fun j hj hsame hallowed => ?_
    exact not_of_miss (fun _ => Job.isHandOut_iff_mem) hfails j hj ⟨hsame _ rfl, hallowed⟩

theorem touchHeartbeat_settles (s : Store) (jobId n : Int) (now : Instant) :
    s.Settles jobId
      (fun j => j.resubmission = n ∧ (j.status.isInFlight = true ∨ j.status = .zombie))
      (·.touched now) (s.touchHeartbeat jobId n now).1 (s.touchHeartbeat jobId n now).2 := by
  have hcheck : ∀ j : Job, j.isHandOut n Status.accepting = true ↔
      j.resubmission = n ∧ (j.status.isInFlight = true ∨ j.status = .zombie) := fun j => by
    rw [Job.isHandOut_iff_mem, Status.mem_accepting]
  rcases s.hit_or_miss jobId (·.isHandOut n Status.accepting) with ⟨j, hj, hpasses⟩ | hfails
  · rw [touchHeartbeat_of_hit hj hpasses]
    exact settles_of_hit hj ((hcheck j).mp hpasses) rfl
  · rw [touchHeartbeat_of_miss hfails]
    exact settles_of_miss (not_of_miss hcheck hfails)

theorem forceStatus_settles (s : Store) (jobId : Int) (target : Status) :
    s.Settles jobId (fun j => target.isFailure = true ∧ j.status ≠ target) (·.forced target)
      (s.forceStatus jobId target).1.isApplied (s.forceStatus jobId target).2 := by
  rcases s.hit_or_miss jobId (·.status.canForce target) with ⟨j, hj, hforce⟩ | hmiss
  · rw [forceStatus_of_hit hj hforce]
    exact settles_of_hit hj (Status.canForce_iff.mp hforce) rfl
  · rw [forceStatus_of_miss hmiss, StatusUpdate.isApplied_missed]
    exact settles_of_miss (not_of_miss (fun _ => Status.canForce_iff) hmiss)

theorem forceStatus_judges (s : Store) (jobId : Int) (target : Status) :
    StatusUpdate.Judges (s.jobs.get? jobId) none
      (fun status => target.isFailure = true ∧ status ≠ target) (s.forceStatus jobId target).1 := by
  rcases s.hit_or_miss jobId (·.status.canForce target) with ⟨j, hj, hforce⟩ | hmiss
  · rw [forceStatus_of_hit hj hforce, hj]
    exact StatusUpdate.judges_applied (fun _ h => nomatch h) (Status.canForce_iff.mp hforce)
  · rw [forceStatus_of_miss hmiss]
    exact StatusUpdate.judges_missed fun j hj _ =>
      not_of_miss (fun _ => Status.canForce_iff) hmiss j hj

end Store

/-! ## Agents that were superseded -/

/-- A report for another hand-out than the last changes nothing, and its
sender is told that it is late. -/
theorem Command.serve_setJobStatus_of_stale (p : Partners) (settings : BrokerSettings) {n : Int}
    {j : Job} (hj : s.jobs.get? jobId = some j) (hother : j.resubmission ≠ n) :
    p.serve ((Command.setJobStatus jobId n target).dispatch settings) s =
      (.ok (.status jobId .stale), s) := by
  let change : StatusChange := ⟨jobId, n, target, .agent⟩
  have hverdict : (s.updateStatus change p.now).1 = .stale j.resubmission :=
    ((s.updateStatus_judges change p.now).stale_iff _).mpr ⟨j, hj, rfl, n, rfl, hother⟩
  have hunmade : (s.updateStatus change p.now).1.isApplied = false := by
    rw [hverdict]
    rfl
  have hstore : (s.updateStatus change p.now).2 = s :=
    (s.updateStatus_settles change p.now).unchanged hunmade
  show (Except.ok (Response.status jobId (.ofUpdate (s.updateStatus change p.now).1)),
    (s.updateStatus change p.now).2) = _
  rw [hverdict, hstore]
  rfl

/-- A sign of life for another hand-out than the last changes nothing, and
its sender is told that it does not count. -/
theorem Command.serve_heartbeat_of_stale (p : Partners) (settings : BrokerSettings) {n : Int}
    {j : Job} (hj : s.jobs.get? jobId = some j) (hother : j.resubmission ≠ n) :
    p.serve ((Command.heartbeat jobId n).dispatch settings) s =
      (.ok (.heartbeat jobId false), s) := by
  have hsettles := s.touchHeartbeat_settles jobId n p.now
  have hunmade : (s.touchHeartbeat jobId n p.now).1 = false := by
    rw [Bool.eq_false_iff]
    intro hmade
    obtain ⟨k, hk, hsame, -⟩ := hsettles.made_iff.mp hmade
    obtain rfl : j = k := Option.some.inj (hj.symm.trans hk)
    exact hother hsame
  have hstore : (s.touchHeartbeat jobId n p.now).2 = s := hsettles.unchanged hunmade
  show (Except.ok (Response.heartbeat jobId (s.touchHeartbeat jobId n p.now).1),
    (s.touchHeartbeat jobId n p.now).2) = _
  rw [hunmade, hstore]

/-- Each of the three changes is made to the one job that passes its check
or leaves no trace, and the verdict is right.  So an agent whose job was
handed out again changes nothing, and is told so. -/
theorem unmade_changes_leave_no_trace (s : Store) (jobId n : Int) (target : Status)
    (actor : Actor) (now : Instant) :
    let change : StatusChange := ⟨jobId, n, target, actor⟩
    let updated := s.updateStatus change now
    let touched := s.touchHeartbeat jobId n now
    let forced := s.forceStatus jobId target
    (s.Settles jobId (fun j => j.resubmission = n ∧ j.status ∈ change.allowedFrom)
        (·.reported target now) updated.1.isApplied updated.2 ∧
      StatusUpdate.Judges (s.jobs.get? jobId) (some n) (· ∈ change.allowedFrom) updated.1) ∧
    s.Settles jobId
      (fun j => j.resubmission = n ∧ (j.status.isInFlight = true ∨ j.status = .zombie))
      (·.touched now) touched.1 touched.2 ∧
    (s.Settles jobId (fun j => target.isFailure = true ∧ j.status ≠ target) (·.forced target)
        forced.1.isApplied forced.2 ∧
      StatusUpdate.Judges (s.jobs.get? jobId) none
        (fun status => target.isFailure = true ∧ status ≠ target) forced.1) ∧
    ∀ (p : Partners) (settings : BrokerSettings) (j : Job), s.jobs.get? jobId = some j →
      j.resubmission ≠ n →
      p.serve ((Command.setJobStatus jobId n target).dispatch settings) s =
        (.ok (.status jobId .stale), s) ∧
      p.serve ((Command.heartbeat jobId n).dispatch settings) s =
        (.ok (.heartbeat jobId false), s) := by
  intro change updated touched forced
  refine ⟨⟨s.updateStatus_settles change now, s.updateStatus_judges change now⟩,
    s.touchHeartbeat_settles jobId n now,
    ⟨s.forceStatus_settles jobId target, s.forceStatus_judges jobId target⟩, ?_⟩
  intro p settings j hj hother
  exact ⟨Command.serve_setJobStatus_of_stale p settings hj hother,
    Command.serve_heartbeat_of_stale p settings hj hother⟩

/-- The first agent of a job that was handed out twice reports once more. -/
theorem unmade_changes_leave_no_trace_of_late_report :
    let j := { runningJob 7 with resubmission := 2 }
    let s := ({} : Store).insertJob j
    s.jobs.get? 7 = some j ∧ j.resubmission ≠ 1 ∧
      generousPartners.serve ((Command.setJobStatus 7 1 .done).dispatch {}) s =
        (.ok (.status 7 .stale), s) := by
  intro j s
  have hj : s.jobs.get? 7 = some j := Store.get?_insertJob
  have hother : j.resubmission ≠ 1 := by decide
  obtain ⟨-, -, -, hlate⟩ := unmade_changes_leave_no_trace s 7 1 .done .agent ⟨0, false⟩
  exact ⟨hj, hother, (hlate generousPartners {} j hj hother).1⟩

end GridQueue
