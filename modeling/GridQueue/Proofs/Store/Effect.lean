/-
# `GridQueue.Proofs.Store.Effect` — what a call of the store changes

A call writes at most one table (`StoreCall.writes`); the others stay as
they are (`perform_same`).  What it may do to a job is one of six
changes:

    claim       waiting job of the aggregate    assigned, counted up
    report      same hand-out, allowed status   the status reported
    heartbeat   same hand-out, in flight        heard from now
    revival     same hand-out, zombie           running, heard from now
    force       another failure status          that status
    giving up   stale                           the status it is given

`perform_job` says that every job is left alone or changed in one of these
ways, and that none appears or vanishes.  All that is known of jobs over a
run comes from here.
-/
import GridQueue.Store.Memory

namespace GridQueue

/-- A table of the store. -/
inductive Part
  | jobs
  | aggregates
  | records
  | queues
  | traces
  | markers
  deriving DecidableEq

def StoreCall.writes : StoreCall → Option Part
  | claimWaiting _ _ | updateStatus _ | touchHeartbeat _ _ | forceStatus _ _
  | transitionIfStale _ _ _ _ => some .jobs
  | decrement _ _ => some .aggregates
  | updatePriority _ _ _ => some .records
  | adjustCounters _ _ _ _ | setQueueStatus _ _ _ | setQueueBlocked _ _ => some .queues
  | appendTrace _ _ _ => some .traces
  | acquireMarker _ _ _ _ => some .markers
  | getJobs _ | findWaiting _ | staleJobs _ _ | priorityRecords _ | siteQueue _ | jobTrace _ => none

namespace Store

variable {s : Store} {now : Instant} {c : StoreCall}

/-! ## Tables a call leaves alone -/

/-- Two stores have the same table. -/
def Same : Part → Store → Store → Prop
  | .jobs, s, s' => s'.jobs = s.jobs
  | .aggregates, s, s' => s'.aggregates = s.aggregates
  | .records, s, s' => s'.records = s.records
  | .queues, s, s' => s'.queues = s.queues
  | .traces, s, s' => s'.traces = s.traces
  | .markers, s, s' => s'.markers = s.markers

theorem Same.refl (p : Part) (s : Store) : Same p s s := by
  cases p <;> rfl

/-- Two stores that differ in one table at most. -/
structure SameBut (p : Part) (s s' : Store) : Prop where
  same : ∀ q, q ≠ p → Same q s s'

theorem SameBut.refl (p : Part) (s : Store) : SameBut p s s := ⟨fun q _ => .refl q s⟩

theorem SameBut.symm {p : Part} {s' : Store} (h : SameBut p s s') : SameBut p s' s := by
  constructor
  intro q hq
  have h₁ := h.same q hq
  cases q <;> exact Eq.symm h₁

theorem SameBut.trans {p : Part} {s₁ s₂ : Store} (h : SameBut p s s₁) (h' : SameBut p s₁ s₂) :
    SameBut p s s₂ := by
  constructor
  intro q hq
  have h₁ := h.same q hq
  have h₂ := h'.same q hq
  cases q <;> exact Eq.trans h₂ h₁

theorem sameBut_insertJob (s : Store) (j : Job) : SameBut .jobs s (s.insertJob j) := by
  constructor
  intro q hq
  cases q with
  | jobs => exact absurd rfl hq
  | _ => rfl

theorem sameBut_insertAggregate (s : Store) (a : Aggregate) :
    SameBut .aggregates s (s.insertAggregate a) := by
  constructor
  intro q hq
  cases q with
  | aggregates => exact absurd rfl hq
  | _ => rfl

theorem sameBut_insertRecord (s : Store) (r : FairShare.Record) :
    SameBut .records s (s.insertRecord r) := by
  constructor
  intro q hq
  cases q with
  | records => exact absurd rfl hq
  | _ => rfl

theorem sameBut_putQueue (s : Store) (q : SiteQueue) : SameBut .queues s (s.putQueue q) := by
  constructor
  intro q hq
  cases q with
  | queues => exact absurd rfl hq
  | _ => rfl

theorem sameBut_traces (s : Store) (traces : List TraceEntry) :
    SameBut .traces s { s with traces } := by
  constructor
  intro q hq
  cases q with
  | traces => exact absurd rfl hq
  | _ => rfl

theorem sameBut_markers (s : Store) (markers : Table String Marker) :
    SameBut .markers s { s with markers } := by
  constructor
  intro q hq
  cases q with
  | markers => exact absurd rfl hq
  | _ => rfl

theorem claimWaiting_sameBut (aggregateId : Int) (target : ClaimTarget) :
    SameBut .jobs s (s.claimWaiting aggregateId target now).2 := by
  unfold claimWaiting
  split
  · exact .refl _ _
  · exact sameBut_insertJob ..

theorem updateStatus_sameBut (change : StatusChange) :
    SameBut .jobs s (s.updateStatus change now).2 := by
  unfold updateStatus
  repeat' split
  · exact .refl _ _
  · exact .refl _ _
  · exact sameBut_insertJob ..
  · exact .refl _ _

theorem touchHeartbeat_sameBut (jobId n : Int) :
    SameBut .jobs s (s.touchHeartbeat jobId n now).2 := by
  unfold touchHeartbeat
  repeat' split
  · exact .refl _ _
  · exact .refl _ _
  · exact sameBut_insertJob ..
  · exact sameBut_insertJob ..
  · exact .refl _ _

theorem forceStatus_sameBut (jobId : Int) (status : Status) :
    SameBut .jobs s (s.forceStatus jobId status).2 := by
  unfold forceStatus
  repeat' split
  · exact .refl _ _
  · exact sameBut_insertJob ..
  · exact .refl _ _

theorem transitionIfStale_sameBut (jobId : Int) (sources : List Status) (target : Status)
    (olderThan : Instant) :
    SameBut .jobs s (s.transitionIfStale jobId sources target olderThan).2 := by
  unfold transitionIfStale
  repeat' split
  · exact .refl _ _
  · exact sameBut_insertJob ..
  · exact .refl _ _

theorem decrement_sameBut (aggregateId : Int) (isLocal : Bool) :
    SameBut .aggregates s (s.decrement aggregateId isLocal now) := by
  unfold decrement
  split
  · exact .refl _ _
  · exact sameBut_insertAggregate ..

theorem acquireMarker_sameBut (name owner : String) (minAge : Span) (at_ : Instant) :
    SameBut .markers s (s.acquireMarker name owner minAge at_).2 := by
  unfold acquireMarker
  split
  · exact .refl _ _
  · exact .refl _ _
  · exact sameBut_markers ..

theorem updatePriority_sameBut {user : String} {userload weight : Float} {s' : Store}
    (h : s.updatePriority user userload weight = .ok s') : SameBut .records s s' := by
  unfold updatePriority at h
  split at h
  · cases h
    exact sameBut_insertRecord ..
  · cases h

/-- A call changes no table but the one it writes. -/
theorem perform_sameBut {p : Part} (h : c.writes = some p) :
    SameBut p s (s.perform now c).2 := by
  cases c <;> cases h
  case claimWaiting => exact claimWaiting_sameBut ..
  case updateStatus => exact updateStatus_sameBut ..
  case touchHeartbeat => exact touchHeartbeat_sameBut ..
  case forceStatus => exact forceStatus_sameBut ..
  case transitionIfStale => exact transitionIfStale_sameBut ..
  case decrement => exact decrement_sameBut ..
  case acquireMarker => exact acquireMarker_sameBut ..
  case updatePriority user userload weight =>
    simp only [perform]
    split
    · next hu => exact updatePriority_sameBut hu
    · exact .refl _ _
  case adjustCounters => exact sameBut_putQueue ..
  case setQueueStatus => exact sameBut_putQueue ..
  case setQueueBlocked => exact sameBut_putQueue ..
  case appendTrace => exact sameBut_traces ..

theorem perform_eq_of_writes_none (h : c.writes = none) : (s.perform now c).2 = s := by
  cases c <;> cases h <;> rfl

theorem perform_same {q : Part} (h : c.writes ≠ some q) : Same q s (s.perform now c).2 := by
  cases hw : c.writes with
  | none =>
      rw [perform_eq_of_writes_none hw]
      exact .refl q s
  | some p =>
      refine (perform_sameBut hw).same q fun hq => h ?_
      rw [hw, hq]

theorem perform_jobs (h : c.writes ≠ some .jobs) : (s.perform now c).2.jobs = s.jobs :=
  perform_same h

theorem perform_queues (h : c.writes ≠ some .queues) : (s.perform now c).2.queues = s.queues :=
  perform_same h

/-! ## Rows after a write -/

@[simp] theorem get?_insertJob {j : Job} {id : Int} :
    (s.insertJob j).jobs.get? id = if id = j.id then some j else s.jobs.get? id :=
  Table.get?_insert

@[simp] theorem get?_insertAggregate {a : Aggregate} {id : Int} :
    (s.insertAggregate a).aggregates.get? id = if id = a.id then some a
      else s.aggregates.get? id :=
  Table.get?_insert

@[simp] theorem get?_putQueue {q : SiteQueue} {ce : String} :
    (s.putQueue q).queues.get? ce = if ce = q.ce then some q else s.queues.get? ce :=
  Table.get?_insert

theorem id_of_get? {id : Int} {j : Job} (h : s.jobs.get? id = some j) : j.id = id :=
  s.jobsKeyed id j h

/-! ## Calls that find their row -/

end Store

def Job.isHandOut (j : Job) (n : Int) (statuses : List Status) : Bool :=
  decide (j.resubmission = n) && statuses.contains j.status

theorem Job.isHandOut_iff {j : Job} {n : Int} {statuses : List Status} :
    j.isHandOut n statuses = true ↔
      j.resubmission = n ∧ statuses.contains j.status = true := by
  rw [isHandOut, Bool.and_eq_true, decide_eq_true_iff]

namespace Store

variable {s : Store} {now : Instant} {c : StoreCall}

theorem updateStatus_of_hit {c : StatusChange} {j : Job} (hj : s.jobs.get? c.jobId = some j)
    (hpasses : j.isHandOut c.resubmission c.allowedFrom = true) :
    s.updateStatus c now = (.applied j.status,
      s.insertJob { j with status := c.status, lastHeartbeat := some now }) := by
  obtain ⟨hsame, hallowed⟩ := Job.isHandOut_iff.mp hpasses
  simp only [updateStatus, hj, hallowed, if_true]
  rw [if_neg fun hother => hother hsame]

theorem decrement_of_get? {a : Aggregate} {isLocal : Bool}
    (ha : s.aggregates.get? a.id = some a) :
    s.decrement a.id isLocal now = s.insertAggregate
      { a with
        counter := max (a.counter - 1) 0
        idleSince := if isLocal then now else a.idleSince } := by
  unfold decrement
  rw [ha]

/-! ## Blocked queues -/

/-- The queue of the computing element is blocked. -/
def isBlocked (s : Store) (ce : String) : Bool := (s.queues.get? ce).any (·.blocked)

theorem queueOr_blocked {ce site : String} :
    (s.queueOr ce site now).blocked = s.isBlocked ce := by
  unfold queueOr isBlocked
  cases s.queues.get? ce <;> rfl

theorem isBlocked_congr {s' : Store} (h : s'.queues = s.queues) (ce : String) :
    s'.isBlocked ce = s.isBlocked ce := by
  rw [isBlocked, h, isBlocked]

/-- A queue stays blocked or open when it is written but for that. -/
theorem isBlocked_putQueue {q : SiteQueue} (h : q.blocked = s.isBlocked q.ce) (ce : String) :
    (s.putQueue q).isBlocked ce = s.isBlocked ce := by
  by_cases hce : ce = q.ce
  · rw [isBlocked, get?_putQueue, if_pos hce, hce, ← h]
    rfl
  · rw [isBlocked, get?_putQueue, if_neg hce, isBlocked]

theorem perform_isBlocked (h : ∀ ce blocked, c ≠ .setQueueBlocked ce blocked) (ce : String) :
    (s.perform now c).2.isBlocked ce = s.isBlocked ce := by
  cases c with
  | setQueueBlocked ce blocked => exact absurd rfl (h ce blocked)
  | adjustCounters => exact isBlocked_putQueue queueOr_blocked ce
  | setQueueStatus =>
      refine isBlocked_putQueue ?_ ce
      split <;> exact queueOr_blocked
  | _ => exact isBlocked_congr (perform_queues (by simp [StoreCall.writes])) ce

/-! ## What happens to a job -/

/-- How a call may change a job. -/
inductive JobChange (now : Instant) : StoreCall → Job → Job → Prop
  | claim {aggregateId target} {j : Job} :
      j.status = .waiting → j.aggregateId = some aggregateId →
      JobChange now (.claimWaiting aggregateId target) j (claimed j target now)
  | report {change : StatusChange} {j : Job} :
      j.id = change.jobId → j.resubmission = change.resubmission →
      j.status ∈ change.allowedFrom →
      JobChange now (.updateStatus change) j
        { j with status := change.status, lastHeartbeat := some now }
  | heartbeat {jobId n} {j : Job} :
      j.id = jobId → j.resubmission = n → j.status.isInFlight = true →
      JobChange now (.touchHeartbeat jobId n) j { j with lastHeartbeat := some now }
  | revive {jobId n} {j : Job} :
      j.id = jobId → j.resubmission = n → j.status = .zombie →
      JobChange now (.touchHeartbeat jobId n) j
        { j with status := .running, lastHeartbeat := some now }
  | force {jobId status} {j : Job} :
      j.id = jobId → j.status.canForce status = true →
      JobChange now (.forceStatus jobId status) j { j with status }
  | giveUp {jobId sources target olderThan} {j : Job} :
      j.id = jobId → isStale sources olderThan j = true →
      JobChange now (.transitionIfStale jobId sources target olderThan) j
        { j with status := target }

theorem JobChange.writes {j j' : Job} (h : JobChange now c j j') : c.writes = some .jobs := by
  cases h <;> rfl

theorem JobChange.id_eq {j j' : Job} (h : JobChange now c j j') : j'.id = j.id := by
  cases h <;> rfl

/-- The row of a job after a call: untouched, or changed by the call. -/
def JobAfter (now : Instant) (c : StoreCall) (s s' : Store) (id : Int) : Prop :=
  s'.jobs.get? id = s.jobs.get? id ∨
    ∃ j j', s.jobs.get? id = some j ∧ s'.jobs.get? id = some j' ∧ JobChange now c j j'

theorem jobAfter_insertJob {j j' : Job} (hj : s.jobs.get? j.id = some j)
    (h : JobChange now c j j') (id : Int) : JobAfter now c s (s.insertJob j') id := by
  by_cases hid : id = j.id
  · subst hid
    exact .inr ⟨j, j', hj, by rw [get?_insertJob, if_pos h.id_eq.symm], h⟩
  · left
    rw [get?_insertJob, if_neg fun he => hid (he.trans h.id_eq)]

theorem firstWaiting?_eq_some {aggregateId : Int} {j : Job}
    (h : s.firstWaiting? aggregateId = some j) :
    s.jobs.get? j.id = some j ∧ j.status = .waiting ∧ j.aggregateId = some aggregateId := by
  obtain ⟨hw, ha⟩ : j.status = .waiting ∧ (j.aggregateId == some aggregateId) = true := by
    simpa using List.find?_some h
  obtain ⟨⟨id, _⟩, hmem, rfl⟩ := List.mem_map.mp (List.mem_of_find?_eq_some h)
  have hget := Table.get?_eq_some_iff.mpr hmem
  exact ⟨(id_of_get? hget).symm ▸ hget, hw, by simpa using ha⟩

theorem claimWaiting_job (aggregateId : Int) (target : ClaimTarget) (id : Int) :
    JobAfter now (.claimWaiting aggregateId target) s
      (s.claimWaiting aggregateId target now).2 id := by
  unfold claimWaiting
  split
  · exact .inl rfl
  · next j hj =>
    obtain ⟨hget, hw, ha⟩ := firstWaiting?_eq_some hj
    exact jobAfter_insertJob hget (.claim hw ha) id

theorem updateStatus_job (change : StatusChange) (id : Int) :
    JobAfter now (.updateStatus change) s (s.updateStatus change now).2 id := by
  unfold updateStatus
  split
  · exact .inl rfl
  · next j hj =>
    have hid := id_of_get? hj
    repeat' split
    · exact .inl rfl
    · next hn hc =>
      exact jobAfter_insertJob (hid.symm ▸ hj)
        (.report hid (Decidable.not_not.mp hn) (List.contains_iff_mem.mp hc)) id
    · exact .inl rfl

theorem touchHeartbeat_job (jobId n id : Int) :
    JobAfter now (.touchHeartbeat jobId n) s (s.touchHeartbeat jobId n now).2 id := by
  unfold touchHeartbeat
  split
  · exact .inl rfl
  · next j hj =>
    have hid := id_of_get? hj
    repeat' split
    · exact .inl rfl
    · next hn hf =>
      exact jobAfter_insertJob (hid.symm ▸ hj) (.heartbeat hid (Decidable.not_not.mp hn) hf) id
    · next hn _ hz =>
      exact jobAfter_insertJob (hid.symm ▸ hj) (.revive hid (Decidable.not_not.mp hn) hz) id
    · exact .inl rfl

theorem forceStatus_job (jobId : Int) (status : Status) (id : Int) :
    JobAfter now (.forceStatus jobId status) s (s.forceStatus jobId status).2 id := by
  unfold forceStatus
  split
  · exact .inl rfl
  · next j hj =>
    have hid := id_of_get? hj
    split
    · next hf => exact jobAfter_insertJob (hid.symm ▸ hj) (.force hid hf) id
    · exact .inl rfl

theorem transitionIfStale_job (jobId : Int) (sources : List Status) (target : Status)
    (olderThan : Instant) (id : Int) :
    JobAfter now (.transitionIfStale jobId sources target olderThan) s
      (s.transitionIfStale jobId sources target olderThan).2 id := by
  unfold transitionIfStale
  split
  · exact .inl rfl
  · next j hj =>
    have hid := id_of_get? hj
    split
    · next hs => exact jobAfter_insertJob (hid.symm ▸ hj) (.giveUp hid hs) id
    · exact .inl rfl

/-- After a call every job is as it was, or changed in the way of the
call; none appears and none vanishes. -/
theorem perform_job (s : Store) (now : Instant) (c : StoreCall) (id : Int) :
    JobAfter now c s (s.perform now c).2 id := by
  cases c with
  | claimWaiting => exact claimWaiting_job ..
  | updateStatus => exact updateStatus_job ..
  | touchHeartbeat => exact touchHeartbeat_job ..
  | forceStatus => exact forceStatus_job ..
  | transitionIfStale => exact transitionIfStale_job ..
  | _ => exact .inl (by rw [perform_jobs (by simp [StoreCall.writes])])

end Store

end GridQueue
