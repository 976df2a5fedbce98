/-
# `GridQueue.Proofs.Store.Agreement` — a database answers as a store in memory

The calls about jobs, as programs that talk to a database which nobody
else uses, against the same calls of the store in memory:

| call                | in the database                                            |
| :------------------ | :--------------------------------------------------------- |
| `getJobs`           | select, joined with the heartbeats                         |
| `staleJobs`         | the same, by the last sign of life                         |
| `updateStatus`      | guarded update, then its heartbeat; a look-up if it missed |
| `forceStatus`       | guarded update; a look-up if it missed                     |
| `touchHeartbeat`    | guarded update, then its heartbeat                         |
| `transitionIfStale` | guarded update, by the last sign of life                   |
| `claimWaiting`      | select, guarded update, then its heartbeat                 |

Of each change there are two cases: the job is there and passes
(`_of_hit`), or it is not or does not (`_of_miss`).  If the database holds
the jobs of a store, both return the same, and the database holds the jobs
of the store after (`Holds.answers`); so calls in a row are answered alike
(`Holds.answersAll`).
-/
import GridQueue.Proofs.Partners
import GridQueue.Proofs.Store.Change
import GridQueue.Proofs.Store.Heartbeats
import GridQueue.Proofs.Store.Limits
import GridQueue.Proofs.Store.Reading
import GridQueue.Proofs.Store.Talk

namespace GridQueue

open Sql StoreStatement

variable {α : Type} {now : Instant} {t : Timeouts} {d d' d'' : Database} {s s' : Store}
  {jobs jobs' : List Job} {beats beats' : List (Int × Instant)}
  {assignedAt assignedAt' : Int → Option Instant} {jobId : Int} {j j' : Job}

/-- Alone with a database, a program returns a value and leaves a database
behind that holds a store. -/
def Answers (now : Instant) (p : Querying α) (d : Database) (a : α) (s' : Store) : Prop :=
  ∃ d', p.Gives now d a d' ∧ Holds d' s' ∧ KeepsOthers d d'

/-! ## Reading -/

theorem Holds.reads {p : Querying α} {a : α} (hd : Holds d s) (h : p.Gives now d a d) :
    Answers now p d a s := ⟨d, h, hd, .refl d⟩

theorem Store.getJobs_eq_filter (s : Store) (ids : List Int) :
    s.getJobs ids = s.jobs.values.filter fun j => ids.contains j.id :=
  s.jobsKeyed.sorted_lookups ids

/-- A database returns the rows with one of the identifiers, sorted. -/
theorem Holds.gives_getJobs (hd : Holds d s) (t : Timeouts) (now : Instant) (ids : List Int) :
    (Querying.perform t (.getJobs ids)).Gives now d (s.getJobs ids) d := by
  have ⟨jobs, beats, assignedAt, h, ht⟩ := hd
  refine .bind (.bounded (Database.execute_select _)) (.allRows ?_ fun j _ => j.ofRow_joinedRow)
  rw [Store.getJobs_eq_filter]
  refine h.select_joined ht.rowsOf_queue ht.rowsOf_heartbeats rfl rfl rfl rfl ?_ ?_
  · intro j _
    exact (congrArg Value.isTrue (Expr.eval_anyOf_int rfl rfl)).trans (Value.isTrue_bool _)
  · intro j
    rw [Job.joinedRow, ← j.eval_lastUpdate assignedAt]
    rfl

theorem Holds.getJobs (hd : Holds d s) (ids : List Int) :
    Answers now (Querying.perform t (.getJobs ids)) d (s.getJobs ids) s :=
  hd.reads (hd.gives_getJobs t now ids)

theorem Holds.staleJobs (hd : Holds d s) (statuses : List Status) {olderThan : Instant}
    (holder : olderThan.IsTimestamp) :
    Answers now (Querying.perform t (.staleJobs statuses olderThan)) d
      (s.staleJobs statuses olderThan) s := by
  have ⟨jobs, beats, assignedAt, h, ht⟩ := hd
  rw [Querying.perform, show olderThan.inMicros = olderThan from holder.1]
  refine hd.reads (.bind (.bounded (Database.execute_select _))
    (.allRows ?_ fun j _ => j.ofRow_toRow))
  rw [Store.staleJobs, List.map_map]
  refine h.select_joined ht.rowsOf_queue ht.rowsOf_heartbeats rfl rfl rfl rfl ?_ ?_
  · intro j hj
    have hseen := h.eval_lastSeen hj (j.eval_lastUpdate assignedAt)
      (w := d.surroundings [Querying.statusNames statuses, .time olderThan] now [])
    have hold := Expr.eval_lt_time hseen (y := .param 2) (u := olderThan) rfl
    show Value.isTrue (Expr.eval _ [("q", _), ("h", _)] (.and _ _)) = _
    rw [Expr.eval, Value.isTrue_conj, Expr.eval_anyOf_text rfl rfl, hold,
      Value.isTrue_bool, Value.isTrue_bool, Status.contains_names]
    rfl
  · intro j
    rw [Function.comp_apply, StaleJob.toRow, ← j.eval_lastUpdate assignedAt]
    rfl

/-! ## Why nothing changed -/

/-- Why a change that may name a hand-out did not apply to a job. -/
def StatusUpdate.missed (resubmission : Option Int) : Option Job → StatusUpdate
  | none => .notFound
  | some j =>
      if resubmission.any (· != j.resubmission) then .stale j.resubmission
      else .rejected j.status

theorem Tables.gives_whyUnchanged (h : Listing s jobs beats assignedAt)
    (ht : Tables d jobs beats assignedAt) (jobId : Int) (n : Option Int) :
    (Querying.whyUnchanged t jobId n).Gives now d (.missed n (s.jobs.get? jobId)) d := by
  have hstatus : (Querying.currentStatus t jobId).Gives now d
      ((s.jobs.get? jobId).map fun j => (j.status, j.resubmission)) d := by
    refine .bind (.bounded (Database.execute_select _)) (.firstRow (f := fun p =>
      [("status", .text p.1.name), ("resubmission", .int p.2)]) ?_ ?_)
    · refine (h.select_job ht.rowsOf_queue rfl rfl rfl rfl rfl rfl).trans ?_
      cases s.jobs.get? jobId <;> rfl
    · intro p _
      rw [Row.status_of (s := p.1) rfl]
      rfl
  refine .bind hstatus ?_
  cases s.jobs.get? jobId with
  | none => exact .pure _
  | some j => exact .pure _

theorem Querying.Gives.applied_some {reply : Reply} {jobId : Int} {n : Option Int} {st : Status}
    (hrows : reply.rows = [[("previous", .text st.name)]]) :
    (Querying.applied t jobId n reply).Gives now d (.applied st) d := by
  refine .bind (.firstRow (o := some st) (f := fun st : Status => [("previous", .text st.name)])
    hrows ?_) (.pure _)
  intro st _
  exact Row.status_of rfl

theorem Querying.Gives.applied_none {reply : Reply} {jobId : Int} {n : Option Int}
    {v : StatusUpdate} (hrows : reply.rows = [])
    (hwhy : (Querying.whyUnchanged t jobId n).Gives now d v d) :
    (Querying.applied t jobId n reply).Gives now d v d :=
  .bind (.firstRow (o := none) (f := fun _ => []) hrows fun _ h => nomatch h) hwhy

/-! ## Who passes a check -/

theorem Store.hit_or_miss (s : Store) (jobId : Int) (g : Job → Bool) :
    (∃ j, s.jobs.get? jobId = some j ∧ g j = true) ∨
      ∀ j, s.jobs.get? jobId = some j → g j = false := by
  by_cases hhit : ∃ j, s.jobs.get? jobId = some j ∧ g j = true
  · exact .inl hhit
  · exact .inr fun j hj => Bool.eq_false_iff.mpr fun hg => hhit ⟨j, hj, hg⟩

theorem Job.contains_eq_false {n : Int} {statuses : List Status}
    (h : j.isHandOut n statuses = false) (hn : j.resubmission = n) :
    statuses.contains j.status = false := by
  rwa [isHandOut, decide_eq_true hn, Bool.true_and] at h

/-! ## Status changes -/

theorem Store.updateStatus_of_miss {c : StatusChange}
    (hfails : ∀ j, s.jobs.get? c.jobId = some j →
      j.isHandOut c.resubmission c.allowedFrom = false) :
    s.updateStatus c now = (.missed (some c.resubmission) (s.jobs.get? c.jobId), s) := by
  rw [updateStatus]
  cases hj : s.jobs.get? c.jobId with
  | none => rfl
  | some j =>
    by_cases hsame : j.resubmission = c.resubmission
    · simp only [hsame, ne_eq, not_true_eq_false, if_false,
        Job.contains_eq_false (hfails j hj) hsame, Bool.false_eq_true, StatusUpdate.missed,
        Option.any_some, bne_self_eq_false]
    · have hne : (c.resubmission != j.resubmission) = true := bne_iff_ne.mpr (Ne.symm hsame)
      simp only [ne_eq, hsame, not_false_eq_true, if_true, StatusUpdate.missed, Option.any_some,
        hne]

section UpdateStatus

/-- What an update of a status is given. -/
def statusParams (jobId n : Int) (target : Status) (allowed : List Status) : List Value :=
  [.int jobId, .int n, .text target.name, Querying.statusNames allowed]

theorem Tables.guards_status (h : Listing s jobs beats assignedAt)
    (ht : Tables d jobs beats assignedAt) (hj : s.jobs.get? jobId = some j) (now : Instant)
    (n : Int) (target : Status) (allowed : List Status) :
    Guards statusUpdate (d.surroundings (statusParams jobId n target allowed) now []) jobs
      assignedAt jobId (fun k => k.isHandOut n allowed) [("old", j.oldRow)] := by
  have hid : j.id = jobId := Store.id_of_get? hj
  refine Listing.guards_of_origin ?_ fun k _ => ?_
  · rw [h.origins_oldJob ht.rowsOf_queue rfl rfl, hj]
    rfl
  · rw [statusUpdate, Expr.isTrue_conj]
    simp only [List.all_cons, List.all_nil, Bool.and_true, same]
    rw [Expr.eval_eq_int (m := k.id) (n := j.id) rfl rfl,
      Expr.eval_eq_int (m := k.resubmission) (n := n) rfl rfl,
      Expr.eval_anyOf_text (s := k.status.name) (l := allowed.map Status.name) rfl rfl, hid]
    simp only [Value.isTrue_bool, Status.contains_names, Job.isHandOut]

variable {n : Int} {allowed : List Status}

theorem Tables.execute_updateStatus_hit (hnow : now.IsTimestamp) (target : Status)
    (h : Listing s jobs beats assignedAt)
    (ht : Tables d jobs beats assignedAt) (hj : s.jobs.get? jobId = some j)
    (hpasses : j.isHandOut n allowed = true) (hbig : FitsInt64 jobId)
    (hj' : j' = { j with status := target, lastHeartbeat := some now }) :
    d.execute now StoreStatement.updateStatus (statusParams jobId n target allowed) =
      .ok ({ rows := [[("previous", .text j.status.name)]], affected := 1 },
        d.put (jobs.map fun k => if k.id = j'.id then j' else k) (beat j'.id now beats)
          assignedAt) := by
  have hid : j.id = jobId := Store.id_of_get? hj
  obtain rfl : j'.id = jobId := by
    rw [hj']
    exact hid
  have hguards := ht.guards_status h hj now n target allowed
  have hset : statusUpdate.set.applied? Schema.queue
      (d.surroundings (statusParams j'.id n target allowed) now [])
      [("q", jobRow assignedAt j), ("old", j.oldRow)] (jobRow assignedAt j) =
        .ok (jobRow assignedAt j') := jobRow_apply_status rfl hj'
  have hupdate := h.update_hit ht.rowsOf_queue hguards hj hpasses hset fun _ _ => rfl
  refine (Database.runParts_update statusUpdate ht.queue hupdate).trans ?_
  refine (Database.runParts_cons (ht.runPart_heartbeat_one h rfl rfl rfl hbig hnow)).trans ?_
  exact Database.runParts_select rfl rfl rfl rfl rfl

theorem Tables.execute_updateStatus_miss (now : Instant) (target : Status)
    (h : Listing s jobs beats assignedAt)
    (ht : Tables d jobs beats assignedAt)
    (hfails : ∀ j, s.jobs.get? jobId = some j → j.isHandOut n allowed = false) :
    d.execute now StoreStatement.updateStatus (statusParams jobId n target allowed) =
      .ok ({ rows := [], affected := 0 }, d.put jobs beats assignedAt) := by
  have hupdate := h.update_old_miss (u := statusUpdate) (t := Schema.queue)
    (w := d.surroundings (statusParams jobId n target allowed) now []) ht.rowsOf_queue rfl rfl rfl
    (fun _ hj => ht.guards_status h hj now n target allowed) hfails
  refine (Database.runParts_update statusUpdate ht.queue hupdate).trans ?_
  refine (Database.runParts_cons (ht.runPart_heartbeat_none rfl rfl)).trans ?_
  exact Database.runParts_select rfl rfl rfl rfl rfl

end UpdateStatus

theorem Holds.updateStatus (hd : Holds d s) (hnow : now.IsTimestamp) {c : StatusChange}
    (hbig : FitsInt64 c.jobId) :
    Answers now (Querying.perform t (.updateStatus c)) d (s.updateStatus c now).1
      (s.updateStatus c now).2 := by
  have ⟨jobs, beats, assignedAt, h, ht⟩ := hd
  rw [Querying.perform, Querying.updateStatus]
  rcases s.hit_or_miss c.jobId fun j => j.isHandOut c.resubmission c.allowedFrom with
    ⟨j, hj, hpasses⟩ | hfails
  · have hne : ¬ c.allowedFrom.isEmpty = true := by
      intro hempty
      have hallowed := (Job.isHandOut_iff.mp hpasses).2
      rw [List.isEmpty_iff.mp hempty] at hallowed
      exact Bool.false_ne_true hallowed
    rw [if_neg hne, Store.updateStatus_of_hit hj hpasses]
    have hexecute := ht.execute_updateStatus_hit hnow c.status h hj hpasses hbig rfl
    refine ⟨_, .bind (.bounded hexecute) (.applied_some rfl), ?_, .put d⟩
    refine ht.heard h hj ?_ rfl fun _ _ => rfl
    rfl
  · rw [Store.updateStatus_of_miss hfails]
    split
    · exact hd.reads (ht.gives_whyUnchanged h _ _)
    · have hexecute := ht.execute_updateStatus_miss now c.status h hfails
      refine ⟨_, .bind (.bounded hexecute) (.applied_none rfl (ht.put.gives_whyUnchanged h _ _)),
        ⟨_, _, _, h, ht.put⟩, .put d⟩

/-! ## Forced statuses -/

theorem Store.forceStatus_of_hit {target : Status} (hj : s.jobs.get? jobId = some j)
    (hforce : j.status.canForce target = true) :
    s.forceStatus jobId target = (.applied j.status, s.insertJob { j with status := target }) := by
  simp only [forceStatus, hj, hforce, if_true]

theorem Store.forceStatus_of_miss {target : Status}
    (hmiss : ∀ j, s.jobs.get? jobId = some j → j.status.canForce target = false) :
    s.forceStatus jobId target = (.missed none (s.jobs.get? jobId), s) := by
  rw [forceStatus]
  cases hj : s.jobs.get? jobId with
  | none => rfl
  | some j =>
    simp only [hmiss j hj, Bool.false_eq_true, if_false]
    rfl

section ForceStatus

theorem Tables.guards_force (h : Listing s jobs beats assignedAt)
    (ht : Tables d jobs beats assignedAt) (hj : s.jobs.get? jobId = some j) (now : Instant)
    (target : Status) :
    Guards forceUpdate (d.surroundings [.int jobId, .text target.name] now []) jobs assignedAt
      jobId (fun k => k.status != target) [("old", j.oldRow)] := by
  have hid : j.id = jobId := Store.id_of_get? hj
  refine Listing.guards_of_origin ?_ fun k _ => ?_
  · rw [h.origins_oldJob ht.rowsOf_queue rfl rfl, hj]
    rfl
  · show Value.isTrue (Expr.eval _ _ (.and (.compare _ _ _) _)) = _
    rw [Expr.eval, Value.isTrue_conj, Expr.eval_eq_int (m := k.id) (n := j.id) rfl rfl,
      Expr.eval_ne_text (s := k.status.name) (t := target.name) rfl rfl, hid]
    simp only [Value.isTrue_bool, Status.name_inj]
    rfl

variable {target : Status}

theorem Tables.execute_forceStatus_hit (now : Instant) (h : Listing s jobs beats assignedAt)
    (ht : Tables d jobs beats assignedAt) (hj : s.jobs.get? jobId = some j)
    (hother : (j.status != target) = true) (hj' : j' = { j with status := target }) :
    d.execute now StoreStatement.forceStatus [.int jobId, .text target.name] =
      .ok ({ rows := [[("previous", .text j.status.name)]], affected := 1 },
        d.write "queue" ((jobs.map fun k => if k.id = j'.id then j' else k).map
          (jobRow assignedAt))) := by
  have hid : j.id = jobId := Store.id_of_get? hj
  obtain rfl : j'.id = jobId := by
    rw [hj']
    exact hid
  have hset : forceUpdate.set.applied? Schema.queue
      (d.surroundings [.int j'.id, .text target.name] now [])
      [("q", jobRow assignedAt j), ("old", j.oldRow)] (jobRow assignedAt j) =
        .ok (jobRow assignedAt j') := jobRow_apply_status rfl hj'
  have hupdate := h.update_hit ht.rowsOf_queue (ht.guards_force h hj now target) hj hother hset
    fun _ _ => rfl
  exact Database.execute_update forceUpdate ht.queue hupdate

theorem Tables.execute_forceStatus_miss (now : Instant) (h : Listing s jobs beats assignedAt)
    (ht : Tables d jobs beats assignedAt)
    (hsame : ∀ j, s.jobs.get? jobId = some j → (j.status != target) = false) :
    d.execute now StoreStatement.forceStatus [.int jobId, .text target.name] =
      .ok ({ rows := [], affected := 0 }, d.write "queue" (jobs.map (jobRow assignedAt))) := by
  have hupdate := h.update_old_miss (u := forceUpdate) (t := Schema.queue)
    (w := d.surroundings [.int jobId, .text target.name] now []) ht.rowsOf_queue rfl rfl rfl
    (fun _ hj => ht.guards_force h hj now target) hsame
  exact Database.execute_update forceUpdate ht.queue hupdate

end ForceStatus

theorem Holds.forceStatus (hd : Holds d s) (jobId : Int) (target : Status) :
    Answers now (Querying.perform t (.forceStatus jobId target)) d (s.forceStatus jobId target).1
      (s.forceStatus jobId target).2 := by
  have ⟨jobs, beats, assignedAt, h, ht⟩ := hd
  rw [Querying.perform, Querying.forceStatus]
  by_cases hfailure : target.isFailure = true
  · rw [if_pos hfailure]
    have hcan : ∀ st : Status, st.canForce target = (st != target) := fun st => by
      rw [Status.canForce, hfailure, Bool.true_and]
    rcases s.hit_or_miss jobId fun j => j.status != target with ⟨j, hj, hother⟩ | hsame
    · rw [Store.forceStatus_of_hit hj (by rw [hcan, hother])]
      have hexecute := ht.execute_forceStatus_hit now h hj hother rfl
      refine ⟨_, .bind (.bounded hexecute) (.applied_some rfl), ?_, .write_queue d _⟩
      refine ht.changed h hj ?_ rfl
      rfl
    · rw [Store.forceStatus_of_miss fun j hj => (hcan _).trans (hsame j hj)]
      have hexecute := ht.execute_forceStatus_miss now h hsame
      exact ⟨_, .bind (.bounded hexecute)
        (.applied_none rfl (ht.write_queue.gives_whyUnchanged h _ _)),
        ⟨_, _, _, h, ht.write_queue⟩, .write_queue d _⟩
  · have hmiss : ∀ j, s.jobs.get? jobId = some j → j.status.canForce target = false := by
      intro j _
      rw [Status.canForce, Bool.eq_false_iff.mpr hfailure, Bool.false_and]
    rw [if_neg hfailure, Store.forceStatus_of_miss hmiss]
    exact hd.reads (ht.gives_whyUnchanged h _ _)

/-! ## Signs of life -/

def Job.touched (j : Job) (now : Instant) : Job :=
  { j with
    status := if j.status = .zombie then .running else j.status
    lastHeartbeat := some now }

/-- The statuses in which a job can be heard from. -/
def Status.accepting : List Status := inFlight ++ [zombie]

theorem Store.touchHeartbeat_of_hit {n : Int} (hj : s.jobs.get? jobId = some j)
    (hpasses : j.isHandOut n Status.accepting = true) :
    s.touchHeartbeat jobId n now = (true, s.insertJob (j.touched now)) := by
  obtain ⟨hsame, halive⟩ := Job.isHandOut_iff.mp hpasses
  simp only [touchHeartbeat, hj]
  rw [if_neg (not_not.mpr hsame)]
  by_cases hzombie : j.status = .zombie
  · have hflight : ¬ j.status.isInFlight = true := by
      rw [hzombie]
      decide
    rw [if_neg hflight, if_pos hzombie, Job.touched, if_pos hzombie]
  · have hflight : j.status.isInFlight = true := by
      revert halive hzombie
      cases j.status <;> decide
    rw [if_pos hflight, Job.touched, if_neg hzombie]

theorem Store.touchHeartbeat_of_miss {n : Int}
    (hfails : ∀ j, s.jobs.get? jobId = some j → j.isHandOut n Status.accepting = false) :
    s.touchHeartbeat jobId n now = (false, s) := by
  rw [touchHeartbeat]
  cases hj : s.jobs.get? jobId with
  | none => rfl
  | some j =>
    by_cases hsame : j.resubmission = n
    · have hdead := Job.contains_eq_false (hfails j hj) hsame
      have hflight : ¬ j.status.isInFlight = true := by
        revert hdead
        cases j.status <;> decide
      have hzombie : ¬ j.status = .zombie := by
        rintro h
        rw [h] at hdead
        exact absurd hdead (by decide)
      simp only [hsame, ne_eq, not_true_eq_false, if_false, if_neg hflight, if_neg hzombie]
    · simp only [ne_eq, hsame, not_false_eq_true, if_true]

section TouchHeartbeat

/-- What a sign of life is given. -/
def touchParams (jobId n : Int) : List Value :=
  [.int jobId, .int n, Querying.statusNames Status.accepting, .text Status.zombie.name,
   .text Status.running.name]

theorem guards_alive (d : Database) (jobs : List Job) (assignedAt : Int → Option Instant)
    (now : Instant) (jobId n : Int) :
    Guards aliveUpdate (d.surroundings (touchParams jobId n) now []) jobs assignedAt jobId
      (fun k => k.isHandOut n Status.accepting) [] := by
  refine Listing.guards_of_origin rfl fun k _ => ?_
  rw [aliveUpdate, Expr.isTrue_conj]
  simp only [List.all_cons, List.all_nil, Bool.and_true, same]
  rw [Expr.eval_eq_int (m := k.id) (n := jobId) rfl rfl,
    Expr.eval_eq_int (m := k.resubmission) (n := n) rfl rfl,
    Expr.eval_anyOf_text (s := k.status.name) (l := Status.accepting.map Status.name) rfl rfl]
  simp only [Value.isTrue_bool, Status.contains_names, Job.isHandOut]

variable {n : Int}

theorem Tables.execute_touchHeartbeat_hit (hnow : now.IsTimestamp) (h : Listing s jobs beats assignedAt)
    (ht : Tables d jobs beats assignedAt) (hj : s.jobs.get? jobId = some j)
    (hpasses : j.isHandOut n Status.accepting = true) (hbig : FitsInt64 jobId)
    (hj' : j' = j.touched now) :
    d.execute now StoreStatement.touchHeartbeat (touchParams jobId n) =
      .ok ({ rows := [], affected := 1 },
        d.put (jobs.map fun k => if k.id = j'.id then j' else k) (beat j'.id now beats)
          assignedAt) := by
  have hid : j.id = jobId := Store.id_of_get? hj
  obtain rfl : j'.id = jobId := by
    rw [hj']
    exact hid
  have hset : aliveUpdate.set.applied? Schema.queue (d.surroundings (touchParams j'.id n) now [])
      [(aliveUpdate.target.name, jobRow assignedAt j)] (jobRow assignedAt j) =
        .ok (jobRow assignedAt j') := by
    refine jobRow_apply_status ?_ hj'
    rw [Expr.eval, same,
      Expr.eval_eq_text (s := j.status.name) (t := Status.zombie.name) rfl rfl, Value.isTrue_bool]
    simp only [Status.name_inj, decide_eq_true_eq]
    split <;> rfl
  have hupdate := h.update_hit ht.rowsOf_queue (guards_alive d jobs assignedAt now j'.id n) hj
    hpasses hset fun _ _ => rfl
  refine (Database.runParts_update aliveUpdate ht.queue hupdate).trans ?_
  exact Database.runParts_nil (ht.runPart_heartbeat_one h rfl rfl rfl hbig hnow)

theorem Tables.execute_touchHeartbeat_miss (now : Instant) (h : Listing s jobs beats assignedAt)
    (ht : Tables d jobs beats assignedAt)
    (hfails : ∀ j, s.jobs.get? jobId = some j → j.isHandOut n Status.accepting = false) :
    d.execute now StoreStatement.touchHeartbeat (touchParams jobId n) =
      .ok ({ rows := [], affected := 0 }, d.put jobs beats assignedAt) := by
  have hupdate := h.update_miss (t := Schema.queue) ht.rowsOf_queue
    (guards_alive d jobs assignedAt now jobId n) hfails
  refine (Database.runParts_update aliveUpdate ht.queue hupdate).trans ?_
  exact Database.runParts_nil (ht.runPart_heartbeat_none rfl rfl)

end TouchHeartbeat

theorem Holds.touchHeartbeat (hd : Holds d s) (hnow : now.IsTimestamp) (hbig : FitsInt64 jobId)
    (n : Int) :
    Answers now (Querying.perform t (.touchHeartbeat jobId n)) d (s.touchHeartbeat jobId n now).1
      (s.touchHeartbeat jobId n now).2 := by
  have ⟨jobs, beats, assignedAt, h, ht⟩ := hd
  rw [Querying.perform]
  rcases s.hit_or_miss jobId fun j => j.isHandOut n Status.accepting with
    ⟨j, hj, hpasses⟩ | hfails
  · rw [Store.touchHeartbeat_of_hit hj hpasses]
    have hexecute := ht.execute_touchHeartbeat_hit hnow h hj hpasses hbig rfl
    refine ⟨_, .bind (.bounded hexecute) (.pure _), ?_, .put d⟩
    refine ht.heard h hj ?_ rfl fun _ _ => rfl
    rfl
  · rw [Store.touchHeartbeat_of_miss hfails]
    have hexecute := ht.execute_touchHeartbeat_miss now h hfails
    exact ⟨_, .bind (.bounded hexecute) (.pure _), ⟨_, _, _, h, ht.put⟩, .put d⟩

/-! ## Stale jobs -/

theorem Store.transitionIfStale_of_hit {sources : List Status} {target : Status}
    {olderThan : Instant} (hj : s.jobs.get? jobId = some j)
    (hstale : Store.isStale sources olderThan j = true) :
    s.transitionIfStale jobId sources target olderThan =
      (true, s.insertJob { j with status := target }) := by
  simp only [transitionIfStale, hj, hstale, if_true]

theorem Store.transitionIfStale_of_miss {sources : List Status} {target : Status}
    {olderThan : Instant}
    (hmiss : ∀ j, s.jobs.get? jobId = some j → Store.isStale sources olderThan j = false) :
    s.transitionIfStale jobId sources target olderThan = (false, s) := by
  rw [transitionIfStale]
  cases hj : s.jobs.get? jobId with
  | none => rfl
  | some j => simp only [hmiss j hj, Bool.false_eq_true, if_false]

section TransitionIfStale

/-- What a transition of a stale job is given. -/
def staleParams (jobId : Int) (sources : List Status) (target : Status) (olderThan : Instant) :
    List Value :=
  [.int jobId, Querying.statusNames sources, .text target.name, .time olderThan]

theorem Tables.guards_stale (h : Listing s jobs beats assignedAt)
    (ht : Tables d jobs beats assignedAt) (now : Instant) (jobId : Int) (sources : List Status)
    (target : Status) (olderThan : Instant) :
    Guards staleUpdate (d.surroundings (staleParams jobId sources target olderThan) now []) jobs
      assignedAt jobId (Store.isStale sources olderThan) [] := by
  refine Listing.guards_of_origin rfl fun k hk => ?_
  let w := d.surroundings (staleParams jobId sources target olderThan) now []
  have hid : (same (job "queue_id") (.param 1)).eval w [("q", jobRow assignedAt k)] =
      .bool (decide (k.id = jobId)) := Expr.eval_eq_int rfl rfl
  have hstatus : (Expr.anyOf (job "status") (.param 2)).eval w [("q", jobRow assignedAt k)] =
      .bool ((sources.map Status.name).contains k.status.name) := Expr.eval_anyOf_text rfl rfl
  have hseen := h.eval_lastSeen hk (h.eval_heartbeat ht.rowsOf_heartbeats hk) (w := w) (b := [])
  have hold := Expr.eval_lt_time hseen (y := .param 4) (u := olderThan) rfl
  refine (Expr.isTrue_conj _).trans ?_
  show (Value.isTrue (Expr.eval w [("q", jobRow assignedAt k)] _) &&
    (Value.isTrue (Expr.eval w [("q", jobRow assignedAt k)] _) &&
      (Value.isTrue (Expr.eval w [("q", jobRow assignedAt k)] _) && true))) = _
  rw [hid, hstatus, hold, Value.isTrue_bool, Value.isTrue_bool, Value.isTrue_bool,
    Status.contains_names, Bool.and_true]
  rfl

variable {sources : List Status} {olderThan : Instant}

theorem Tables.execute_transitionIfStale_hit (now : Instant) (target : Status)
    (h : Listing s jobs beats assignedAt)
    (ht : Tables d jobs beats assignedAt) (hj : s.jobs.get? jobId = some j)
    (hstale : Store.isStale sources olderThan j = true) (hj' : j' = { j with status := target }) :
    d.execute now StoreStatement.transitionIfStale (staleParams jobId sources target olderThan) =
      .ok ({ rows := [], affected := 1 },
        d.write "queue" ((jobs.map fun k => if k.id = j'.id then j' else k).map
          (jobRow assignedAt))) := by
  have hid : j.id = jobId := Store.id_of_get? hj
  obtain rfl : j'.id = jobId := by
    rw [hj']
    exact hid
  have hguards := ht.guards_stale h now j'.id sources target olderThan
  have hset : staleUpdate.set.applied? Schema.queue
      (d.surroundings (staleParams j'.id sources target olderThan) now [])
      [("q", jobRow assignedAt j)] (jobRow assignedAt j) = .ok (jobRow assignedAt j') :=
    jobRow_apply_status rfl hj'
  have hupdate := h.update_hit ht.rowsOf_queue hguards hj hstale hset fun _ _ => rfl
  exact Database.execute_update staleUpdate ht.queue hupdate

theorem Tables.execute_transitionIfStale_miss (now : Instant) (target : Status)
    (h : Listing s jobs beats assignedAt)
    (ht : Tables d jobs beats assignedAt)
    (hfresh : ∀ j, s.jobs.get? jobId = some j → Store.isStale sources olderThan j = false) :
    d.execute now StoreStatement.transitionIfStale (staleParams jobId sources target olderThan) =
      .ok ({ rows := [], affected := 0 }, d.write "queue" (jobs.map (jobRow assignedAt))) := by
  have hupdate := h.update_miss (t := Schema.queue) ht.rowsOf_queue
    (ht.guards_stale h now jobId sources target olderThan) hfresh
  exact Database.execute_update staleUpdate ht.queue hupdate

end TransitionIfStale

theorem Holds.transitionIfStale (hd : Holds d s) (jobId : Int) (sources : List Status)
    (target : Status) {olderThan : Instant} (holder : olderThan.IsTimestamp) :
    Answers now (Querying.perform t (.transitionIfStale jobId sources target olderThan)) d
      (s.transitionIfStale jobId sources target olderThan).1
      (s.transitionIfStale jobId sources target olderThan).2 := by
  have ⟨jobs, beats, assignedAt, h, ht⟩ := hd
  rw [Querying.perform, show olderThan.inMicros = olderThan from holder.1]
  rcases s.hit_or_miss jobId (Store.isStale sources olderThan) with ⟨j, hj, hstale⟩ | hfresh
  · rw [Store.transitionIfStale_of_hit hj hstale]
    have hexecute := ht.execute_transitionIfStale_hit now target h hj hstale rfl
    refine ⟨_, .bind (.bounded hexecute) (.pure _), ?_, .write_queue d _⟩
    refine ht.changed h hj ?_ rfl
    rfl
  · rw [Store.transitionIfStale_of_miss hfresh]
    have hexecute := ht.execute_transitionIfStale_miss now target h hfresh
    exact ⟨_, .bind (.bounded hexecute) (.pure _), ⟨_, _, _, h, ht.write_queue⟩,
      .write_queue d _⟩

/-! ## Claims -/

section Claim

def claimParams (aggregateId : Int) (target : ClaimTarget) : List Value :=
  [.int aggregateId, .text target.site, .text target.ce, .text target.host]

theorem Tables.run_candidate (h : Listing s jobs beats assignedAt)
    (ht : Tables d jobs beats assignedAt) (now : Instant) (aggregateId : Int)
    (target : ClaimTarget) :
    claimCandidate.run (d.surroundings (claimParams aggregateId target) now []) =
      (s.firstWaiting? aggregateId).toList.map fun j => [("queue_id", .int j.id)] := by
  let w := d.surroundings (claimParams aggregateId target) now []
  let g : Job → Bindings := fun j => [("queue", jobRow assignedAt j)]
  have hcompare : ∀ j k : Job, Select.compareBy w (g j) (g k) claimCandidate.order =
      compare j.id k.id := fun _ _ => Ordering.then_eq
  have haccepts : ∀ j ∈ jobs, claimCandidate.accepts w (g j) =
      (j.status = .waiting && j.aggregateId == some aggregateId) := by
    intro j _
    have hstatus : (same (col "status") (.text "WAITING")).eval w (g j) =
        .bool (decide (j.status.name = Status.waiting.name)) := Expr.eval_eq_text rfl rfl
    have haggregate : ((same (col "aggregate_id") (.param 1)).eval w (g j)).isTrue =
        (j.aggregateId == some aggregateId) := by
      have hcolumn : (col "aggregate_id").eval w (g j) = .ofOption .int j.aggregateId := rfl
      have hparam : (Expr.param 1).eval w (g j) = .int aggregateId := rfl
      rw [same, Expr.eval, hcolumn, hparam]
      cases j.aggregateId with
      | none => rfl
      | some a => exact (Value.isTrue_bool _).trans (Comparison.holds_eq a aggregateId)
    show Value.isTrue (Expr.eval w (g j) (.and _ _)) = _
    rw [Expr.eval, Value.isTrue_conj, hstatus, haggregate, Value.isTrue_bool]
    simp only [Status.name_inj]
  have hrun := Select.run_map_first (s := claimCandidate) (w := w) (g := g) ht.rowsOf_queue
    (fun _ _ => rfl) haccepts rfl
  simp only [hcompare, h.sort_jobs, List.head?_filter] at hrun
  exact hrun

variable {aggregateId : Int}

def Store.claimedJob (j : Job) (aggregateId : Int) : ClaimedJob :=
  { jobId := j.id, resubmission := j.resubmission, owner := j.owner, jdl := j.jdl, aggregateId }

/-- What a claim sets the columns of a job to. -/
def claimValues (target : ClaimTarget) (n : Int) (now : Instant) : Row :=
  [("status", .text Status.assigned.name), ("site", .text target.site), ("ce", .text target.ce),
   ("exec_host", .text target.host), ("resubmission", .int n), ("assigned_at", .time now)]

theorem fits_claimValues {target : ClaimTarget} {n : Int}
    (hnames : ∀ name ∈ [target.site, target.ce, target.host], (Kind.varchar 255).Fits (.text name))
    (hnumber : FitsInt32 n) (hnow : now.IsTimestamp) :
    Schema.queue.Fits (claimValues target n now) := by
  obtain ⟨hsite, hnames⟩ := List.forall_mem_cons.mp hnames
  obtain ⟨hce, hnames⟩ := List.forall_mem_cons.mp hnames
  have hhost := List.forall_mem_singleton.mp hnames
  exact .cons Status.assigned.fits_name
    (.cons hsite (.cons hce (.cons hhost (.cons hnumber (.cons hnow .nil)))))

/-- The tables as the update of a claim sees them. -/
def claimSurroundings (d : Database) (now : Instant) (aggregateId : Int) (target : ClaimTarget)
    (j : Job) : Sql.Surroundings :=
  d.surroundings (claimParams aggregateId target) now [("candidate", [[("queue_id", .int j.id)]])]

theorem guards_claim (d : Database) (jobs : List Job) (assignedAt : Int → Option Instant)
    (now : Instant) (aggregateId : Int) (target : ClaimTarget) (j : Job) :
    Guards claimUpdate (claimSurroundings d now aggregateId target j) jobs assignedAt j.id
      (fun k => decide (k.status = .waiting)) [("candidate", [("queue_id", .int j.id)])] := by
  refine Listing.guards_of_origin rfl fun k _ => ?_
  show Value.isTrue (Expr.eval (claimSurroundings d now aggregateId target j) _
    (.and (same _ _) (same _ _))) = _
  rw [Expr.eval, Value.isTrue_conj, same,
    Expr.eval_eq_int (m := k.id) (n := j.id) rfl rfl, same,
    Expr.eval_eq_text (s := k.status.name) (t := Status.waiting.name) rfl rfl]
  simp only [Value.isTrue_bool, Status.name_inj]

theorem Tables.execute_claim_hit (hnow : now.IsTimestamp) {target : ClaimTarget}
    (h : Listing s jobs beats assignedAt)
    (ht : Tables d jobs beats assignedAt) (hfirst : s.firstWaiting? aggregateId = some j)
    (hfits : (StoreCall.claimWaiting aggregateId target).FitsTables s)
    (hj' : j' = Store.claimed j target now) :
    d.execute now StoreStatement.claim (claimParams aggregateId target) =
      .ok ({ rows := [(Store.claimedJob j' aggregateId).toRow], affected := 1 },
        d.put (jobs.map fun k => if k.id = j'.id then j' else k) (beat j'.id now beats)
          (Function.update assignedAt j'.id (some now))) := by
  obtain ⟨hj, hwaiting, -⟩ := Store.firstWaiting?_eq_some hfirst
  obtain ⟨hbig, hnumber⟩ := hfits.2 j hfirst
  have hcandidate := ht.run_candidate h now aggregateId target
  rw [hfirst] at hcandidate
  have hid : j'.id = j.id := by
    rw [hj']
    rfl
  have hset : claimUpdate.set.applied? Schema.queue (claimSurroundings d now aggregateId target j)
      [("q", jobRow assignedAt j), ("candidate", [("queue_id", .int j.id)])]
      (jobRow assignedAt j) = .ok (jobRow (Function.update assignedAt j'.id (some now)) j') := by
    rw [jobRow, jobRow, Function.update_self, hj', Store.claimed, wrapInt32_of_fits hnumber]
    exact Assignments.applied?_of_fits rfl (fits_claimValues hfits.1 hnumber hnow)
  have hguards := guards_claim d jobs assignedAt now aggregateId target j
  rw [← hid] at hguards
  have hrows : (claimSurroundings d now aggregateId target j).rowsOf claimUpdate.target.table =
      jobs.map (jobRow assignedAt) := ht.rowsOf_queue
  have hupdate := h.update_hit hrows hguards (hid ▸ hj)
    (decide_eq_true hwaiting) hset fun k hk => Function.update_of_ne hk _ _
  refine (Database.runParts_part hcandidate).trans ?_
  refine (Database.runParts_update claimUpdate ht.queue hupdate).trans ?_
  refine (Database.runParts_cons (ht.runPart_heartbeat_one h rfl rfl rfl (hid ▸ hbig) hnow)).trans ?_
  exact Database.runParts_select rfl rfl rfl rfl rfl

theorem Tables.execute_claim_refused {target : ClaimTarget} (h : Listing s jobs beats assignedAt)
    (ht : Tables d jobs beats assignedAt) (hfirst : s.firstWaiting? aggregateId = some j)
    {e : DatabaseError}
    (hrefused : Schema.queue.store? (claimValues target (j.resubmission + 1) now) = .error e) :
    d.execute now StoreStatement.claim (claimParams aggregateId target) = .error e := by
  obtain ⟨hj, hwaiting, -⟩ := Store.firstWaiting?_eq_some hfirst
  have hcandidate := ht.run_candidate h now aggregateId target
  rw [hfirst] at hcandidate
  have hset : claimUpdate.set.applied? Schema.queue (claimSurroundings d now aggregateId target j)
      [("q", jobRow assignedAt j), ("candidate", [("queue_id", .int j.id)])]
      (jobRow assignedAt j) = .error e :=
    congrArg (· >>= fun stored => pure ((jobRow assignedAt j).setAll stored)) hrefused
  have hupdate := h.update_refused ht.rowsOf_queue
    (guards_claim d jobs assignedAt now aggregateId target j)
    ((Store.id_of_get? hj).symm ▸ hj) (decide_eq_true hwaiting) hset
  refine (Database.runParts_part hcandidate).trans ?_
  exact Database.runParts_refused ((Database.runPart_update claimUpdate ht.queue).trans hupdate)

theorem Tables.execute_claim_miss (now : Instant) (target : ClaimTarget)
    (h : Listing s jobs beats assignedAt)
    (ht : Tables d jobs beats assignedAt) (hfirst : s.firstWaiting? aggregateId = none) :
    d.execute now StoreStatement.claim (claimParams aggregateId target) =
      .ok ({ rows := [], affected := 0 }, d.put jobs beats assignedAt) := by
  have hcandidate := ht.run_candidate h now aggregateId target
  rw [hfirst] at hcandidate
  have hupdate : claimUpdate.run Schema.queue (d.surroundings (claimParams aggregateId target) now
      [("candidate", [])]) =
      .ok { rows := [], affected := 0, written := some ("queue", jobs.map (jobRow assignedAt)) } :=
    Update.run_miss ht.rowsOf_queue fun _ _ => rfl
  refine (Database.runParts_part hcandidate).trans ?_
  refine (Database.runParts_update claimUpdate ht.queue hupdate).trans ?_
  refine (Database.runParts_cons (ht.runPart_heartbeat_none rfl rfl)).trans ?_
  exact Database.runParts_select rfl rfl rfl rfl rfl

end Claim

theorem Holds.claimWaiting (hd : Holds d s) (hnow : now.IsTimestamp) {aggregateId : Int}
    {target : ClaimTarget} (hfits : (StoreCall.claimWaiting aggregateId target).FitsTables s) :
    Answers now (Querying.perform t (.claimWaiting aggregateId target)) d
      (s.claimWaiting aggregateId target now).1 (s.claimWaiting aggregateId target now).2 := by
  have ⟨jobs, beats, assignedAt, h, ht⟩ := hd
  rw [Querying.perform, Store.claimWaiting]
  cases hfirst : s.firstWaiting? aggregateId with
  | none =>
    have hexecute := ht.execute_claim_miss now target h hfirst
    exact ⟨_, .bind (.bounded hexecute) (.firstRow (f := ClaimedJob.toRow) rfl fun _ h =>
      nomatch h), ⟨_, _, _, h, ht.put⟩, .put d⟩
  | some j =>
    obtain ⟨hj, -, -⟩ := Store.firstWaiting?_eq_some hfirst
    have hexecute := ht.execute_claim_hit hnow h hfirst hfits rfl
    refine ⟨_, .bind (.bounded hexecute) (.firstRow (f := ClaimedJob.toRow)
      (o := some (Store.claimedJob (Store.claimed j target now) aggregateId)) rfl ?_), ?_, .put d⟩
    · rintro _ ⟨⟩
      exact ClaimedJob.ofRow_toRow _
    · refine ht.heard h hj ?_ rfl fun k hk => Function.update_of_ne hk _ _
      rfl

/-! ## All calls -/

def StoreCall.isAboutJobs : StoreCall → Bool
  | getJobs _ | claimWaiting _ _ | updateStatus _ | touchHeartbeat _ _ | forceStatus _ _
  | staleJobs _ _ | transitionIfStale _ _ _ _ => true
  | _ => false

/-- What a database answers is what the store answers, and it holds the
jobs of the store after. -/
theorem Holds.answers (t : Timeouts) (hnow : now.IsTimestamp) {c : StoreCall}
    (hc : c.isAboutJobs = true) (hfits : c.FitsTables s) (hd : Holds d s) :
    ∃ v, (s.perform now c).1 = .ok v ∧
      Answers now (Querying.perform t c) d v (s.perform now c).2 := by
  cases c with
  | getJobs ids => exact ⟨_, rfl, hd.getJobs ids⟩
  | claimWaiting aggregateId target => exact ⟨_, rfl, hd.claimWaiting hnow hfits⟩
  | updateStatus change => exact ⟨_, rfl, hd.updateStatus hnow hfits⟩
  | touchHeartbeat jobId n => exact ⟨_, rfl, hd.touchHeartbeat hnow hfits n⟩
  | forceStatus jobId target => exact ⟨_, rfl, hd.forceStatus jobId target⟩
  | staleJobs statuses olderThan => exact ⟨_, rfl, hd.staleJobs statuses hfits⟩
  | transitionIfStale jobId sources target olderThan =>
    exact ⟨_, rfl, hd.transitionIfStale jobId sources target hfits⟩
  | _ => exact absurd hc Bool.false_ne_true

/-- A database that holds the jobs of a store answers each call about them
as the store does, if its tables have room for the call; it holds the jobs
of the store after, and its other tables are as they were. -/
theorem database_answers_as_memory (t : Timeouts) (hnow : now.IsTimestamp) {c : StoreCall}
    (hc : c.isAboutJobs = true) (hfits : c.FitsTables s) (hd : Holds d s) :
    ∃ v d', (s.perform now c).1 = .ok v ∧ (Querying.perform t c).Gives now d v d' ∧
      Holds d' (s.perform now c).2 ∧ KeepsOthers d d' := by
  obtain ⟨v, hv, d', hgives, hd', hkeeps⟩ := hd.answers t hnow hc hfits
  exact ⟨v, d', hv, hgives, hd', hkeeps⟩

/-- A waiting job is claimed in both stores. -/
theorem database_answers_as_memory_of_claim :
    let s := ({} : Store).insertJob (waitingJob 1 5)
    let c := StoreCall.claimWaiting 5 ⟨"site", "ce", "host"⟩
    let now := Instant.ofMillis 0
    let claimed : ClaimedJob := ⟨1, 1, ⟨"alice", "submit"⟩, "", 5⟩
    now.IsTimestamp ∧ c.isAboutJobs = true ∧ c.FitsTables s ∧ Holds s.database s ∧
      (s.perform now c).1 = .ok (some claimed) ∧
      ∃ d', (Querying.perform {} c).Gives now s.database (some claimed) d' ∧
        Holds d' (s.perform now c).2 := by
  intro s c now claimed
  have hnow : now.IsTimestamp := by decide
  have hd : Holds s.database s := s.holds_database
  have hclaimed : (s.perform now c).1 = .ok (some claimed) := rfl
  have hnames : ∀ name ∈ ["site", "ce", "host"],
      name.toList.length ≤ 255 ∧ Kind.isText name = true := by decide
  have hfirst : s.firstWaiting? 5 = some (waitingJob 1 5) := rfl
  have hfits : c.FitsTables s := by
    refine ⟨hnames, fun j hj => ?_⟩
    obtain rfl : waitingJob 1 5 = j := Option.some.inj (hfirst.symm.trans hj)
    exact ⟨by decide, by decide⟩
  obtain ⟨v, d', hv, hgives, hd', -⟩ :=
    database_answers_as_memory {} hnow (c := c) rfl hfits hd
  obtain rfl : v = some claimed := Except.ok.inj (hv.symm.trans hclaimed)
  exact ⟨hnow, rfl, hfits, hd, hclaimed, d', hgives, hd'⟩

theorem Holds.claim_refused (hd : Holds d s) {aggregateId : Int} {target : ClaimTarget}
    (hfirst : s.firstWaiting? aggregateId = some j) {e : DatabaseError}
    (hrefused : Schema.queue.store? (claimValues target (j.resubmission + 1) now) = .error e) :
    (Querying.perform t (.claimWaiting aggregateId target)).Ends now d
      (.error (.ofDatabase e)) d := by
  have ⟨jobs, beats, assignedAt, h, ht⟩ := hd
  exact .bind_error (.refused (ht.execute_claim_refused h hfirst hrefused))

/-- The host of an agent may be of any length in memory; in a database its
job is not claimed if the name is longer than its column. -/
theorem Holds.claim_refused_of_long_host (hd : Holds d s) {aggregateId : Int} {target : ClaimTarget}
    (hfirst : s.firstWaiting? aggregateId = some j)
    (hnames : ∀ name ∈ [target.site, target.ce], (Kind.varchar 255).Fits (.text name))
    (htext : Kind.isText target.host = true)
    (hlong : (target.host.toList.drop 255).all (· == ' ') = false) :
    (Querying.perform t (.claimWaiting aggregateId target)).Ends now d
      (.error (.query (.refused "value too long for type character varying(255)"))) d := by
  have hbefore : Schema.queue.Fits
      [("status", .text Status.assigned.name), ("site", .text target.site),
       ("ce", .text target.ce)] :=
    .cons Status.assigned.fits_name
      (.cons (hnames _ (by simp)) (.cons (hnames _ (by simp)) .nil))
  exact hd.claim_refused hfirst
    (Layout.store?_of_refused hbefore (Kind.store?_of_long htext hlong))

/-- A waiting job, and a host with a long name. -/
theorem long_host_is_refused :
    let s := ({} : Store).insertJob (waitingJob 1 5)
    let c := StoreCall.claimWaiting 5 ⟨"site", "ce", String.ofList (List.replicate 256 'h')⟩
    let now := Instant.ofMillis 0
    c.isAboutJobs = true ∧ Holds s.database s ∧ now.IsTimestamp ∧
      (s.perform now c).1 = .ok (some ⟨1, 1, ⟨"alice", "submit"⟩, "", 5⟩) ∧
      (Querying.perform {} c).Ends now s.database
        (.error (.query (.refused "value too long for type character varying(255)"))) s.database := by
  intro s c now
  have hshort : ∀ name ∈ ["site", "ce"], name.toList.length ≤ 255 ∧ Kind.isText name = true := by
    decide
  refine ⟨rfl, s.holds_database, by decide, rfl,
    s.holds_database.claim_refused_of_long_host (j := waitingJob 1 5) rfl hshort ?_ ?_⟩
  · rw [Kind.isText, String.toList_ofList, List.all_replicate]
    decide
  · rw [String.toList_ofList, List.drop_replicate, List.all_replicate]
    decide

/-- Calls that are made one after another, each at its own time, are
answered as in memory. -/
def AnswersAll (t : Timeouts) : List (Instant × StoreCall) → Database → Store → Prop
  | [], d, s => Holds d s
  | (now, c) :: rest, d, s =>
      ∃ v d', (s.perform now c).1 = .ok v ∧ (Querying.perform t c).Gives now d v d' ∧
        AnswersAll t rest d' (s.perform now c).2

theorem Holds.answersAll (t : Timeouts) : ∀ {calls : List (Instant × StoreCall)} {d : Database}
    {s : Store}, (∀ e ∈ calls, e.2.isAboutJobs = true) → StoreCall.AllFitTables calls s →
      Holds d s → AnswersAll t calls d s
  | [], _, _, _, _, hd => hd
  | (now, c) :: rest, d, s, hcalls, hfits, hd => by
      obtain ⟨hnow, hc, hrest⟩ := hfits
      obtain ⟨v, hv, d', hgives, hd', -⟩ :=
        hd.answers t hnow (hcalls (now, c) (List.mem_cons_self ..)) hc
      exact ⟨v, d', hv, hgives,
        answersAll t (fun e he => hcalls e (List.mem_cons_of_mem _ he)) hrest hd'⟩

end GridQueue
