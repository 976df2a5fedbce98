/-
# `GridQueue.Proofs.Store.Tables` — the jobs of a store in two tables

A database holds the jobs of a store in two tables, in any order:

| table             | has a row for                  | with                     |
| :---------------- | :----------------------------- | :----------------------- |
| `queue`           | every job                      | all but its heartbeat    |
| `queue_heartbeat` | every job that was heard from  | when that was            |

A row of the first also says when the job was assigned, which the store in
memory does not keep; an assignment is a sign of life, so a job with such
a time has a heartbeat (`Listing.assigned`).

What a statement may do to one job is to change its row (`Listing.change`)
or to change its row and write its heartbeat (`Listing.hear`).
-/
import GridQueue.Proofs.Sql.Condition
import GridQueue.Proofs.Sql.Rows
import GridQueue.Proofs.Store.Effect
import GridQueue.Proofs.Table
import GridQueue.Store.Rows
import GridQueue.Store.Schema

namespace GridQueue

open Sql

/-! ## Rows in any order -/

/-- When a job was last heard from, if it was, as its own row. -/
def Job.heartbeat? (j : Job) : Option (Int × Instant) := j.lastHeartbeat.map (j.id, ·)

/-- Writes a heartbeat in the stead of an earlier one. -/
def beat (id : Int) (time : Instant) (beats : List (Int × Instant)) : List (Int × Instant) :=
  if beats.any fun b => decide (b.1 = id) then
    beats.map fun b => if b.1 = id then (id, time) else b
  else beats ++ [(id, time)]

/-- Jobs and heartbeats in the order of the tables that hold a store, and
when its jobs were assigned. -/
structure Listing (s : Store) (jobs : List Job) (beats : List (Int × Instant))
    (assignedAt : Int → Option Instant) : Prop where
  jobsPerm : jobs.Perm s.jobs.values
  beatsPerm : beats.Perm (s.jobs.values.filterMap Job.heartbeat?)
  assigned : ∀ j ∈ jobs, (assignedAt j.id).isSome = true → j.lastHeartbeat.isSome = true

namespace Listing

variable {s : Store} {jobs : List Job} {beats : List (Int × Instant)}
  {assignedAt assignedAt' : Int → Option Instant} {id : Int} {j j' : Job} {p : Job → Bool}

theorem mem_jobs (h : Listing s jobs beats assignedAt) :
    j ∈ jobs ↔ s.jobs.get? j.id = some j :=
  h.jobsPerm.mem_iff.trans s.jobsKeyed.mem_values

theorem mem_of_get? (h : Listing s jobs beats assignedAt) (hj : s.jobs.get? id = some j) :
    j ∈ jobs := by
  rw [h.mem_jobs, Store.id_of_get? hj]
  exact hj

theorem nodup_ids (h : Listing s jobs beats assignedAt) : (jobs.map (·.id)).Nodup :=
  (h.jobsPerm.map _).nodup_iff.mpr s.jobsKeyed.nodup_names

theorem filter_jobs (h : Listing s jobs beats assignedAt) (id : Int) :
    (jobs.filter fun j => decide (j.id = id)) = (s.jobs.get? id).toList :=
  s.jobsKeyed.filter_perm h.jobsPerm id

theorem filter_beats (h : Listing s jobs beats assignedAt) (id : Int) :
    (beats.filter fun b => decide (b.1 = id)) = ((s.jobs.get? id).bind Job.heartbeat?).toList := by
  have hperm := h.beatsPerm.filter fun b => decide (b.1 = id)
  have hvalues : (s.jobs.values.filterMap Job.heartbeat?).filter (fun b => decide (b.1 = id)) =
      ((s.jobs.get? id).bind Job.heartbeat?).toList := by
    rw [List.filter_filterMap]
    have hkey : ∀ j : Job, j.heartbeat?.filter (fun b => decide (b.1 = id)) =
        if decide (j.id = id) then j.heartbeat? else none := by
      intro j
      cases hlast : j.lastHeartbeat <;> simp [Job.heartbeat?, hlast, Option.filter_some]
    simp only [hkey]
    rw [← List.filterMap_filter, s.jobsKeyed.filter_values]
    cases s.jobs.get? id with
    | none => rfl
    | some j => cases hj : j.heartbeat? <;> simp [hj]
  rw [hvalues] at hperm
  cases hj : (s.jobs.get? id).bind Job.heartbeat? with
  | none =>
    rw [hj] at hperm
    exact List.perm_nil.mp hperm
  | some b =>
    rw [hj] at hperm
    exact List.perm_singleton.mp hperm

/-- Sorted by their identifiers, the rows come in the order of the store. -/
theorem sort_jobs (h : Listing s jobs beats assignedAt) (p : Job → Bool) :
    ((jobs.filter p).mergeSort fun j k => compare j.id k.id != .gt) = s.jobs.values.filter p :=
  s.jobsKeyed.mergeSort_filter h.jobsPerm p

/-! ## One job changes -/

theorem values_insertJob (hj : s.jobs.get? j'.id = some j) :
    (s.insertJob j').jobs.values = s.jobs.values.map fun k => if k.id = j'.id then j' else k :=
  s.jobsKeyed.values_insert_eq_map hj

/-- A job is replaced, and the heartbeats are those of the jobs again. -/
theorem replace (h : Listing s jobs beats assignedAt) {beats' : List (Int × Instant)}
    (hj : s.jobs.get? j'.id = some j)
    (hbeats : beats'.Perm ((s.insertJob j').jobs.values.filterMap Job.heartbeat?))
    (hothers : ∀ id, id ≠ j'.id → assignedAt' id = assignedAt id)
    (hassigned : (assignedAt' j'.id).isSome = true → j'.lastHeartbeat.isSome = true) :
    Listing (s.insertJob j') (jobs.map fun k => if k.id = j'.id then j' else k) beats'
      assignedAt' := by
  refine ⟨?_, hbeats, ?_⟩
  · rw [values_insertJob hj]
    exact h.jobsPerm.map _
  · intro k hk hkassigned
    obtain ⟨i, hi, rfl⟩ := List.mem_map.mp hk
    by_cases hid : i.id = j'.id
    · rw [if_pos hid] at hkassigned ⊢
      exact hassigned hkassigned
    · rw [if_neg hid] at hkassigned ⊢
      exact h.assigned i hi (hothers i.id hid ▸ hkassigned)

/-- The row of one job is changed but for its heartbeat. -/
theorem change (h : Listing s jobs beats assignedAt) (hj : s.jobs.get? j'.id = some j)
    (hlast : j'.lastHeartbeat = j.lastHeartbeat) :
    Listing (s.insertJob j') (jobs.map fun k => if k.id = j'.id then j' else k) beats
      assignedAt := by
  have hid : j.id = j'.id := Store.id_of_get? hj
  refine h.replace hj ?_ (fun _ _ => rfl) ?_
  · rw [values_insertJob hj, List.filterMap_map]
    refine h.beatsPerm.trans (List.Perm.of_eq (List.filterMap_congr fun k hk => ?_))
    rw [Function.comp_apply]
    split
    · next hkid =>
      have hk' := s.jobsKeyed.mem_values.mp hk
      rw [hkid, hj] at hk'
      cases hk'
      rw [Job.heartbeat?, Job.heartbeat?, hlast, hid]
    · rfl
  · rw [hlast, ← hid]
    exact h.assigned j (h.mem_of_get? hj)

/-- The heartbeats of the other jobs stay, whether the job had one or not. -/
theorem perm_beat_cons (h : Listing s jobs beats assignedAt) (id : Int) (time : Instant) :
    (beat id time beats).Perm ((id, time) :: beats.filter fun b => !decide (b.1 = id)) := by
  have hothers : ∀ b ∈ beats.filter fun b => !decide (b.1 = id),
      (if b.1 = id then (id, time) else b) = b := by
    intro b hb
    obtain ⟨-, hne⟩ := List.mem_filter.mp hb
    exact if_neg (by simpa using hne)
  have hsplit := List.filter_append_perm (fun b : Int × Instant => decide (b.1 = id)) beats
  rw [h.filter_beats] at hsplit
  cases hkey : (s.jobs.get? id).bind Job.heartbeat? with
  | none =>
    have hnone : ∀ b ∈ beats, ¬ b.1 = id := by
      have hfilter := h.filter_beats id
      rw [hkey, Option.toList_none, List.filter_eq_nil_iff] at hfilter
      simpa using hfilter
    have hany : ¬ (beats.any fun b => decide (b.1 = id)) = true := by
      rw [List.any_eq_true]
      rintro ⟨b, hb, hid⟩
      exact hnone b hb (of_decide_eq_true hid)
    rw [beat, if_neg hany]
    rw [hkey] at hsplit
    exact (List.perm_append_singleton _ _).trans (hsplit.symm.cons _)
  | some b =>
    have hmem : b ∈ beats.filter fun b => decide (b.1 = id) := by
      rw [h.filter_beats, hkey]
      exact List.mem_singleton_self b
    obtain ⟨hb, hid⟩ := List.mem_filter.mp hmem
    rw [beat, if_pos (List.any_eq_true.mpr ⟨b, hb, hid⟩)]
    rw [hkey] at hsplit
    refine (hsplit.symm.map _).trans (List.Perm.of_eq ?_)
    rw [List.map_append, List.map_congr_left hothers, List.map_id']
    simp [of_decide_eq_true hid]

theorem perm_beat (h : Listing s jobs beats assignedAt) (hj : s.jobs.get? j'.id = some j)
    {time : Instant} (hlast : j'.lastHeartbeat = some time) :
    (beat j'.id time beats).Perm ((s.insertJob j').jobs.values.filterMap Job.heartbeat?) := by
  have hrest : ∀ k ∈ s.jobs.values.filter fun k => !decide (k.id = j'.id),
      (if k.id = j'.id then j' else k) = k := by
    intro k hk
    obtain ⟨-, hne⟩ := List.mem_filter.mp hk
    exact if_neg (by simpa using hne)
  have hsplit := List.filter_append_perm (fun k : Job => decide (k.id = j'.id)) s.jobs.values
  rw [s.jobsKeyed.filter_values, hj] at hsplit
  have hvalues : (s.insertJob j').jobs.values.Perm
      (j' :: s.jobs.values.filter fun k => !decide (k.id = j'.id)) := by
    rw [values_insertJob hj]
    refine (hsplit.symm.map _).trans (List.Perm.of_eq ?_)
    rw [List.map_append, List.map_congr_left hrest, List.map_id']
    simp [Store.id_of_get? hj]
  have hbeats : (s.jobs.values.filter fun k => !decide (k.id = j'.id)).filterMap Job.heartbeat? =
      (s.jobs.values.filterMap Job.heartbeat?).filter fun b => !decide (b.1 = j'.id) := by
    rw [List.filterMap_filter, List.filter_filterMap]
    refine List.filterMap_congr fun k _ => ?_
    cases hk : k.lastHeartbeat <;> simp [Job.heartbeat?, hk, Option.filter_some]
  have hnew : (s.insertJob j').jobs.values.filterMap Job.heartbeat? |>.Perm
      ((j'.id, time) ::
        (s.jobs.values.filter fun k => !decide (k.id = j'.id)).filterMap Job.heartbeat?) := by
    refine (hvalues.filterMap _).trans (List.Perm.of_eq ?_)
    rw [List.filterMap_cons_some (by rw [Job.heartbeat?, hlast]; rfl)]
  refine (h.perm_beat_cons j'.id time).trans (((h.beatsPerm.filter _).cons _).trans ?_)
  rw [← hbeats]
  exact hnew.symm

theorem hear (h : Listing s jobs beats assignedAt) (hj : s.jobs.get? j'.id = some j)
    {time : Instant} (hlast : j'.lastHeartbeat = some time)
    (hothers : ∀ id, id ≠ j'.id → assignedAt' id = assignedAt id) :
    Listing (s.insertJob j') (jobs.map fun k => if k.id = j'.id then j' else k)
      (beat j'.id time beats) assignedAt' := by
  refine h.replace hj (h.perm_beat hj hlast) hothers fun _ => ?_
  rw [hlast]
  rfl

theorem find_beat (h : Listing s jobs beats assignedAt) (id : Int) :
    beats.find? (fun b => decide (b.1 = id)) = (s.jobs.get? id).bind Job.heartbeat? := by
  rw [← List.head?_filter, h.filter_beats, Option.head?_toList]

end Listing

/-! ## The tables -/

/-- The row of a job, with the time at which it was assigned. -/
def jobRow (assignedAt : Int → Option Instant) (j : Job) : Row := j.toRow (assignedAt j.id)

def beatRow (b : Int × Instant) : Row := heartbeatRow b.1 b.2

/-- The two tables have the rows of a listing. -/
structure Tables (d : Database) (jobs : List Job) (beats : List (Int × Instant))
    (assignedAt : Int → Option Instant) : Prop where
  queue : d.table? "queue" = some ⟨Schema.queue, jobs.map (jobRow assignedAt)⟩
  heartbeats : d.table? "queue_heartbeat" = some ⟨Schema.queueHeartbeat, beats.map beatRow⟩

/-- The tables of jobs and heartbeats hold the jobs of a store, in any
order. -/
def Holds (d : Database) (s : Store) : Prop :=
  ∃ jobs beats assignedAt, Listing s jobs beats assignedAt ∧ Tables d jobs beats assignedAt

namespace Tables

variable {d : Database} {jobs jobs' : List Job} {beats beats' : List (Int × Instant)}
  {assignedAt assignedAt' : Int → Option Instant}

theorem rowsOf_queue (h : Tables d jobs beats assignedAt) :
    d.rowsOf "queue" = jobs.map (jobRow assignedAt) := by
  rw [Database.rowsOf, h.queue]
  rfl

theorem rowsOf_heartbeats (h : Tables d jobs beats assignedAt) :
    d.rowsOf "queue_heartbeat" = beats.map beatRow := by
  rw [Database.rowsOf, h.heartbeats]
  rfl

theorem write_queue (h : Tables d jobs beats assignedAt) :
    Tables (d.write "queue" (jobs'.map (jobRow assignedAt'))) jobs' beats assignedAt' := by
  constructor
  · rw [Database.table?_write, if_pos rfl, h.queue]
    rfl
  · rw [Database.table?_write, if_neg (by decide), h.heartbeats]

theorem write_heartbeats (h : Tables d jobs beats assignedAt) :
    Tables (d.write "queue_heartbeat" (beats'.map beatRow)) jobs beats' assignedAt := by
  constructor
  · rw [Database.table?_write, if_neg (by decide), h.queue]
  · rw [Database.table?_write, if_pos rfl, h.heartbeats]
    rfl

end Tables

/-- A database with the jobs of a store, each that was heard from assigned
then. -/
def Store.database (s : Store) : Database :=
  { tables :=
      [⟨Schema.queue, s.jobs.values.map (jobRow fun id => (s.jobs.get? id).bind (·.lastHeartbeat))⟩,
       ⟨Schema.queueHeartbeat, (s.jobs.values.filterMap Job.heartbeat?).map beatRow⟩] }

theorem Store.holds_database (s : Store) : Holds s.database s := by
  refine ⟨s.jobs.values, s.jobs.values.filterMap Job.heartbeat?,
    fun id => (s.jobs.get? id).bind (·.lastHeartbeat), ⟨.refl _, .refl _, ?_⟩, rfl, rfl⟩
  intro j hj hassigned
  rwa [s.jobsKeyed.mem_values.mp hj] at hassigned

def Sql.Database.put (d : Database) (jobs : List Job) (beats : List (Int × Instant))
    (assignedAt : Int → Option Instant) : Database :=
  (d.write "queue" (jobs.map (jobRow assignedAt))).write "queue_heartbeat" (beats.map beatRow)

theorem Tables.put {d : Database} {jobs jobs' : List Job} {beats beats' : List (Int × Instant)}
    {assignedAt assignedAt' : Int → Option Instant} (h : Tables d jobs beats assignedAt) :
    Tables (d.put jobs' beats' assignedAt') jobs' beats' assignedAt' :=
  h.write_queue.write_heartbeats

theorem map_jobRow_replace {jobs : List Job} {assignedAt assignedAt' : Int → Option Instant}
    {j' : Job} {r : Row} (hr : r = jobRow assignedAt' j')
    (hothers : ∀ id, id ≠ j'.id → assignedAt' id = assignedAt id) :
    (jobs.map fun k => if k.id = j'.id then r else jobRow assignedAt k) =
      (jobs.map fun k => if k.id = j'.id then j' else k).map (jobRow assignedAt') := by
  rw [List.map_map]
  refine List.map_congr_left fun k _ => ?_
  rw [Function.comp_apply]
  split
  · exact hr
  · next hk => rw [jobRow, jobRow, hothers k.id hk]

/-! ## After a change -/

section Changed

variable {d : Database} {s : Store} {jobs : List Job} {beats : List (Int × Instant)}
  {assignedAt assignedAt' : Int → Option Instant} {jobId : Int} {j j' : Job}

theorem Store.get?_of_sameId (hj : s.jobs.get? jobId = some j) (hid : j'.id = j.id) :
    s.jobs.get? j'.id = some j := by
  rw [hid, Store.id_of_get? hj]
  exact hj

theorem Tables.heard (h : Listing s jobs beats assignedAt) (ht : Tables d jobs beats assignedAt)
    (hj : s.jobs.get? jobId = some j) (hid : j'.id = j.id) {time : Instant}
    (hlast : j'.lastHeartbeat = some time)
    (hothers : ∀ id, id ≠ j'.id → assignedAt' id = assignedAt id) :
    Holds (d.put (jobs.map fun k => if k.id = j'.id then j' else k) (beat j'.id time beats)
      assignedAt') (s.insertJob j') :=
  ⟨_, _, _, h.hear (Store.get?_of_sameId hj hid) hlast hothers, ht.put⟩

/-- The row of one job was changed but for its heartbeat. -/
theorem Tables.changed (h : Listing s jobs beats assignedAt) (ht : Tables d jobs beats assignedAt)
    (hj : s.jobs.get? jobId = some j) (hid : j'.id = j.id)
    (hlast : j'.lastHeartbeat = j.lastHeartbeat) :
    Holds (d.write "queue" ((jobs.map fun k => if k.id = j'.id then j' else k).map
      (jobRow assignedAt))) (s.insertJob j') :=
  ⟨_, _, _, h.change (Store.get?_of_sameId hj hid) hlast, ht.write_queue⟩

end Changed

/-- Only the tables of jobs and heartbeats may have changed. -/
def KeepsOthers (d d' : Database) : Prop :=
  ∀ name, name ≠ "queue" → name ≠ "queue_heartbeat" → d'.table? name = d.table? name

namespace KeepsOthers

theorem refl (d : Database) : KeepsOthers d d := fun _ _ _ => rfl

theorem trans {d d' d'' : Database} (h : KeepsOthers d d') (h' : KeepsOthers d' d'') :
    KeepsOthers d d'' :=
  fun name hqueue hbeats => (h' name hqueue hbeats).trans (h name hqueue hbeats)

theorem write_queue (d : Database) (rows : List Row) : KeepsOthers d (d.write "queue" rows) :=
  fun name hqueue _ => by rw [Database.table?_write, if_neg hqueue]

theorem write_heartbeats (d : Database) (rows : List Row) :
    KeepsOthers d (d.write "queue_heartbeat" rows) :=
  fun name _ hbeats => by rw [Database.table?_write, if_neg hbeats]

theorem put (d : Database) {jobs : List Job} {beats : List (Int × Instant)}
    {assignedAt : Int → Option Instant} : KeepsOthers d (d.put jobs beats assignedAt) :=
  (write_queue d _).trans (write_heartbeats _ _)

end KeepsOthers

end GridQueue
