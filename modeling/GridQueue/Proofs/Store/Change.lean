/-
# `GridQueue.Proofs.Store.Change` — statements that change one job

The updates of the job store name one job and check it, so they change
that job or none.  `Guards` says which, for the rows of a listing, and
from it follows what the update returns and writes:

    update_miss      no such job, or it does not pass    nothing changes
    update_hit       it passes                           one row is replaced
    update_refused   it passes, a column does not        the statement fails

Two of them take the job as it was from the table itself.

That the columns take what is written is a hypothesis of `update_hit`
(`Layout.Fits`), and it is discharged where the values are known: names of
statuses are short enough for theirs (`Status.fits_name`), and for names
of sites and hosts the caller has to see to it.
-/
import GridQueue.Proofs.Store.Tables
import GridQueue.Store.Statement

namespace GridQueue

open Sql StoreStatement

variable {s : Store} {jobs : List Job} {beats : List (Int × Instant)}
  {assignedAt assignedAt' : Int → Option Instant} {w : Sql.Surroundings} {u : Update}
  {t : Layout}
  {b : Bindings} {g : Job → Bool} {id : Int} {j j' : Job}

/-- Of the jobs, an update changes the one with an identifier, and only if
it passes a check; it is changed with the same rows of others. -/
def Guards (u : Update) (w : Sql.Surroundings) (jobs : List Job)
    (assignedAt : Int → Option Instant) (id : Int) (g : Job → Bool) (b : Bindings) : Prop :=
  ∀ j ∈ jobs, u.partner? w (jobRow assignedAt j) = if j.id = id ∧ g j = true then some b else none

def Job.oldRow (j : Job) : Row := [("queue_id", .int j.id), ("status", .text j.status.name)]

theorem Status.fits_name (st : Status) : (Kind.varchar 32).Fits (.text st.name) := by
  cases st <;> exact ⟨by decide, by decide⟩

/-- A status is written, and perhaps a heartbeat, which has no column. -/
theorem jobRow_apply_status {e : Expr} {st : Status}
    {last : Option Instant} (he : e.eval w b = .text st.name)
    (hj' : j' = { j with status := st, lastHeartbeat := last }) :
    Assignments.applied? [("status", e)] Schema.queue w b (jobRow assignedAt j) =
      .ok (jobRow assignedAt j') := by
  have hvalues : Assignments.values [("status", e)] w b = [("status", .text st.name)] := by
    rw [← he]
    rfl
  have hfits : Schema.queue.Fits [("status", .text st.name)] := .cons st.fits_name .nil
  rw [Assignments.applied?_of_fits hvalues hfits, hj']
  rfl

namespace Listing

theorem update_miss (h : Listing s jobs beats assignedAt)
    (hrows : w.rowsOf u.target.table = jobs.map (jobRow assignedAt))
    (hguards : Guards u w jobs assignedAt id g b)
    (hfails : ∀ j, s.jobs.get? id = some j → g j = false) :
    u.run t w = .ok { rows := [], affected := 0
                      written := some (u.target.table, jobs.map (jobRow assignedAt)) } := by
  refine Update.run_miss hrows fun j hj => ?_
  rw [hguards j hj, if_neg]
  rintro ⟨rfl, hg⟩
  rw [hfails j (h.mem_jobs.mp hj)] at hg
  exact Bool.false_ne_true hg

theorem update_hit (h : Listing s jobs beats assignedAt)
    (hrows : w.rowsOf u.target.table = jobs.map (jobRow assignedAt))
    (hguards : Guards u w jobs assignedAt j'.id g b) (hj : s.jobs.get? j'.id = some j)
    (hg : g j = true)
    (hset : u.set.applied? t w ((u.target.name, jobRow assignedAt j) :: b) (jobRow assignedAt j) =
      .ok (jobRow assignedAt' j'))
    (hothers : ∀ id, id ≠ j'.id → assignedAt' id = assignedAt id) :
    u.run t w =
      .ok { rows := if u.returning.isEmpty then []
              else [Select.output w ((u.target.name, jobRow assignedAt' j') :: b) u.returning]
            affected := 1
            written := some (u.target.table,
              (jobs.map fun k => if k.id = j'.id then j' else k).map (jobRow assignedAt')) } := by
  have hid : j.id = j'.id := Store.id_of_get? hj
  have hmem : j ∈ jobs := h.mem_of_get? hj
  have hpartner : u.partner? w (jobRow assignedAt j) = some b := by
    rw [hguards j hmem, if_pos ⟨hid, hg⟩]
  rw [Update.run_hit hrows h.nodup_ids hmem ?_ hpartner hset]
  · simp only [hid, map_jobRow_replace rfl hothers]
  · intro k hk hne
    rw [hguards k hk, if_neg fun hkid => hne (hkid.1.trans hid.symm)]

theorem update_refused (h : Listing s jobs beats assignedAt)
    (hrows : w.rowsOf u.target.table = jobs.map (jobRow assignedAt))
    (hguards : Guards u w jobs assignedAt j.id g b) (hj : s.jobs.get? j.id = some j)
    (hg : g j = true) {e : DatabaseError}
    (hset : u.set.applied? t w ((u.target.name, jobRow assignedAt j) :: b) (jobRow assignedAt j) =
      .error e) : u.run t w = .error e := by
  have hmem : j ∈ jobs := h.mem_of_get? hj
  refine Update.run_refused hrows hmem (fun k hk hne => ?_) h.nodup_ids ?_ hset
  · rw [hguards k hk, if_neg fun hkid => hne hkid.1]
  · rw [hguards j hmem, if_pos ⟨rfl, hg⟩]

/-! ## Where the rows of others come from -/

theorem guards_of_origin (horigins : u.origins w = [b])
    (hcondition : ∀ j ∈ jobs,
      (u.condition.eval w ((u.target.name, jobRow assignedAt j) :: b)).isTrue =
        (decide (j.id = id) && g j)) :
    Guards u w jobs assignedAt id g b := by
  intro j hj
  rw [Update.partner?, horigins, List.find?_singleton, hcondition j hj]
  simp only [Bool.and_eq_true, decide_eq_true_eq]

theorem select_job (h : Listing s jobs beats assignedAt)
    (hqueue : w.rowsOf "queue" = jobs.map (jobRow assignedAt)) (hid : w.params[0]? = some (.int id))
    {q : Select} (hsource : q.source = ⟨"queue", ""⟩) (hjoin : q.join = none)
    (hcondition : q.condition = some (same (col "queue_id") (.param 1))) (hlimit : q.limit = none)
    (horder : q.order = []) :
    q.run w = (s.jobs.get? id).toList.map fun j =>
      Select.output w [("queue", jobRow assignedAt j)] q.outputs := by
  have hparam : ∀ b, (Expr.param 1).eval w b = .int id := fun b => by
    rw [Expr.eval, if_neg Nat.one_ne_zero, hid]
    rfl
  rw [← h.filter_jobs]
  refine Select.run_unordered (f := jobRow assignedAt) (by rw [hsource, hqueue]) ?_ ?_ hlimit horder
  · intro j _
    rw [Select.joined, hjoin, hsource]
    rfl
  · intro j _
    rw [Select.accepts, hcondition]
    show Value.isTrue (Expr.eval w _ (same _ _)) = _
    rw [same, Expr.eval_eq_int (m := j.id) rfl (hparam _), Value.isTrue_bool]

theorem origins_oldJob (h : Listing s jobs beats assignedAt)
    (hqueue : w.rowsOf "queue" = jobs.map (jobRow assignedAt)) (hid : w.params[0]? = some (.int id))
    (horigin : u.origin = some oldJob) :
    u.origins w = (s.jobs.get? id).toList.map fun j => [("old", j.oldRow)] := by
  rw [Update.origins, horigin, oldJob]
  simp only [h.select_job hqueue hid, List.map_map]
  rfl

/-- A change of the job as it was: there is no such job, or it does not
pass. -/
theorem update_old_miss (h : Listing s jobs beats assignedAt)
    (hqueue : w.rowsOf "queue" = jobs.map (jobRow assignedAt)) (hid : w.params[0]? = some (.int id))
    (horigin : u.origin = some oldJob) (htarget : u.target.table = "queue")
    (hguards : ∀ j, s.jobs.get? id = some j → Guards u w jobs assignedAt id g [("old", j.oldRow)])
    (hfails : ∀ j, s.jobs.get? id = some j → g j = false) :
    u.run t w =
      .ok { rows := [], affected := 0, written := some ("queue", jobs.map (jobRow assignedAt)) } := by
  have hrows : w.rowsOf u.target.table = jobs.map (jobRow assignedAt) := by rw [htarget, hqueue]
  rw [← htarget]
  cases hj : s.jobs.get? id with
  | none =>
    have horigins := h.origins_oldJob hqueue hid horigin
    rw [hj] at horigins
    refine Update.run_miss hrows fun k _ => ?_
    rw [Update.partner?, horigins]
    rfl
  | some j => exact h.update_miss hrows (hguards j hj) hfails

end Listing

end GridQueue
