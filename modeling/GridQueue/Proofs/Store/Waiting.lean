/-
# `GridQueue.Proofs.Store.Waiting` — the waiting jobs of an aggregate

The identifiers of the waiting jobs of an aggregate stand in ascending
order.  A claim takes the first one and leaves the others as they are, so
claims one after another take them in this order.

Hand-outs of a job are numbered in 32 bits.  The numbers go on as long as
there is a next one for every job that waits (`NumbersGoOn`).

    mem_waitingIds             which jobs wait
    pairwise_waitingIds        they are listed in order, each once
    perform_claimWaiting       what a claim returns and writes
    waitingIds_claimWaiting    the list is one shorter, at its head
    waitingIds_forceStatus     or without the job that was forced

A change to one job takes it out of the list, or leaves the list alone
(`waitingIds_eq`, `waitingIds_eq_erase`).  That is all the store does to it.
-/
import GridQueue.Proofs.Store.Effect
import Mathlib.Data.List.Sort

namespace GridQueue.Store

variable {s s' : Store} {aggregateId id : Int} {target : ClaimTarget} {now : Instant}

/-- The job waits to be claimed as one of this aggregate. -/
def isWaitingIn (aggregateId : Int) (j : Job) : Bool :=
  j.status = .waiting && j.aggregateId == some aggregateId

theorem isWaitingIn_iff {j : Job} :
    isWaitingIn aggregateId j = true ↔ j.status = .waiting ∧ j.aggregateId = some aggregateId := by
  simp [isWaitingIn]

/-- The jobs that can be claimed of an aggregate, in ascending order. -/
def waitingIds (s : Store) (aggregateId : Int) : List Int :=
  (s.jobs.values.filter (isWaitingIn aggregateId)).map (·.id)

theorem mem_waitingIds :
    id ∈ s.waitingIds aggregateId ↔
      ∃ j, s.jobs.get? id = some j ∧ j.status = .waiting ∧ j.aggregateId = some aggregateId := by
  simp only [waitingIds, List.mem_map, List.mem_filter, s.jobsKeyed.mem_values, isWaitingIn_iff]
  constructor
  · rintro ⟨j, ⟨hj, hw⟩, rfl⟩
    exact ⟨j, hj, hw⟩
  · rintro ⟨j, hj, hw⟩
    have hid := id_of_get? hj
    exact ⟨j, ⟨hid ▸ hj, hw⟩, hid⟩

theorem pairwise_waitingIds (s : Store) (aggregateId : Int) :
    (s.waitingIds aggregateId).Pairwise (· < ·) := by
  refine List.pairwise_map.mpr (List.Pairwise.filter _ ?_)
  exact s.jobsKeyed.pairwise_values.imp Int.compare_eq_lt.mp

theorem waitingIds_congr (h : s'.jobs = s.jobs) :
    s'.waitingIds aggregateId = s.waitingIds aggregateId := by
  rw [waitingIds, h, waitingIds]

theorem head?_waitingIds (s : Store) (aggregateId : Int) :
    (s.waitingIds aggregateId).head? = (s.firstWaiting? aggregateId).map (·.id) := by
  rw [waitingIds, List.head?_map, List.head?_filter]
  rfl

theorem perform_claimWaiting {found : Option ClaimedJob} :
    s.perform now (.claimWaiting aggregateId target) = (.ok found, s') ↔
      s.claimWaiting aggregateId target now = (found, s') := by
  rw [perform]
  cases s.claimWaiting aggregateId target now with
  | mk a b =>
      constructor
      · intro h
        cases h
        rfl
      · intro h
        cases h
        rfl

theorem claimWaiting_eq_none (h : s.claimWaiting aggregateId target now = (none, s')) :
    s' = s ∧ s.waitingIds aggregateId = [] := by
  unfold claimWaiting at h
  split at h
  · next hnone =>
    cases h
    have hhead := s.head?_waitingIds aggregateId
    rw [hnone] at hhead
    exact ⟨rfl, List.head?_eq_none_iff.mp hhead⟩
  · cases h

@[simp] theorem claimed_id {j : Job} : (claimed j target now).id = j.id := rfl

theorem waitingIds_insertJob_claimed {j : Job} {rest : List Int}
    (h : s.waitingIds aggregateId = j.id :: rest) :
    (s.insertJob (claimed j target now)).waitingIds aggregateId = rest := by
  have hsorted := h ▸ s.pairwise_waitingIds aggregateId
  obtain ⟨hleast, hrest⟩ := List.pairwise_cons.mp hsorted
  refine List.Pairwise.eq_of_mem_iff (pairwise_waitingIds ..) hrest ?_
  intro id
  rw [mem_waitingIds]
  by_cases hid : id = j.id
  · subst hid
    refine iff_of_false ?_ fun hmem => Int.lt_irrefl _ (hleast _ hmem)
    rintro ⟨k, hk, hw, -⟩
    rw [get?_insertJob, claimed_id, if_pos rfl] at hk
    cases hk
    cases hw
  · have hrow : (s.insertJob (claimed j target now)).jobs.get? id = s.jobs.get? id := by
      rw [get?_insertJob, claimed_id, if_neg hid]
    rw [hrow, ← mem_waitingIds, h, List.mem_cons, or_iff_right hid]

/-- There is a next number for every job that waits. -/
def NumbersGoOn (s : Store) : Prop :=
  ∀ j ∈ s.jobs.values, j.status = .waiting → FitsInt32 (j.resubmission + 1)

instance (s : Store) : Decidable s.NumbersGoOn :=
  inferInstanceAs (Decidable (∀ _ ∈ _, _ → _))

theorem NumbersGoOn.fits {j : Job} (h : s.NumbersGoOn) (hj : s.jobs.get? id = some j)
    (hw : j.status = .waiting) : FitsInt32 (j.resubmission + 1) :=
  h j (s.jobsKeyed.mem_values.mpr (id_of_get? hj ▸ hj)) hw

theorem claimWaiting_eq_some {job : ClaimedJob}
    (h : s.claimWaiting aggregateId target now = (some job, s')) :
    ∃ j rest, job = ⟨j.id, wrapInt32 (j.resubmission + 1), j.owner, j.jdl, aggregateId⟩ ∧
      s.jobs.get? j.id = some j ∧ j.status = .waiting ∧
      s.waitingIds aggregateId = j.id :: rest ∧ s' = s.insertJob (claimed j target now) := by
  unfold claimWaiting at h
  split at h
  · cases h
  · next j hj =>
    cases h
    obtain ⟨hget, hw, -⟩ := firstWaiting?_eq_some hj
    have hhead := s.head?_waitingIds aggregateId
    rw [hj] at hhead
    obtain ⟨rest, hrest⟩ := List.head?_eq_some_iff.mp hhead
    exact ⟨j, rest, rfl, hget, hw, hrest, rfl⟩

/-! ## When one job changes -/

theorem mem_waitingIds_iff_any :
    id ∈ s.waitingIds aggregateId ↔ (s.jobs.get? id).any (isWaitingIn aggregateId) = true := by
  simp only [mem_waitingIds, Option.any_eq_true, isWaitingIn_iff]

theorem waitingIds_eq
    (h : ∀ k, (s'.jobs.get? k).any (isWaitingIn aggregateId) =
      (s.jobs.get? k).any (isWaitingIn aggregateId)) :
    s'.waitingIds aggregateId = s.waitingIds aggregateId := by
  refine List.Pairwise.eq_of_mem_iff (pairwise_waitingIds ..) (pairwise_waitingIds ..) ?_
  intro k
  rw [mem_waitingIds_iff_any, mem_waitingIds_iff_any, h]

/-- A job that does not wait any more is missing from those that wait; if
it did not wait before, none is. -/
theorem waitingIds_eq_erase (hothers : ∀ k, k ≠ id → s'.jobs.get? k = s.jobs.get? k)
    (hout : (s'.jobs.get? id).any (isWaitingIn aggregateId) = false) :
    s'.waitingIds aggregateId = (s.waitingIds aggregateId).erase id := by
  have hsorted := s.pairwise_waitingIds aggregateId
  have hnodup : (s.waitingIds aggregateId).Nodup := hsorted.imp Int.ne_of_lt
  refine List.Pairwise.eq_of_mem_iff (pairwise_waitingIds ..)
    (hsorted.sublist List.erase_sublist) ?_
  intro k
  rw [hnodup.mem_erase_iff, mem_waitingIds_iff_any, mem_waitingIds_iff_any]
  by_cases hk : k = id
  · subst hk
    simp [hout]
  · simp [hothers k hk, hk]

/-- A claimed job is missing from those that wait, of every aggregate. -/
theorem waitingIds_claimWaiting {job : ClaimedJob}
    (h : s.claimWaiting aggregateId target now = (some job, s')) (other : Int) :
    job.jobId ∈ s.waitingIds aggregateId ∧
      s'.waitingIds other = (s.waitingIds other).erase job.jobId := by
  obtain ⟨j, rest, rfl, -, -, hwaiting, rfl⟩ := claimWaiting_eq_some h
  refine ⟨hwaiting ▸ List.mem_cons_self .., waitingIds_eq_erase ?_ ?_⟩
  · intro k hk
    rw [get?_insertJob, claimed_id, if_neg hk]
  · rw [get?_insertJob, claimed_id, if_pos rfl]
    simp [isWaitingIn, claimed]

theorem waitingIds_forceStatus {jobId : Int} {status : Status} (h : status.isFailure = true) :
    (s.forceStatus jobId status).2.waitingIds aggregateId =
      (s.waitingIds aggregateId).erase jobId := by
  have hne : status ≠ .waiting := by
    rintro rfl
    cases h
  refine waitingIds_eq_erase ?_ ?_
  · intro k hk
    rcases @forceStatus_job s ⟨0, false⟩ jobId status k with hsame | ⟨j, _, hj, -, hc⟩
    · exact hsame
    · cases hc with
      | force hid _ => exact absurd ((id_of_get? hj).symm.trans hid) hk
  · unfold forceStatus
    cases hj : s.jobs.get? jobId with
    | none => simp [hj]
    | some j =>
        dsimp only
        split
        · rw [get?_insertJob, if_pos (id_of_get? hj).symm]
          simp [isWaitingIn, hne]
        · next hnot =>
          -- only its own status cannot be forced on a job
          have hown : j.status = status := by simpa [Status.canForce, h] using hnot
          simp [hj, isWaitingIn, hown, hne]

end GridQueue.Store
