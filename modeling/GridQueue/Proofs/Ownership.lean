/-
# `GridQueue.Proofs.Ownership` — what the row of a job says of its hand-out

A claim stamps a job with the site, the computing element and the host it
is for, counts the hand-out and notes the time.  What the other calls of
the store write is much less:

| the call            | where the job runs | the count | the last sign of life |
| :------------------ | :----------------- | :-------- | :-------------------- |
| `claimWaiting`      | the request's      | one more  | now                   |
| `updateStatus`      |                    |           | now                   |
| `touchHeartbeat`    |                    |           | now                   |
| `forceStatus`       |                    |           |                       |
| `transitionIfStale` |                    |           |                       |

Nothing else of a job is ever written (`SameSubmission`).  The life cycle
lets a job into flight by a claim only, so a job that an agent should be
heard from bears the stamps of its claim (`WellFormed`), and they are
those of its latest claim (`lastClaimant`).  Its count is at least one as long
as there is a next number for every job that is claimed (`CanCount`): after
the greatest number comes the least one, far below zero.

Where the clock never goes back the last sign of life does not, either.
A run with such a clock is a run of `Timed` stores.
-/
import GridQueue.Proofs.Liveness.Age
import GridQueue.Proofs.Numbering

namespace GridQueue

open Matching

/-! ## The stamps of a claim -/

namespace Job

/-- The job was handed out: its row says where it runs and when it was
last heard from, and the hand-out is counted. -/
structure IsOwned (j : Job) : Prop where
  site : j.site.isSome = true
  ce : j.ce.isSome = true
  execHost : j.execHost.isSome = true
  heard : j.lastHeartbeat.isSome = true
  counted : 1 ≤ j.resubmission

/-- Hand-outs are counted from zero on, and a job that is in flight or a
zombie was handed out. -/
structure WellFormed (j : Job) : Prop where
  counted : 0 ≤ j.resubmission
  owned : j.status.isWatched = true → j.IsOwned

/-- The job runs where a claim was for. -/
structure IsAt (j : Job) (target : ClaimTarget) : Prop where
  site : j.site = some target.site
  ce : j.ce = some target.ce
  execHost : j.execHost = some target.host

/-- Two rows of one job as it was submitted. -/
structure SameSubmission (j j' : Job) : Prop where
  id : j'.id = j.id
  owner : j'.owner = j.owner
  jdl : j'.jdl = j.jdl
  priority : j'.priority = j.priority
  price : j'.price = j.price
  aggregateId : j'.aggregateId = j.aggregateId
  split : j'.split = j.split
  masterJob : j'.masterJob = j.masterJob
  submittedAt : j'.submittedAt = j.submittedAt

theorem SameSubmission.refl (j : Job) : j.SameSubmission j :=
  ⟨rfl, rfl, rfl, rfl, rfl, rfl, rfl, rfl, rfl⟩

theorem SameSubmission.trans {j j' j'' : Job} (h : j.SameSubmission j')
    (h' : j'.SameSubmission j'') : j.SameSubmission j'' where
  id := h'.id.trans h.id
  owner := h'.owner.trans h.owner
  jdl := h'.jdl.trans h.jdl
  priority := h'.priority.trans h.priority
  price := h'.price.trans h.price
  aggregateId := h'.aggregateId.trans h.aggregateId
  split := h'.split.trans h.split
  masterJob := h'.masterJob.trans h.masterJob
  submittedAt := h'.submittedAt.trans h.submittedAt

theorem SameSubmission.refl_row (row : Option Job) : Option.Rel SameSubmission row row := by
  cases row with
  | none => exact .none
  | some j => exact .some (.refl j)

theorem SameSubmission.trans_row {row row' row'' : Option Job}
    (h : Option.Rel SameSubmission row row') (h' : Option.Rel SameSubmission row' row'') :
    Option.Rel SameSubmission row row'' := by
  cases h with
  | none => exact h'
  | some h => cases h' with | some h' => exact .some (h.trans h')

/-- The row changed in its status and its last sign of life at most, which
is the old one or now. -/
structure KeepsStamps (now : Instant) (j j' : Job) : Prop where
  site : j'.site = j.site
  ce : j'.ce = j.ce
  execHost : j'.execHost = j.execHost
  resubmission : j'.resubmission = j.resubmission
  heard : j'.lastHeartbeat = j.lastHeartbeat ∨ j'.lastHeartbeat = some now

variable {now : Instant} {j j' : Job} {target : ClaimTarget}

theorem KeepsStamps.refl (now : Instant) (j : Job) : KeepsStamps now j j :=
  ⟨rfl, rfl, rfl, rfl, .inl rfl⟩

theorem KeepsStamps.isAt (h : KeepsStamps now j j') (hj : j.IsAt target) : j'.IsAt target :=
  ⟨h.site.trans hj.site, h.ce.trans hj.ce, h.execHost.trans hj.execHost⟩

theorem KeepsStamps.isOwned (h : KeepsStamps now j j') (hj : j.IsOwned) : j'.IsOwned where
  site := h.site ▸ hj.site
  ce := h.ce ▸ hj.ce
  execHost := h.execHost ▸ hj.execHost
  heard := by
    rcases h.heard with heq | heq
    · exact heq ▸ hj.heard
    · rw [heq, Option.isSome_some]
  counted := h.resubmission ▸ hj.counted

end Job

def Store.WellFormed (s : Store) : Prop := ∀ id j, s.jobs.get? id = some j → j.WellFormed

/-! ## What one call writes -/

namespace Store

variable {now : Instant} {c : StoreCall} {j j' : Job}

theorem isAt_claimed (j : Job) (target : ClaimTarget) (now : Instant) :
    (claimed j target now).IsAt target := ⟨rfl, rfl, rfl⟩

theorem JobChange.sameSubmission (h : JobChange now c j j') : j.SameSubmission j' := by
  cases h <;> exact ⟨rfl, rfl, rfl, rfl, rfl, rfl, rfl, rfl, rfl⟩

theorem JobChange.claim_or_keepsStamps (h : JobChange now c j j') :
    (∃ aggregateId target, c = .claimWaiting aggregateId target ∧ j' = claimed j target now) ∨
      j.KeepsStamps now j' := by
  cases h with
  | claim => exact .inl ⟨_, _, rfl, rfl⟩
  | report | heartbeat | revive => exact .inr ⟨rfl, rfl, rfl, rfl, .inr rfl⟩
  | force | giveUp => exact .inr ⟨rfl, rfl, rfl, rfl, .inl rfl⟩

/-- Whoever is heard from in a call is so now. -/
theorem JobChange.lastHeartbeat (h : JobChange now c j j') :
    j'.lastHeartbeat = j.lastHeartbeat ∨ j'.lastHeartbeat = some now := by
  rcases h.claim_or_keepsStamps with ⟨_, _, -, rfl⟩ | hkeeps
  · exact .inr rfl
  · exact hkeeps.heard

end Store

namespace Status

theorem isWatched_of_mover? {s s' : Status} {actor : Actor} (h : s.mover? s' = some actor)
    (hactor : actor ≠ .broker) (hwatched : s'.isWatched = true) : s.isWatched = true := by
  have hall : ∀ s s' : Status, s'.isWatched = true → s.isWatched = false →
      s.mover? s' = none ∨ s.mover? s' = some .broker := by
    intro s s' hs' hs
    cases s <;> first | cases hs; done | (cases s' <;> first | cases hs'; done | decide)
  by_contra hs
  rcases hall s s' hwatched (Bool.eq_false_iff.mpr hs) with hnone | hbroker
  · cases hnone.symm.trans h
  · exact hactor (Option.some.inj (h.symm.trans hbroker))

theorem isWatched_of_isFailure {s : Status} (h : s.isFailure = true) : s.isWatched = false := by
  cases s <;> first | rfl | cases h

end Status

namespace Task.Writer

variable {t : Task} {c : StoreCall} {now : Instant} {j j' : Job}

theorem isWatched_or_claim (h : t.Writer c) (hc : Store.JobChange now c j j')
    (hwatched : j'.status.isWatched = true) :
    j.status.isWatched = true ∨ ∃ aggregateId target,
      c = .claimWaiting aggregateId target ∧ j' = Store.claimed j target now := by
  by_cases hne : j'.status = j.status
  · exact .inl (hne ▸ hwatched)
  rcases h.moves_or_forces hc hne with ⟨actor, ht, hmove⟩ | ⟨-, hfail⟩
  · by_cases hactor : actor = .broker
    · subst hactor
      cases h with
      | claim => cases hc with | claim => exact .inr ⟨_, _, rfl, rfl⟩
      | withdraw => cases hc with | report => cases hwatched
      | report | heartbeat | force => cases ht
      | giveUp hmonitor | expire hmonitor => cases ht.symm.trans hmonitor
    · exact .inl (Status.isWatched_of_mover? hmove hactor hwatched)
  · cases (Status.isWatched_of_isFailure hfail).symm.trans hwatched

/-- A well-formed job stays so, whoever changes it, if there is a next
number for a claim. -/
theorem keeps_wellFormed (h : t.Writer c) (hc : Store.JobChange now c j j')
    (hnumber : ∀ aggregateId target, c = .claimWaiting aggregateId target →
      FitsInt32 (j.resubmission + 1)) (hj : j.WellFormed) : j'.WellFormed := by
  rcases hc.claim_or_keepsStamps with ⟨_, target, rfl, rfl⟩ | hkeeps
  · have hnext : (Store.claimed j target now).resubmission = j.resubmission + 1 :=
      wrapInt32_of_fits (hnumber _ _ rfl)
    have hcount : 1 ≤ (Store.claimed j target now).resubmission :=
      hnext ▸ Int.add_le_add_right hj.counted 1
    exact ⟨Int.le_trans (by decide) hcount, fun _ => ⟨rfl, rfl, rfl, rfl, hcount⟩⟩
  · refine ⟨hkeeps.resubmission ▸ hj.counted, ?_⟩
    intro hwatched
    rcases h.isWatched_or_claim hc hwatched with hold | ⟨aggregateId, target, rfl, rfl⟩
    · exact hkeeps.isOwned (hj.owned hold)
    · have hcount : 0 ≤ j.resubmission := hj.counted
      have hnext : j.resubmission = wrapInt32 (j.resubmission + 1) := hkeeps.resubmission.symm
      rw [wrapInt32_of_fits (hnumber _ _ rfl)] at hnext
      omega

end Task.Writer

/-! ## What one step does to a row -/

section Steps

variable {w : Surroundings} {t : Task} {m m' : Stage} {c : Call} {a : c.Answer} {s s' : Store}
  {id : Int} {j : Job} {job : ClaimedJob}

/-- A job is claimed for a request, and runs where the request came from. -/
theorem Task.Moves.isAt_of_claim (hm : t.Moves m c a m') (hW : w.world c s a s')
    (h : claimedBy c a = some job) :
    ∃ settings r j, t.request? = some (settings, r) ∧ s'.jobs.get? job.jobId = some j ∧
      j.IsAt r.target := by
  unfold claimedBy at h
  split at h
  · next aggregateId target job' =>
    cases h
    obtain ⟨now, hp⟩ := Surroundings.world_ok hW
    obtain ⟨j, rest, rfl, -, -, -, rfl⟩ :=
      Store.claimWaiting_eq_some (Store.perform_claimWaiting.mp hp)
    cases hm.writer rfl with
    | claim hr =>
        exact ⟨_, _, _, hr, Store.get?_insertJob.trans (if_pos rfl), Store.isAt_claimed ..⟩
  · cases h

theorem Surroundings.get?_of_claim (hW : w.world c s a s') (h : claimedBy c a = some job)
    (hid : job.jobId ≠ id) : s'.jobs.get? id = s.jobs.get? id := by
  unfold claimedBy at h
  split at h
  · cases h
    obtain ⟨now, hp⟩ := Surroundings.world_ok hW
    obtain ⟨j, rest, rfl, -, -, -, rfl⟩ :=
      Store.claimWaiting_eq_some (Store.perform_claimWaiting.mp hp)
    rw [Store.get?_insertJob, Store.claimed_id, if_neg (Ne.symm hid)]
  · cases h

theorem Surroundings.exists_claimed {aggregateId : Int} {target : ClaimTarget}
    {a : (Call.store (.claimWaiting aggregateId target)).Answer}
    (hW : w.world (.store (.claimWaiting aggregateId target)) s a s')
    (hne : s'.jobs.get? id ≠ s.jobs.get? id) :
    ∃ job, claimedBy (.store (.claimWaiting aggregateId target)) a = some job ∧ job.jobId = id := by
  cases hclaim : claimedBy (.store (.claimWaiting aggregateId target)) a with
  | none => exact absurd (congrArg (·.get? id) (jobs_of_no_claim hW hclaim)) hne
  | some job => exact ⟨job, rfl, by_contra fun hid => hne (get?_of_claim hW hclaim hid)⟩

theorem Surroundings.keepsStamps_of_unclaimed (hW : w.world c s a s')
    (h : ∀ job, claimedBy c a = some job → job.jobId ≠ id) (hj : s.jobs.get? id = some j) :
    ∃ j' now, s'.jobs.get? id = some j' ∧ j.KeepsStamps now j' := by
  have hsame (heq : s'.jobs.get? id = s.jobs.get? id) :
      ∃ j' now, s'.jobs.get? id = some j' ∧ j.KeepsStamps now j' :=
    ⟨j, ⟨0, false⟩, heq.trans hj, .refl _ j⟩
  rcases Surroundings.world_job hW id with heq | ⟨now, sc, k, k', rfl, hk, hk', hchange⟩
  · exact hsame heq
  · cases hj.symm.trans hk
    rcases hchange.claim_or_keepsStamps with ⟨aggregateId, target, rfl, -⟩ | hkeeps
    · refine hsame (by_contra fun hne => ?_)
      obtain ⟨job, hclaim, hid⟩ := exists_claimed hW hne
      exact h job hclaim hid
    · exact ⟨k', now, hk', hkeeps⟩

theorem Store.WellFormed.step {ι : Type} {i : ι} (h : s.WellFormed) (hm : t.Moves m c a m')
    (hW : w.world c s a s')
    (hcount : CanCount (⟨i, c, a, s, s'⟩ : Event ι Call Call.Answer Store)) : s'.WellFormed := by
  intro id j' hj'
  by_cases hsame : s'.jobs.get? id = s.jobs.get? id
  · exact h id j' (hsame.symm.trans hj')
  obtain ⟨now, sc, j, k, rfl, hj, hk, hchange⟩ :=
    (Surroundings.world_job hW id).resolve_left hsame
  cases hk.symm.trans hj'
  refine (hm.writer hchange.writes).keeps_wellFormed hchange ?_ (h id j hj)
  rintro aggregateId target rfl
  obtain ⟨job, hclaim, hid⟩ := Surroundings.exists_claimed hW hsame
  exact hcount job hclaim _ (hid ▸ Store.number?_eq_some.mpr ⟨j, hj, rfl⟩)

theorem Surroundings.sameSubmission (hW : w.world c s a s') (id : Int) :
    Option.Rel Job.SameSubmission (s.jobs.get? id) (s'.jobs.get? id) := by
  rcases Surroundings.world_job hW id with hsame | ⟨now, sc, j, j', -, hj, hj', hchange⟩
  · rw [hsame]
    exact Job.SameSubmission.refl_row _
  · rw [hj, hj']
    exact .some hchange.sameSubmission

end Steps

/-! ## The latest claim -/

section LastClaim

variable {ι : Type} {i : ι} {id : Int} {es : List (Event ι Call Call.Answer Store)}
  {e : Event ι Call Call.Answer Store}

/-- The job is claimed by this event. -/
def Event.Claims (id : Int) (e : Event ι Call Call.Answer Store) : Prop :=
  ∃ job, claimedBy e.call e.answer = some job ∧ job.jobId = id

instance (id : Int) (e : Event ι Call Call.Answer Store) : Decidable (e.Claims id) :=
  decidable_of_iff ((claimedBy e.call e.answer).map (·.jobId) = some id) Option.map_eq_some_iff

/-- The program that claimed the job last. -/
def lastClaimant (es : List (Event ι Call Call.Answer Store)) (id : Int) : Option ι :=
  (es.reverse.find? (·.Claims id)).map (·.thread)

theorem lastClaimant_append :
    lastClaimant (es ++ [e]) id =
      if e.Claims id then some e.thread else lastClaimant es id := by
  by_cases h : e.Claims id <;> simp [lastClaimant, h]

/-- The job runs where its latest claim was for. -/
def RunsAtLastClaim (tasks : ι → Task) (es : List (Event ι Call Call.Answer Store)) (s : Store) :
    Prop :=
  ∀ i id, lastClaimant es id = some i → ∃ settings r j, (tasks i).request? = some (settings, r) ∧
    s.jobs.get? id = some j ∧ j.IsAt r.target

theorem RunsAtLastClaim.start (tasks : ι → Task) (s : Store) : RunsAtLastClaim tasks [] s := by
  intro i id h
  cases h

theorem RunsAtLastClaim.step {w : Surroundings} {tasks : ι → Task} {m m' : Stage} {c : Call}
    {a : c.Answer} {s s' : Store} (h : RunsAtLastClaim tasks es s)
    (hm : (tasks i).Moves m c a m') (hW : w.world c s a s') :
    RunsAtLastClaim tasks (es ++ [⟨i, c, a, s, s'⟩]) s' := by
  intro k id hlast
  rw [lastClaimant_append] at hlast
  split at hlast
  · next hclaim =>
    cases hlast
    obtain ⟨job, hjob, rfl⟩ := hclaim
    exact hm.isAt_of_claim hW hjob
  · next hclaim =>
    obtain ⟨settings, r, j, hr, hj, hat⟩ := h k id hlast
    obtain ⟨j', now, hj', hkeeps⟩ := Surroundings.keepsStamps_of_unclaimed hW
      (fun job hjob hid => hclaim ⟨job, hjob, hid⟩) hj
    exact ⟨settings, r, j', hr, hj', hkeeps.isAt hat⟩

end LastClaim

/-! ## A clock that never goes back -/

/-- A store, and what the clock shows. -/
structure Timed where
  store : Store
  clock : Instant

namespace Surroundings

variable {w : Surroundings} {now : Instant} {c : Call} {s s' : Store} {t t' : Timed} {id : Int}

/-- The world of a store in memory while the clock shows this time. -/
def worldAt (w : Surroundings) (now : Instant) : World Call Call.Answer Store
  | .store c, s, a, s' =>
      s.perform now c = (a, s')
        ∨ (w.mayFail c ∧ (∃ e, a = .error e) ∧ s' = s)
        ∨ (w.foreignTraces ∧ c.writes = some .traces ∧ ∃ traces, s' = { s with traces })
  | .now, s, a, s' => a = now ∧ s' = s
  | c, s, a, s' => w.world c s a s'

/-- The world of a store in memory and a clock that never goes back. -/
def timed (w : Surroundings) : World Call Call.Answer Timed := fun c t a t' =>
  ¬ t'.clock.before t.clock ∧ w.worldAt t'.clock c t.store a t'.store

theorem worldAt_job {a : c.Answer} (h : w.worldAt now c s a s') (id : Int) :
    s'.jobs.get? id = s.jobs.get? id ∨
      ∃ sc j j', s.jobs.get? id = some j ∧ s'.jobs.get? id = some j' ∧
        Store.JobChange now sc j j' := by
  cases c with
  | store c =>
      rcases h with h | ⟨-, -, rfl⟩ | ⟨-, -, traces, rfl⟩
      · rcases Store.perform_job s now c id with hsame | ⟨j, j', hj, hj', hchange⟩
        · exact .inl (by rw [← hsame, h])
        · exact .inr ⟨c, j, j', hj, by rw [← hj', h], hchange⟩
      · exact .inl rfl
      · exact .inl rfl
  | lookup | issue | revoke | now => exact .inl (by rw [h.2])
  | stopwatch | note => exact .inl (by rw [show s' = s from h])

end Surroundings

/-- No job was heard from after this time. -/
def Store.HeardBy (s : Store) (time : Instant) : Prop :=
  ∀ id j heard, s.jobs.get? id = some j → j.lastHeartbeat = some heard → ¬ time.before heard

/-- The job was heard from, and not before this time. -/
def Store.HeardSince (s : Store) (id : Int) (time : Instant) : Prop :=
  ∃ j heard, s.jobs.get? id = some j ∧ j.lastHeartbeat = some heard ∧ ¬ heard.before time

section Clock

variable {w : Surroundings} {c : Call} {a : c.Answer} {t t' : Timed}

theorem Surroundings.timed_lastHeartbeat (h : w.timed c t a t') {id : Int} {j : Job}
    (hj : t.store.jobs.get? id = some j) :
    ∃ j', t'.store.jobs.get? id = some j' ∧
      (j'.lastHeartbeat = j.lastHeartbeat ∨ j'.lastHeartbeat = some t'.clock) := by
  rcases worldAt_job h.2 id with hsame | ⟨sc, k, j', hk, hj', hchange⟩
  · exact ⟨j, hsame.trans hj, .inl rfl⟩
  · cases hj.symm.trans hk
    exact ⟨j', hj', hchange.lastHeartbeat⟩

theorem Store.HeardBy.step (hs : t.store.HeardBy t.clock) (h : w.timed c t a t') :
    t'.store.HeardBy t'.clock := by
  intro id j' heard hj' hheard
  have hclock : t.clock.nanos ≤ t'.clock.nanos := Int.not_lt.mp h.1
  obtain ⟨j, hj⟩ : ∃ j, t.store.jobs.get? id = some j := by
    rcases Surroundings.worldAt_job h.2 id with hsame | ⟨_, j, _, hj, -⟩
    · exact ⟨j', hsame.symm.trans hj'⟩
    · exact ⟨j, hj⟩
  obtain ⟨k, hk, hlast⟩ := Surroundings.timed_lastHeartbeat h hj
  cases hj'.symm.trans hk
  rcases hlast with hold | hnow
  · have := Int.not_lt.mp (hs id j heard hj (hold.symm.trans hheard))
    exact Int.not_lt.mpr (this.trans hclock)
  · cases hnow.symm.trans hheard
    exact Int.lt_irrefl _

theorem Store.HeardSince.step {id : Int} {time : Instant} (hs : t.store.HeardBy t.clock)
    (hsince : t.store.HeardSince id time) (h : w.timed c t a t') :
    t'.store.HeardSince id time := by
  obtain ⟨j, heard, hj, hheard, hle⟩ := hsince
  obtain ⟨j', hj', hlast⟩ := Surroundings.timed_lastHeartbeat h hj
  rcases hlast with hold | hnow
  · exact ⟨j', heard, hj', hold.trans hheard, hle⟩
  · -- the old time is not after the clock, and the clock did not go back
    refine ⟨j', t'.clock, hj', hnow, Int.not_lt.mpr ?_⟩
    have := Int.not_lt.mp (hs id j heard hj hheard)
    exact (Int.not_lt.mp hle).trans (this.trans (Int.not_lt.mp h.1))

end Clock

/-! ## Runs -/

section Runs

variable {ι : Type} [DecidableEq ι] {w : Surroundings} {tasks : ι → Task} {s : Store}

theorem wellFormed_of_run (hs : s.WellFormed) {es : List (Event ι Call Call.Answer Store)}
    {t : Threads ι Call Call.Answer (fun i => (tasks i).Result) Store}
    (h : Run w.world (Task.threads tasks s) es t) :
    ((∀ e ∈ es, CanCount e) → t.state.WellFormed) ∧ RunsAtLastClaim tasks es t.state := by
  have hstep : ∀ {es : List (Event ι Call Call.Answer Store)} {i m m' c a} {s s' : Store},
      ((∀ e ∈ es, CanCount e) → s.WellFormed) → (tasks i).Moves m c a m' → w.world c s a s' →
      (∀ e ∈ es ++ [⟨i, c, a, s, s'⟩], CanCount e) → s'.WellFormed := by
    intro es i m m' c a s s' hwell hm hW hall
    obtain ⟨hbefore, hlast⟩ := List.forall_mem_append.mp hall
    exact (hwell hbefore).step hm hW (List.forall_mem_singleton.mp hlast)
  obtain ⟨m, hI, -⟩ := h.invariant (fun i => (tasks i).Moves) (fun i => (tasks i).Ends)
    (fun i => (tasks i).first) (fun i => (tasks i).follows)
    (fun es _ s => ((∀ e ∈ es, CanCount e) → s.WellFormed) ∧ RunsAtLastClaim tasks es s)
    ⟨fun _ => hs, .start tasks s⟩
    (fun es m s i c a s' m' hI hm hW => ⟨hstep hI.1 hm hW, hI.2.step hm hW⟩)
  exact hI

theorem sameSubmission_of_run {α : ι → Type} {es : List (Event ι Call Call.Answer Store)}
    {t u : Threads ι Call Call.Answer α Store} (h : Run w.world t es u) (id : Int) :
    Option.Rel Job.SameSubmission (t.state.jobs.get? id) (u.state.jobs.get? id) := by
  refine h.invariant_of_world
    (fun _ s => Option.Rel Job.SameSubmission (t.state.jobs.get? id) (s.jobs.get? id)) ?_ ?_
  · exact Job.SameSubmission.refl_row _
  · intro es s i c a s' hrel hW
    exact Job.SameSubmission.trans_row hrel (Surroundings.sameSubmission hW id)

/-- Whatever runs, the clock is not behind the last signs of life, and
these do not go back. -/
theorem heardSince_of_run {α : ι → Type} {es : List (Event ι Call Call.Answer Timed)}
    {t u : Threads ι Call Call.Answer α Timed} (h : Run w.timed t es u)
    (ht : t.state.store.HeardBy t.state.clock) :
    u.state.store.HeardBy u.state.clock ∧
      ∀ id time, t.state.store.HeardSince id time → u.state.store.HeardSince id time := by
  refine h.invariant_of_world (fun _ v => v.store.HeardBy v.clock ∧
    ∀ id time, t.state.store.HeardSince id time → v.store.HeardSince id time)
    ⟨ht, fun _ _ h => h⟩ ?_
  intro es v i c a v' hI hW
  exact ⟨hI.1.step hW, fun id time hsince => (hI.2 id time hsince).step hI.1 hW⟩

/-- Tasks on a well-formed store, in any order of their calls and whatever
fails.  Every store they reach is well-formed, if each job that was claimed
had a next number.  A job runs where the request was for that claimed it
last, and it is still the job that was submitted.  Where the clock never
goes back, and no sign of life is ahead of it at the start, no job's last
sign of life does. -/
theorem running_work_stays_owned (hs : s.WellFormed) :
    (∀ es t, Run w.world (Task.threads tasks s) es t →
      ((∀ e ∈ es, CanCount e) → t.state.WellFormed) ∧
      (∀ i id, lastClaimant es id = some i → ∃ settings r j,
        (tasks i).request? = some (settings, r) ∧ t.state.jobs.get? id = some j ∧
          j.IsAt r.target) ∧
      ∀ id, Option.Rel Job.SameSubmission (s.jobs.get? id) (t.state.jobs.get? id)) ∧
    ∀ clock, s.HeardBy clock → ∀ es t es' u,
      Run w.timed (Task.threads tasks ⟨s, clock⟩) es t → Run w.timed t es' u →
      ∀ id j heard, t.state.store.jobs.get? id = some j → j.lastHeartbeat = some heard →
        ∃ j' heard', u.state.store.jobs.get? id = some j' ∧ j'.lastHeartbeat = some heard' ∧
          ¬ heard'.before heard := by
  refine ⟨?_, ?_⟩
  · intro es t h
    obtain ⟨hwell, hclaims⟩ := wellFormed_of_run hs h
    exact ⟨hwell, hclaims, sameSubmission_of_run h⟩
  · intro clock hheard es t es' u h h' id j heard hj hlast
    have ht := (heardSince_of_run h hheard).1
    exact (heardSince_of_run h' ht).2 id heard ⟨j, heard, hj, hlast, Int.lt_irrefl _⟩

end Runs

/-! ## A hand-out and a sign of life -/

/-- A request for work and the agent's heartbeat for what it gets. -/
def claimThenBeat : Bool → Task
  | false => .request {} agentRequest
  | true => .command {} (.heartbeat 7 1)

/-- Partners whose clock starts now, or went on from there. -/
def Partners.replyAt (p : Partners) (c : Call) (t : Timed) : c.Answer × Timed :=
  let now := if p.now.before t.clock then t.clock else p.now
  let answer := Partners.reply { p with now } c t.store
  (answer.1, ⟨answer.2, now⟩)

theorem Surroundings.steady_replyAt (p : Partners) (c : Call) (t : Timed) :
    steady.timed c t (p.replyAt c t).1 (p.replyAt c t).2 := by
  refine ⟨?_, ?_⟩
  · unfold Partners.replyAt
    split
    · exact Int.lt_irrefl _
    · assumption
  · cases c with
    | store c => exact .inl rfl
    | now => exact ⟨rfl, rfl⟩
    | lookup | issue | revoke => exact ⟨trivial, rfl⟩
    | stopwatch | note => exact rfl

theorem get?_of_one_job {j j' : Job} {aggregate : Aggregate} {id : Int}
    (h : ((({} : Store).insertJob j).insertAggregate aggregate).jobs.get? id = some j') :
    j' = j := by
  rw [Store.insertAggregate, Store.get?_insertJob] at h
  split at h
  · exact (Option.some.inj h).symm
  · cases h

theorem wellFormed_storeOfOne : (storeOfOne 7 1).WellFormed := by
  intro id j hj
  rw [get?_of_one_job hj]
  exact ⟨by decide, nofun⟩

/-- The clock shows five while the request is served, and nine when the
agent of the job is heard from. -/
theorem running_work_stays_owned_of_heartbeat :
    let s := storeOfOne 7 1
    let served := List.replicate 11 false
    let v := (Task.threads claimThenBeat s).play (Partners.reply generousPartners) served
    let partnersAt (now : Int) : Partners := { generousPartners with now := ⟨now, false⟩ }
    let t := (Task.threads claimThenBeat (Timed.mk s ⟨0, false⟩)).play (partnersAt 5).replyAt served
    let u := t.play (partnersAt 9).replyAt [true]
    s.WellFormed ∧ s.HeardBy ⟨0, false⟩ ∧
    (∃ es, Run Surroundings.steady.world (Task.threads claimThenBeat s) es v ∧
      lastClaimant es 7 = some false ∧ v.state.WellFormed ∧
      ∃ settings r j, (claimThenBeat false).request? = some (settings, r) ∧
        v.state.jobs.get? 7 = some j ∧ j.IsAt r.target) ∧
    ∃ j heard j' heard', t.state.store.jobs.get? 7 = some j ∧ j.lastHeartbeat = some heard ∧
      heard.nanos = 5 ∧ u.state.store.jobs.get? 7 = some j' ∧ j'.lastHeartbeat = some heard' ∧
      ¬ heard'.before heard := by
  intro s served v partnersAt t u
  obtain ⟨hruns, htimed⟩ :=
    @running_work_stays_owned Bool _ .steady claimThenBeat s wellFormed_storeOfOne
  have hheard : s.HeardBy ⟨0, false⟩ := by
    intro id j heard hj hlast
    rw [get?_of_one_job hj] at hlast
    cases hlast
  refine ⟨wellFormed_storeOfOne, hheard, ?_, ?_⟩
  · have h := Run.play (Surroundings.steady_reply generousPartners)
      (Task.threads claimThenBeat s) served
    have hlast : lastClaimant
        ((Task.threads claimThenBeat s).log (Partners.reply generousPartners) served) 7 =
          some false := by decide +kernel
    obtain ⟨hwell, hclaims, -⟩ := hruns _ v h
    exact ⟨_, h, hlast, hwell (by decide +kernel), hclaims false 7 hlast⟩
  · obtain ⟨es, h⟩ := Run.exists_play (Surroundings.steady_replyAt (partnersAt 5))
      (Task.threads claimThenBeat (Timed.mk s ⟨0, false⟩)) served
    obtain ⟨es', h'⟩ := Run.exists_play (Surroundings.steady_replyAt (partnersAt 9)) t [true]
    have hfive : ((t.state.store.jobs.get? 7).bind (·.lastHeartbeat)).map (·.nanos) = some 5 := by
      decide +kernel
    obtain ⟨heard, hrow, hnanos⟩ := Option.map_eq_some_iff.mp hfive
    obtain ⟨j, hj, hlast⟩ := Option.bind_eq_some_iff.mp hrow
    obtain ⟨j', heard', hlater⟩ := htimed _ hheard _ t _ u h h' 7 j heard hj hlast
    exact ⟨j, heard, j', heard', hj, hlast, hnanos, hlater⟩

/-- A job that waits with the greatest number is well-formed, and is not once
a request has claimed it. -/
theorem claimed_with_greatest_number_is_not_well_formed :
    let threads := Task.threads (fun _ : Unit => .request {} agentRequest) (storeOfLast 7 1)
    let t := threads.play generousPartners.reply (List.replicate 13 ())
    (storeOfLast 7 1).WellFormed ∧ (∃ es, Run Surroundings.steady.world threads es t) ∧
      t.state.number? 7 = some (-0x80000000) ∧ ¬ t.state.WellFormed := by
  intro threads t
  have hnumber : t.state.number? 7 = some (-0x80000000) := by decide +kernel
  refine ⟨fun id j hj => ?_, Run.exists_play (Surroundings.steady_reply generousPartners) threads _,
    hnumber, fun h => ?_⟩
  · rw [get?_of_one_job hj]
    exact ⟨by decide, nofun⟩
  · obtain ⟨j, hj, hn⟩ := Store.number?_eq_some.mp hnumber
    have hcounted := (h 7 j hj).counted
    omega

end GridQueue
