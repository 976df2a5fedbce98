/-
# `GridQueue.Proofs.Counter.Balance` — what a step does to a counter

For each aggregate a step of a task moves four numbers:

|                       | claim | decrement | forced failure |
| :-------------------- | :---: | :-------: | :------------: |
| jobs that wait        |  −1   |           |       −1       |
| claims not counted    |  +1   |    −1     |                |
| the counter           |       |    −1     |                |
| counted in excess     |       |           |       +1       |

so that the counter stays the sum of the other three
(`Task.Moves.balance`).  The clamp of the counter at zero does not matter:
the task that counts a claim is one that made it, so the counter is
positive.
-/
import GridQueue.Proofs.Claim
import GridQueue.Proofs.Store.Counter

namespace GridQueue

open Matching

/-- The aggregate of the claim that is a call. -/
def claimOf : (c : Call) → c.Answer → Option Int
  | .store (.claimWaiting aggregateId _), .ok (some _) => some aggregateId
  | _, _ => none

/-- The aggregate for which a call counts a claim. -/
def countOf : (c : Call) → c.Answer → Option Int
  | .store (.decrement aggregateId _), _ => some aggregateId
  | _, _ => none

/-- The job on which a call forces a failure. -/
def forceOf : (c : Call) → c.Answer → Option Int
  | .store (.forceStatus jobId _), .ok _ => some jobId
  | _, _ => none

/-- A call takes a job out of those that wait by a claim or by force, or
not at all. -/
inductive Removal : (c : Call) → c.Answer → Prop
  | claim {aggregateId target job} :
      Removal (.store (.claimWaiting aggregateId target)) (.ok (some job))
  | force {jobId status update} : Removal (.store (.forceStatus jobId status)) (.ok update)
  | nothing {c a} : claimOf c a = none → forceOf c a = none → Removal c a

theorem Removal.of_call (c : Call) (a : c.Answer) : Removal c a := by
  cases c with
  | store c =>
      cases c with
      | claimWaiting =>
          match a with
          | .ok (some _) => exact .claim
          | .ok none | .error _ => exact .nothing rfl rfl
      | forceStatus =>
          cases a with
          | ok _ => exact .force
          | error _ => exact .nothing rfl rfl
      | _ => exact .nothing rfl rfl
  | _ => exact .nothing rfl rfl

/-- How many jobs of an aggregate stop waiting since a failure is forced. -/
def forcedOut (s : Store) (aggregateId : Int) (c : Call) (a : c.Answer) : ℕ :=
  ((forceOf c a).toList.filter (· ∈ s.waitingIds aggregateId)).length

/-- How many claims of an aggregate are not counted at a stage. -/
def Matching.Stage.owed (aggregateId : Int) : Stage → ℕ
  | holding id _ _ => if id = aggregateId then 1 else 0
  | _ => 0

section Step

variable {w : Surroundings} {t : Task} {m m' : Stage} {c : Call} {a : c.Answer} {s s' : Store}
  {id n : Int}

/-! ## The jobs that wait -/

theorem Task.Writer.keeps_waiting {c : StoreCall} {now : Instant} {j j' : Job} (h : t.Writer c)
    (hc : Store.JobChange now c j j') (hclaim : ∀ id target, c ≠ .claimWaiting id target)
    (hforce : ∀ id status, c ≠ .forceStatus id status) :
    j'.status = .waiting ↔ j.status = .waiting := by
  constructor
  · intro hw'
    by_contra hw
    exact (h.keeps_held hc hw).2.1 hw'
  · intro hw
    by_contra hne
    rcases h.moves_or_forces hc (hw ▸ hne) with ⟨actor, ht, hmove⟩ | ⟨⟨settings, rfl⟩, -⟩
    · -- only the broker moves a waiting job, by a claim
      have hbroker : actor = .broker ∧ j'.status = .assigned := by
        rw [hw] at hmove
        cases hs : j'.status <;> rw [hs] at hmove <;> cases hmove
        exact ⟨rfl, rfl⟩
      obtain ⟨rfl, hs⟩ := hbroker
      cases h with
      | claim => exact hclaim _ _ rfl
      | withdraw => cases hc; cases hs
      | report | heartbeat => cases ht
      | force => exact hforce _ _ rfl
      | giveUp hactor | expire hactor => cases hactor.symm.trans ht
    · cases h with
      | claim hr | withdraw hr => cases hr
      | force => exact hforce _ _ rfl
      | giveUp hactor | expire hactor => cases hactor

theorem Store.JobChange.aggregateId_eq {c : StoreCall} {now : Instant} {j j' : Job}
    (h : Store.JobChange now c j j') : j'.aggregateId = j.aggregateId := by
  cases h <;> rfl

/-- A step that neither claims nor forces leaves what waits. -/
theorem Task.Moves.waitingIds_eq (hm : t.Moves m c a m') (hW : w.world c s a s')
    (hclaim : claimOf c a = none) (hforce : forceOf c a = none) (id : Int) :
    s'.waitingIds id = s.waitingIds id := by
  refine Store.waitingIds_eq ?_
  intro k
  rcases Surroundings.world_job hW k with hsame | ⟨now, sc, j, j', rfl, hj, hj', hchange⟩
  · rw [hsame]
  · by_cases hsame : s'.jobs = s.jobs
    · rw [hsame]
    have hkeeps := (hm.writer hchange.writes).keeps_waiting hchange
      (by
        -- a claim that got no job leaves the jobs alone
        rintro id target rfl
        refine hsame (jobs_of_no_claim hW ?_)
        match a, hclaim with
        | .ok none, _ => rfl
        | .error _, _ => rfl)
      (by
        -- and so does a forced failure that failed
        rintro id status rfl
        match a, hforce with
        | .error e, _ =>
          rcases hW with ⟨now, h⟩ | ⟨-, -, rfl⟩ | ⟨-, hwrites, -⟩
          · cases congrArg Prod.fst h
          · exact hsame rfl
          · cases hwrites)
    simp only [hj, hj', Option.any_some, Store.isWaitingIn, hchange.aggregateId_eq, hkeeps]

theorem waitingIds_of_claim {aggregateId : Int} {target : ClaimTarget} {job : ClaimedJob}
    (hW : w.world (.store (.claimWaiting aggregateId target)) s (.ok (some job)) s') (id : Int) :
    job.jobId ∈ s.waitingIds aggregateId ∧
      s'.waitingIds id = (s.waitingIds id).erase job.jobId := by
  obtain ⟨now, h⟩ := Surroundings.world_ok hW
  exact Store.waitingIds_claimWaiting (Store.perform_claimWaiting.mp h) id

theorem waitingIds_of_force {jobId : Int} {status : Status} {update : StatusUpdate}
    (hW : w.world (.store (.forceStatus jobId status)) s (.ok update) s')
    (hstatus : status.isFailure = true) (id : Int) :
    s'.waitingIds id = (s.waitingIds id).erase jobId := by
  obtain ⟨now, h⟩ := Surroundings.world_ok hW
  obtain rfl : (s.forceStatus jobId status).2 = s' := congrArg Prod.snd h
  exact Store.waitingIds_forceStatus hstatus

theorem Task.Moves.waiting (hm : t.Moves m c a m') (hW : w.world c s a s') (id : Int) :
    (s'.waitingIds id).length + (if claimOf c a = some id then 1 else 0) + forcedOut s id c a =
      (s.waitingIds id).length := by
  cases Removal.of_call c a with
  | @claim aggregateId target job =>
      obtain ⟨hmem, herase⟩ := waitingIds_of_claim hW id
      -- a job waits in one aggregate only, so no other one loses it
      have hown : job.jobId ∈ s.waitingIds id ↔ aggregateId = id :=
        ⟨fun h => (Store.eq_of_mem_waitingIds hmem h).symm, fun h => h ▸ hmem⟩
      by_cases hid : aggregateId = id
      · have hpos := List.length_pos_of_mem (hown.mpr hid)
        simp [herase, hown, hid, claimOf, forcedOut, forceOf]
        omega
      · simp [herase, List.length_erase, hown, hid, claimOf, forcedOut, forceOf]
  | @force jobId status update =>
      have hstatus : status.isFailure = true := by
        cases hm.writer rfl with
        | force h => exact h
      rw [waitingIds_of_force hW hstatus, List.length_erase]
      by_cases hmem : jobId ∈ s.waitingIds id
      · have hpos := List.length_pos_of_mem hmem
        simp [hmem, claimOf, forcedOut, forceOf]
        omega
      · simp [hmem, claimOf, forcedOut, forceOf]
  | nothing hclaim hforce =>
      rw [hm.waitingIds_eq hW hclaim hforce]
      simp [hclaim, hforce, forcedOut]

/-! ## Counters -/

/-- A counter is written by decrements only, if those do not fail. -/
theorem Surroundings.world_counter (hW : w.world c s a s')
    (hcount : ∀ id isLocal, ¬ w.mayFail (.decrement id isLocal)) (id : Int) :
    s'.counter? id =
      if countOf c a = some id then (s.counter? id).map fun n => max (n - 1) 0
      else s.counter? id := by
  cases c with
  | store c =>
      rcases hW with ⟨now, h⟩ | ⟨hfail, -, rfl⟩ | ⟨-, hwrites, traces, rfl⟩
      · obtain rfl : (s.perform now c).2 = s' := congrArg Prod.snd h
        cases c with
        | decrement aggregateId isLocal =>
            refine (s.counter?_decrement id).trans ?_
            simp only [countOf, Option.some.injEq, eq_comm]
        | _ => exact Store.counter?_perform (by nofun) id
      · rw [if_neg]
        cases c with
        | decrement aggregateId isLocal => exact absurd hfail (hcount aggregateId isLocal)
        | _ => simp [countOf]
      · rw [if_neg]
        · rfl
        · cases c <;> first | cases hwrites; done | simp [countOf]
  | lookup | issue | revoke => rw [hW.2]; rfl
  | now | stopwatch | note => rw [show s' = s from hW]; rfl

/-! ## Claims that are not counted -/

theorem Matching.Stage.Moves.owed {settings : BrokerSettings} {request : Request}
    (hm : Stage.Moves settings request m c a m') (id : Int) :
    m'.owed id + (if countOf c a = some id then 1 else 0) =
        m.owed id + (if claimOf c a = some id then 1 else 0) ∧
      (countOf c a = some id → m.owed id = 1) := by
  cases hm <;> simp [Stage.owed, countOf, claimOf]

theorem Task.Calls.no_claim (h : t.Calls c) : claimOf c a = none ∧ countOf c a = none := by
  have hc := h.servesRequest_eq_false
  cases c with
  | store c => cases c <;> first | exact ⟨rfl, rfl⟩ | cases hc
  | _ => exact ⟨rfl, rfl⟩

/-- A claim is owed from the step that makes it to the step that counts
it. -/
theorem Task.Moves.owed (hm : t.Moves m c a m') (id : Int) :
    m'.owed id + (if countOf c a = some id then 1 else 0) =
        m.owed id + (if claimOf c a = some id then 1 else 0) ∧
      (countOf c a = some id → m.owed id = 1) := by
  rcases hm.stage_or_stays with ⟨settings, r, hm⟩ | ⟨hcalls, rfl⟩
  · exact hm.owed id
  · obtain ⟨hclaim, hcount⟩ := hcalls.no_claim (a := a)
    simp [hclaim, hcount]

theorem Matching.Stage.owed_of_unclaimed (h : m.claimed? = none) (id : Int) : m.owed id = 0 := by
  cases m with
  | holding => cases h
  | _ => rfl

theorem Matching.Stage.owed_of_result? (h : m.result? ≠ none) (id : Int) : m.owed id = 0 := by
  cases m with
  | holding => exact absurd rfl h
  | _ => rfl

/-! ## The balance -/

/-- A counter that is the sum of the jobs that wait, the claims this task
owes, and an excess stays so, with a job more in excess for each one that
is forced to fail. -/
theorem Task.Moves.balance (hm : t.Moves m c a m') (hW : w.world c s a s')
    (hcount : ∀ id isLocal, ¬ w.mayFail (.decrement id isLocal)) (id excess : Int)
    (hexcess : 0 ≤ excess)
    (h : ∀ n, s.counter? id = some n → n = (s.waitingIds id).length + m.owed id + excess) :
    ∀ n, s'.counter? id = some n →
      n = (s'.waitingIds id).length + m'.owed id + (excess + forcedOut s id c a) := by
  intro n hn
  have hwaiting := hm.waiting hW id
  obtain ⟨howed, hone⟩ := hm.owed id
  rw [Surroundings.world_counter hW hcount] at hn
  by_cases hid : countOf c a = some id
  · rw [if_pos hid] at hn howed
    obtain ⟨k, hk, rfl⟩ := Option.map_eq_some_iff.mp hn
    have hsum := h k hk
    -- the claim that is counted now is one that is owed
    have hpos := hone hid
    rw [max_eq_left (by omega)]
    omega
  · rw [if_neg hid] at hn howed
    have hsum := h n hn
    omega

end Step

end GridQueue
