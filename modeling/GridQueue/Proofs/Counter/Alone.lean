/-
# `GridQueue.Proofs.Counter.Alone` — counters between tasks that come one by one

Where each task is executed to its end before the next one begins, no
claim is left uncounted, and a counter that was exact stays exact.  There
is one exception: a failure that is forced on a waiting job takes the job
out of those that wait, and nothing counts it.  From then on the counter
stands for a job that nobody can claim.

`exactness_is_lost_by_force_only` says that this is the only way to lose
exactness, and what exactness is good for: the aggregate a look-up finds
has a job to claim, so that a request for work never ends in a conflict.

The proof goes over one task at a time.  If it forces nothing, the balance
of `GridQueue.Proofs.Counter.Balance` ends with no claim owed; a force is
one call and a trace, and its effect is computed (`Task.Executes.force`).
For the requests, `Smooth` carries along the stages that what is chosen
has a job.
-/
import GridQueue.Proofs.Counter.Balance
import GridQueue.Proofs.Execution
import GridQueue.Proofs.Store.Search

namespace GridQueue

open Matching

/-! ## A task that forces nothing -/

/-- An operator forces a failure on a waiting job, for which a counter
stands. -/
def Task.ForcesWaiting (t : Task) (s : Store) : Prop :=
  ∃ settings jobId status id n, t = .command settings (.forceJobStatus jobId status) ∧
    status.isFailure = true ∧ s.counter? id = some n ∧ jobId ∈ s.waitingIds id

def Task.isForce : Task → Bool
  | command _ (.forceJobStatus _ _) => true
  | _ => false

section Steps

variable {t : Task} {m m' : Stage} {c : Call} {a : c.Answer} {s s' : Store} {id : Int}

theorem Task.Moves.forceOf_eq_none (hm : t.Moves m c a m') (h : t.isForce = false) :
    forceOf c a = none := by
  cases Removal.of_call c a with
  | claim => rfl
  | force =>
      cases hm.writer rfl with
      | force => cases h
  | nothing _ hforce => exact hforce

theorem Task.Moves.owed_of_no_request (hm : t.Moves m c a m') (ht : t.request? = none) :
    m' = m := by
  unfold Task.Moves at hm
  rw [ht] at hm
  exact hm.2

theorem Task.Executes.exact_of_not_force {result : t.Result} (h : t.Executes s result s')
    (hexact : s.Exact) (ht : t.isForce = false) : s'.Exact := by
  intro id
  -- on the way the counter is exact but for the claim that is owed
  let I : Stage → Store → Prop := fun m s =>
    (t.request? = none → m = t.first) ∧
      ∀ n, s.counter? id = some n → n = (s.waitingIds id).length + m.owed id + (0 : Int)
  have howed_first := Stage.owed_of_unclaimed t.claimed?_first id
  obtain ⟨m, ⟨hnone, hsum⟩, hsettled⟩ := h.invariant t.follows_settled I
    ⟨fun _ => rfl, fun n hn => by rw [howed_first, hexact id n hn]; simp⟩ (by
      rintro m s c a s' m' ⟨hnone, hsum⟩ hm hW
      refine ⟨fun hr => (hm.owed_of_no_request hr).trans (hnone hr), ?_⟩
      have hbalance := hm.balance hW (fun _ _ hfail => hfail) id 0 le_rfl hsum
      simpa [forcedOut, hm.forceOf_eq_none ht] using hbalance)
  have howed : m.owed id = 0 := by
    by_cases hr : t.request? = none
    · rw [hnone hr, howed_first]
    · exact Stage.owed_of_result? (hsettled hr).1 id
  simpa [howed] using hsum

end Steps

/-! ## A task that forces a failure -/

/-- The calls of an operator who forces a status, and whether the status
was written: notes, the call that writes it, and a trace. -/
inductive ForceMoves (jobId : Int) (status : Status) : Protocol Call Call.Answer Bool
  | note {m event u} : ForceMoves jobId status m (.note event) u m
  | force {answer} : status.isFailure = true →
      ForceMoves jobId status false (.store (.forceStatus jobId status)) answer true
  | trace {tag message answer} :
      ForceMoves jobId status true (.store (.appendTrace jobId tag message)) answer true

section Force

variable {settings : BrokerSettings} {jobId : Int} {status : Status} {s s' : Store}

theorem forceJobStatus_follows :
    ((Command.forceJobStatus jobId status).dispatch settings).Follows (ForceMoves jobId status)
      (fun m _ => m = status.isFailure) false := by
  refine Program.follows_bind.mpr ?_
  show (Command.runForce jobId status).Follows _ _ false
  unfold Command.runForce
  split
  · next h =>
    intro answer
    refine ⟨true, .force h, ?_⟩
    cases answer with
    | error e => exact fun _ => ⟨true, .note, h.symm⟩
    | ok update =>
        change Program.Follows _ (if update.isApplied then _ else _) _ _
        split
        · exact fun _ => ⟨true, .trace, fun _ => ⟨true, .note, h.symm⟩⟩
        · exact fun _ => ⟨true, .note, h.symm⟩
  · next h =>
    have hnot : false = status.isFailure := (Bool.eq_false_of_not_eq_true h).symm
    exact fun _ => ⟨false, .note, hnot⟩

/-- A failure that is forced takes the job out of those that wait, and
leaves the counters. -/
theorem Task.Executes.force {result}
    (h : (Task.command settings (.forceJobStatus jobId status)).Executes s result s') (id : Int) :
    s'.counter? id = s.counter? id ∧
      s'.waitingIds id =
        if status.isFailure then (s.waitingIds id).erase jobId else s.waitingIds id := by
  let I : Bool → Store → Prop := fun written s' =>
    s'.counter? id = s.counter? id ∧
      s'.waitingIds id = if written then (s.waitingIds id).erase jobId else s.waitingIds id
  obtain ⟨m, hI, rfl⟩ := h.invariant forceJobStatus_follows I ⟨rfl, rfl⟩ (by
    rintro m s₁ c a s₂ m' ⟨hcounter, hwaiting⟩ hm hW
    have hcounter' : s₂.counter? id = s₁.counter? id := by
      rw [Surroundings.world_counter hW fun _ _ hfail => hfail]
      cases hm <;> simp [countOf]
    refine ⟨hcounter'.trans hcounter, ?_⟩
    cases hm with
    | note | trace =>
        rw [← hwaiting]
        exact Store.waitingIds_congr
          (Surroundings.world_jobs hW (by simp [Call.writes, StoreCall.writes]))
    | @force answer hstatus =>
        cases answer with
        | ok update => rw [waitingIds_of_force hW hstatus, hwaiting]; rfl
        | error e =>
            obtain ⟨now, hp⟩ := Surroundings.steady_store hW
            cases congrArg Prod.fst hp)
  exact hI

end Force

/-! ## When counters stay exact -/

section Exact

variable {t : Task} {s s' : Store}

/-- A task keeps counters exact unless it forces a waiting job to fail. -/
theorem Task.Executes.exact_iff {result : t.Result} (h : t.Executes s result s')
    (hexact : s.Exact) : s'.Exact ↔ ¬ t.ForcesWaiting s := by
  by_cases ht : t.isForce = true
  · obtain ⟨settings, jobId, status, rfl⟩ : ∃ settings jobId status,
        t = .command settings (.forceJobStatus jobId status) := by
      unfold Task.isForce at ht
      split at ht
      · exact ⟨_, _, _, rfl⟩
      · cases ht
    constructor
    · -- the job is gone from those that wait, and the counter is as it was
      rintro hexact' ⟨_, _, _, id, n, ht', hstatus, hn, hmem⟩
      cases ht'
      obtain ⟨hcounter, hwaiting⟩ := h.force id
      have hn' := hexact' id n (hcounter.trans hn)
      rw [hwaiting, if_pos hstatus, List.length_erase_of_mem hmem] at hn'
      have hpos := List.length_pos_of_mem hmem
      have hn := hexact id n hn
      omega
    · intro hnot id n hn
      obtain ⟨hcounter, hwaiting⟩ := h.force id
      rw [hcounter] at hn
      have hsame : s'.waitingIds id = s.waitingIds id := by
        rw [hwaiting]
        split
        · next hstatus =>
          refine List.erase_of_not_mem fun hmem => hnot ?_
          exact ⟨settings, jobId, status, id, n, rfl, hstatus, hn, hmem⟩
        · rfl
      rw [hsame]
      exact hexact id n hn
  · refine iff_of_true (h.exact_of_not_force hexact (by simpa using ht)) ?_
    rintro ⟨_, _, _, _, _, rfl, -⟩
    exact ht rfl

/-- Over a sequence of tasks all counters stay exact if no failure is
forced on a waiting job, and only then. -/
theorem Served.exact_iff {history : List (Store × Task)} (h : Served s history s')
    (hexact : s.Exact) :
    ((∀ b ∈ history, b.1.Exact) ∧ s'.Exact) ↔ ∀ b ∈ history, ¬ b.2.ForcesWaiting b.1 := by
  induction h with
  | nil => simp [hexact]
  | @cons s t result s₁ rest s' hexec hrest ih =>
      have hstep := hexec.exact_iff hexact
      rw [List.forall_mem_cons, List.forall_mem_cons]
      constructor
      · rintro ⟨⟨-, hall⟩, hlast⟩
        have hnext : s₁.Exact := by
          cases hrest with
          | nil => exact hlast
          | cons => exact (List.forall_mem_cons.mp hall).1
        exact ⟨hstep.mp hnext, (ih hnext).mp ⟨hall, hlast⟩⟩
      · rintro ⟨hnot, hall⟩
        obtain ⟨hrest', hlast⟩ := (ih (hstep.mpr hnot)).mpr hall
        exact ⟨⟨hexact, hrest'⟩, hlast⟩

/-! ## What exact counters are good for -/

theorem Store.Exact.waitingIds_ne_nil (h : s.Exact) {f : Filter} {a : Aggregate}
    (ha : s.findWaiting f = some a) : s.waitingIds a.id ≠ [] := by
  obtain ⟨hmem, haccepts, -⟩ := (Store.findWaiting_eq_some.mp ha).mem
  have hpos := Filter.counter_pos haccepts
  have hsum := Store.forall_counter?.mp h a hmem
  intro hnil
  rw [hnil, List.length_nil] at hsum
  omega

theorem Store.Exact.congr (h : s.Exact) (hjobs : s'.jobs = s.jobs)
    (haggregates : s'.aggregates = s.aggregates) : s'.Exact := by
  intro id n hn
  rw [Store.counter?, haggregates] at hn
  rw [Store.waitingIds_congr hjobs]
  exact h id n hn

def Matching.Stage.chosen? : Stage → Option Int
  | chosen id _ => some id
  | _ => none

/-- A request for work came so far without a conflict, and will come on:
until it claims a job the counters are exact, and what it chose has a job
to claim. -/
structure Smooth (m : Stage) (s : Store) : Prop where
  exact_of_unclaimed : m.claimed? = none → s.Exact
  waiting : ∀ id, m.chosen? = some id → s.waitingIds id ≠ []
  unconflicted : m.result? ≠ some (.ok (.nothingToRun .claimConflict))

namespace Smooth

variable {settings : BrokerSettings} {request : Request} {m m' : Stage} {c : Call} {a : c.Answer}

theorem start (request : Request) (hexact : s.Exact) : Smooth (.first request) s := by
  unfold Stage.first
  cases request.flaw? with
  | none => exact ⟨fun _ => hexact, fun _ h => (by cases h), fun h => (by cases h)⟩
  | some flaw => exact ⟨fun _ => hexact, fun _ h => (by cases h), fun h => (by cases h)⟩

theorem exact_step (h : Smooth m s) (hm : Stage.Moves settings request m c a m')
    (hW : Surroundings.steady.world c s a s') (hnone : m'.claimed? = none) : s'.Exact := by
  have hbefore : m.claimed? = none := by
    have hlog := hm.log.1
    rw [hnone] at hlog
    exact Option.toList_eq_nil_iff.mp (List.append_eq_nil_iff.mp hlog.symm).1
  have hwrites : c.writes ≠ some .aggregates := by
    cases hm <;> first | cases hnone; done | simp [Call.writes, StoreCall.writes]
  exact (h.exact_of_unclaimed hbefore).congr (jobs_of_unclaimed hm hnone hW)
    (Surroundings.world_same hW hwrites)

theorem step (h : Smooth m s) (hm : Stage.Moves settings request m c a m')
    (hW : Surroundings.steady.world c s a s') : Smooth m' s' := by
  have hexact := h.exact_step hm hW
  cases hm with
  | stopwatch | now | note =>
      obtain rfl : s' = s := hW
      exact h
  | firstFound | laterFound =>
      refine ⟨hexact, ?_, fun h => (by cases h)⟩
      rintro id ⟨⟩
      obtain ⟨now, hp⟩ := Surroundings.steady_store hW
      obtain ⟨hfound, rfl⟩ := Prod.mk.inj hp
      exact (h.exact_of_unclaimed rfl).waitingIds_ne_nil (Except.ok.inj hfound)
  | lost =>
      -- the claim got nothing, although the aggregate had a job to claim
      obtain ⟨now, hp⟩ := Surroundings.steady_store hW
      have hnil := (Store.claimWaiting_eq_none (Store.perform_claimWaiting.mp hp)).2
      exact absurd hnil (h.waiting _ rfl)
  | _ => exact ⟨hexact, fun _ h => (by cases h), fun h => (by cases h)⟩

end Smooth

theorem Task.Executes.ne_claimConflict {result : t.Result} {outcome : Outcome}
    (h : t.Executes s result s') (hexact : s.Exact) (houtcome : t.outcome? result = some outcome) :
    outcome ≠ .nothingToRun .claimConflict := by
  obtain ⟨settings, request, ht⟩ := Task.exists_request houtcome
  have hstart : Smooth t.first s := by
    simpa only [Task.first, ht] using Smooth.start request hexact
  obtain ⟨m, hsmooth, hsettled⟩ := h.invariant t.follows_settled Smooth hstart (by
    intro m s c a s' m' hsmooth hm hW
    have hmoves : Stage.Moves settings request m c a m' := by
      simpa only [Task.Moves, ht] using hm
    exact hsmooth.step hmoves hW)
  have hresult := (hsettled (by rw [ht]; exact Option.some_ne_none _)).2 outcome houtcome
  rintro rfl
  exact hsmooth.unconflicted hresult

/-- Tasks are executed one after another, from exact counters on.  The
counters stay exact if no failure is forced on a waiting job, and only
then.  Where they are exact no request for work that is served alone ends
in a conflict, and what a look-up finds has a job to claim. -/
theorem exactness_is_lost_by_force_only {history : List (Store × Task)} (hexact : s.Exact)
    (h : Served s history s') :
    (((∀ b ∈ history, b.1.Exact) ∧ s'.Exact) ↔ ∀ b ∈ history, ¬ b.2.ForcesWaiting b.1) ∧
      (s'.Exact →
        (∀ (t : Task) result s'' outcome, t.Executes s' result s'' →
          t.outcome? result = some outcome → outcome ≠ .nothingToRun .claimConflict) ∧
        ∀ f a, s'.findWaiting f = some a → s'.waitingIds a.id ≠ []) := by
  refine ⟨h.exact_iff hexact, ?_⟩
  intro hexact'
  exact ⟨fun _ _ _ _ hexec houtcome => hexec.ne_claimConflict hexact' houtcome,
    fun _ _ hfound => hexact'.waitingIds_ne_nil hfound⟩

end Exact

/-- A request for work claims the one job that waits. -/
theorem exactness_is_lost_by_force_only_of_request :
    let s := storeOfOne 7 1
    let t := Task.request {} agentRequest
    let s' := (generousPartners.serve t.program s).2
    s.Exact ∧ s'.counter? 1 = some 0 ∧ Served s [(s, t)] s' ∧
      (((∀ b ∈ [(s, t)], b.1.Exact) ∧ s'.Exact) ↔ ∀ b ∈ [(s, t)], ¬ b.2.ForcesWaiting b.1) := by
  intro s t s'
  have hexact : s.Exact := by decide +kernel
  have hserved : Served s [(s, t)] s' := .cons (Task.executes_serve generousPartners t s) .nil
  exact ⟨hexact, by decide +kernel, hserved, (exactness_is_lost_by_force_only hexact hserved).1⟩

/-- Two waiting jobs, each of an aggregate of its own. -/
def storeOfPair : Store :=
  ((storeOfOne 8 2).insertJob (waitingJob 7 1)).insertAggregate (openAggregate 1 1)

/-- When the job of the first aggregate is killed its counter still stands
for it.  A request for work that is served alone then ends in a conflict,
over and over, and the other job is not handed out. -/
theorem killed_job_leaves_phantom_work :
    let kill := Task.command {} (.forceJobStatus 7 .killed)
    let t := Task.request {} agentRequest
    let s' := (generousPartners.serve kill.program storeOfPair).2
    storeOfPair.Exact ∧ Served storeOfPair [(storeOfPair, kill)] s' ∧ ¬ s'.Exact ∧
      t.Executes s' (.ok (.nothingToRun .claimConflict)) s' ∧ s'.waitingIds 2 = [8] := by
  intro kill t s'
  have hserve : generousPartners.serve t.program s' = (.ok (.nothingToRun .claimConflict), s') := by
    rfl
  refine ⟨by decide +kernel, .cons (Task.executes_serve generousPartners kill _) .nil,
    by decide +kernel, ?_, by decide +kernel⟩
  have hexec := Task.executes_serve generousPartners t s'
  rwa [hserve] at hexec

end GridQueue
