/-
# `GridQueue.Proofs.HandOut` — every waiting job is handed out once

Requests that look up, claim and count in turns, over one aggregate that
stands for as many jobs as wait.  A look-up may be stale by the time of
the claim, and the counter lags behind the jobs.  What the turns keep is
in the `Books`:

| | |
| :-- | :-- |
| the counter | jobs that wait, and claims that are not yet counted |
| the jobs that waited | those claimed, in the order of the claims, then those that wait |
| a claimed job | ASSIGNED, one hand-out more |
| a request that found nothing | the counter is zero, so nothing waits |

The first line is why a request that finds nothing may be told so: while
a job waits the counter is positive.  At the end no claim is uncounted,
and either nothing waits or every request has a job
(`waiting_jobs_are_handed_out_once`).

That each hand-out has the next number depends on there being one: after the
greatest one comes the least (`greatest_number_is_followed_by_least`).
-/
import GridQueue.Proofs.Store.Search
import GridQueue.Proofs.Store.Waiting
import GridQueue.Proofs.Surroundings
import Mathlib.Data.Fintype.Card

namespace GridQueue

open Matching

/-! ## The setting -/

/-- The request joined with what the site requires. -/
def Matching.Request.resolve (requirements : String → String → Site.Requirements)
    (request : Request) : Resolved :=
  .of request (requirements request.ce request.site)

/-- The filter of the first look-up. -/
def Matching.Resolved.strictFilter (r : Resolved) : Filter := r.localFilter r.inventory.check

/-- An aggregate of an owner who is served is the only one, and stands for
as many jobs as wait. -/
structure OneAggregate (s : Store) (a : Aggregate) (k : ℕ) : Prop where
  only : s.aggregates.values = [a]
  counter : a.counter = k
  waiting : (s.waitingIds a.id).length = k
  included : ¬ s.Excludes a.user

/-- A request that the aggregate can serve at the first tier, as long as
it stands for a job. -/
structure Suits (requirements : String → String → Site.Requirements) (a : Aggregate)
    (request : Request) : Prop where
  valid : request.flaw? = none
  accepts : ∀ n : Int, 0 < n →
    (request.resolve requirements).strictFilter.accepts { a with counter := n } = true

/-! ## Calls that leave the work alone -/

/-- Calls of a request that change neither jobs nor aggregates, weights or
blocked queues. -/
def Call.KeepsWork : Call → Prop
  | .store (.siteQueue _) | .store (.findWaiting _) | .store (.setQueueStatus _ _ _)
  | .store (.adjustCounters _ _ _ _) | .store (.appendTrace _ _ _)
  | .lookup _ _ | .issue _ | .revoke _ | .now | .stopwatch | .note _ => True
  | .store _ => False

/-- Two stores with the same jobs, aggregates, weights and blocked queues. -/
structure SameWork (s s' : Store) : Prop where
  jobs : s'.jobs = s.jobs
  aggregates : s'.aggregates = s.aggregates
  records : s'.records = s.records
  isBlocked : ∀ ce, s'.isBlocked ce = s.isBlocked ce

theorem SameWork.refl (s : Store) : SameWork s s := ⟨rfl, rfl, rfl, fun _ => rfl⟩

theorem Call.KeepsWork.sameWork {w : Surroundings} {s s' : Store} {c : Call} {answer : c.Answer}
    (h : c.KeepsWork) (hW : w.world c s answer s') : SameWork s s' := by
  obtain ⟨hj, ha, hr, hb⟩ : c.writes ≠ some .jobs ∧ c.writes ≠ some .aggregates ∧
      c.writes ≠ some .records ∧ ∀ ce blocked, c ≠ .store (.setQueueBlocked ce blocked) := by
    cases c with
    | store c => cases c <;> first | exact False.elim h | simp [Call.writes, StoreCall.writes]
    | _ => simp [Call.writes]
  exact ⟨Surroundings.world_same hW hj, Surroundings.world_same hW ha,
    Surroundings.world_same hW hr, Surroundings.world_isBlocked hW hb⟩

/-! ## What is known at a stage -/

namespace Matching.Stage

/-- The request made a claim that is not counted yet. -/
def isHolding : Stage → Bool
  | holding _ _ _ => true
  | _ => false

/-- The job of the request's claim. -/
def claimedId? (m : Stage) : Option Int := m.claimed?.map (·.jobId)

/-- What is known at a stage, of the counter of the aggregate and of the
jobs that wait.  The other stages are not reached if nothing fails. -/
def Fits (r : Resolved) (aggregateId counter : Int) (waiting : List Int) : Stage → Prop
  | arriving | counted _ _ | issued _ _ _ | traced _ _ _ | delivered _ _ _ => True
  | resolved r' => r' = r
  | wanting _ => counter = 0
  | chosen id _ | holding id _ _ => id = aggregateId
  | nothing _ => waiting = []
  | refused _ _ | withdrawn _ _ | revoked _ _ | undone _ _ | failed _ | install _ _ => False

/-- It stays so when the counter and the jobs that wait do, once there are
none. -/
theorem Fits.mono {r : Resolved} {aggregateId counter counter' : Int} {waiting waiting' : List Int}
    {m : Stage} (h : m.Fits r aggregateId counter waiting) (hc : counter = 0 → counter' = 0)
    (hw : waiting = [] → waiting' = []) : m.Fits r aggregateId counter' waiting' := by
  cases m with
  | wanting => exact hc h
  | nothing => exact hw h
  | _ => exact h

/-- A request that is settled has a job, or found nothing when nothing
waited any more. -/
theorem Fits.settled {r : Resolved} {aggregateId counter : Int} {waiting : List Int}
    {m : Stage} {result : Except BrokerError Outcome}
    (h : m.Fits r aggregateId counter waiting) (hr : m.result? = some result) :
    (∃ job, result = .ok (.assigned job) ∧ m.claimedId? = some job.jobId) ∨
      (∃ reason, result = .ok (.nothingToRun reason)) ∧ m.claimedId? = none ∧ waiting = [] := by
  cases m with
  | delivered tier job token =>
      cases hr
      exact .inl ⟨_, rfl, rfl⟩
  | nothing reason =>
      cases hr
      exact .inr ⟨⟨reason, rfl⟩, rfl, h⟩
  | failed | install | undone => exact h.elim
  | _ => cases hr

end Matching.Stage

/-! ## The books -/

section Books

variable {ι : Type} [Fintype ι] [DecidableEq ι]

/-- The requests whose claims are not counted yet. -/
def holders (m : ι → Stage) : Finset ι := Finset.univ.filter fun i => (m i).isHolding = true

/-- What the counter of an aggregate is to be. -/
def due (m : ι → Stage) (s : Store) (aggregateId : Int) : Int :=
  (s.waitingIds aggregateId).length + (holders m).card

/-- The requests that claimed, in the order of their claims, took the
first of the jobs that waited; the others still wait. -/
structure Taken (aggregateId : Int) (s₀ s : Store) (m : ι → Stage) (order : List ι) : Prop where
  nodup : order.Nodup
  mem : ∀ i, i ∈ order ↔ (m i).claimedId? ≠ none
  ids : order.map (fun i => (m i).claimedId?) ++ (s.waitingIds aggregateId).map some =
    (s₀.waitingIds aggregateId).map some

/-- What is kept of a store whose aggregate `a` is worked off by requests,
since it was `s₀`. -/
structure Books (requirements : String → String → Site.Requirements) (requests : ι → Request)
    (a : Aggregate) (s₀ : Store) (m : ι → Stage) (s : Store) : Prop where
  counter : ∃ idleSince, s.aggregates.values = [{ a with counter := due m s a.id, idleSince }]
  records : s.records = s₀.records
  isOpen : ∀ i, s.isBlocked (requests i).ce = false
  fits : ∀ i, (m i).Fits ((requests i).resolve requirements) a.id (due m s a.id)
    (s.waitingIds a.id)
  taken : ∃ order, Taken a.id s₀ s m order
  untouched : ∀ id, (∀ i, (m i).claimedId? ≠ some id) → s.jobs.get? id = s₀.jobs.get? id
  claimed : ∀ i id, (m i).claimedId? = some id →
    ∃ j j', s₀.jobs.get? id = some j ∧ j.status = .waiting ∧ s.jobs.get? id = some j' ∧
      j'.status = .assigned ∧ j'.resubmission = wrapInt32 (j.resubmission + 1)

/-! ### When one request moves -/

section Update

variable {m : ι → Stage} {i : ι} {m' : Stage}

omit [Fintype ι] in
theorem claimedId?_update (h : m'.claimedId? = (m i).claimedId?) (j : ι) :
    (Function.update m i m' j).claimedId? = (m j).claimedId? := by
  by_cases hj : j = i
  · subst hj
    rw [Function.update_self, h]
  · rw [Function.update_of_ne hj]

theorem holders_update :
    holders (Function.update m i m') =
      if m'.isHolding then insert i (holders m) else (holders m).erase i := by
  ext j
  by_cases hj : j = i
  · subst hj
    cases h : m'.isHolding <;> simp [holders, h]
  · cases m'.isHolding <;> simp [holders, hj]

omit [DecidableEq ι] in
theorem mem_holders : i ∈ holders m ↔ (m i).isHolding = true := by
  simp [holders]

/-- A move that neither claims nor counts leaves the claims that are not
counted. -/
theorem holders_update_eq (h : m'.isHolding = (m i).isHolding) :
    holders (Function.update m i m') = holders m := by
  rw [holders_update]
  split
  · next h' => exact Finset.insert_eq_of_mem (mem_holders.mpr (h ▸ h'))
  · next h' => exact Finset.erase_eq_of_notMem fun hmem => h' (h ▸ mem_holders.mp hmem)

theorem holders_update_claim (h : (m i).isHolding = false) (h' : m'.isHolding = true) :
    (holders (Function.update m i m')).card = (holders m).card + 1 := by
  rw [holders_update, if_pos h']
  exact Finset.card_insert_of_notMem fun hmem => by simp [mem_holders.mp hmem] at h

theorem holders_update_count (h : (m i).isHolding = true) (h' : m'.isHolding = false) :
    (holders (Function.update m i m')).card + 1 = (holders m).card := by
  rw [holders_update, if_neg (by simp [h'])]
  exact Finset.card_erase_add_one (mem_holders.mpr h)

end Update

variable {requirements : String → String → Site.Requirements} {requests : ι → Request}
  {a : Aggregate} {s₀ s s' : Store} {m : ι → Stage} {i : ι} {m' : Stage}

omit [Fintype ι] in
theorem Taken.same {aggregateId : Int} {order : List ι} (h : Taken aggregateId s₀ s m order)
    (hjobs : s'.jobs = s.jobs) (hm : m'.claimedId? = (m i).claimedId?) :
    Taken aggregateId s₀ s' (Function.update m i m') order where
  nodup := h.nodup
  mem j := by rw [h.mem, claimedId?_update hm]
  ids := by simpa only [claimedId?_update hm, Store.waitingIds_congr hjobs] using h.ids

/-- A request that neither claims nor counts. -/
theorem Books.quiet (h : Books requirements requests a s₀ m s) (hsame : SameWork s s')
    (hid : m'.claimedId? = (m i).claimedId?) (hholding : m'.isHolding = (m i).isHolding)
    (hfits : m'.Fits ((requests i).resolve requirements) a.id (due m s a.id)
      (s.waitingIds a.id)) :
    Books requirements requests a s₀ (Function.update m i m') s' := by
  have hwaiting : s'.waitingIds a.id = s.waitingIds a.id := Store.waitingIds_congr hsame.jobs
  have hdue : due (Function.update m i m') s' a.id = due m s a.id := by
    rw [due, holders_update_eq hholding, hwaiting, due]
  refine ⟨?_, hsame.records.trans h.records, fun j => (hsame.isBlocked _).trans (h.isOpen j),
    ?_, ?_, ?_, ?_⟩
  · rw [hsame.aggregates, hdue]
    exact h.counter
  · intro j
    rw [hdue, hwaiting]
    by_cases hj : j = i
    · subst hj
      rwa [Function.update_self]
    · rw [Function.update_of_ne hj]
      exact h.fits j
  · obtain ⟨order, htaken⟩ := h.taken
    exact ⟨order, htaken.same hsame.jobs hid⟩
  · intro id hnone
    rw [hsame.jobs]
    exact h.untouched id fun j => claimedId?_update hid j ▸ hnone j
  · intro j id hj
    rw [hsame.jobs]
    exact h.claimed j id (claimedId?_update hid j ▸ hj)

/-! ### Claims -/

omit [Fintype ι] in
theorem Taken.claim {aggregateId id : Int} {order : List ι} {rest : List Int}
    (h : Taken aggregateId s₀ s m order) (hnone : (m i).claimedId? = none)
    (hid : m'.claimedId? = some id) (hwaiting : s.waitingIds aggregateId = id :: rest)
    (hrest : s'.waitingIds aggregateId = rest) :
    Taken aggregateId s₀ s' (Function.update m i m') (order ++ [i]) := by
  have hi : i ∉ order := fun hmem => (h.mem i).mp hmem hnone
  refine ⟨?_, ?_, ?_⟩
  · rw [← List.concat_eq_append]
    exact h.nodup.concat hi
  · intro j
    rw [List.mem_append, List.mem_singleton, h.mem]
    by_cases hj : j = i
    · subst hj
      simp [hid]
    · simp [hj]
  · have hsame : order.map (fun j => (Function.update m i m' j).claimedId?) =
        order.map fun j => (m j).claimedId? :=
      List.map_congr_left fun j hj => by
        rw [Function.update_of_ne fun (he : j = i) => hi (he ▸ hj)]
    rw [← h.ids, hwaiting, hrest, List.map_append, hsame, List.map_singleton,
      Function.update_self, hid, List.append_assoc]
    rfl

omit [DecidableEq ι] in
theorem Books.unclaimed (h : Books requirements requests a s₀ m s) {j : Job}
    (hj : s.jobs.get? j.id = some j) (hw : j.status = .waiting) (i : ι) :
    (m i).claimedId? ≠ some j.id := by
  intro hi
  obtain ⟨-, j', -, -, hj', hassigned, -⟩ := h.claimed i j.id hi
  cases hj.symm.trans hj'
  rw [hw] at hassigned
  cases hassigned

theorem Books.claim (h : Books requirements requests a s₀ m s) {j : Job} {rest : List Int}
    {target : ClaimTarget} {now : Instant} (hholding : (m i).isHolding = false)
    (hnone : (m i).claimedId? = none) (hholding' : m'.isHolding = true)
    (hid : m'.claimedId? = some j.id) (hj : s.jobs.get? j.id = some j) (hw : j.status = .waiting)
    (hwaiting : s.waitingIds a.id = j.id :: rest)
    (hfits : ∀ counter waiting, m'.Fits ((requests i).resolve requirements) a.id counter waiting) :
    Books requirements requests a s₀ (Function.update m i m')
      (s.insertJob (Store.claimed j target now)) := by
  have hrest : (s.insertJob (Store.claimed j target now)).waitingIds a.id = rest :=
    Store.waitingIds_insertJob_claimed hwaiting
  -- the job leaves those that wait, and its claim joins those not counted
  have hdue : due (Function.update m i m') (s.insertJob (Store.claimed j target now)) a.id =
      due m s a.id := by
    rw [due, holders_update_claim hholding hholding', hrest, due, hwaiting, List.length_cons]
    push_cast
    omega
  have hrow : ∀ id, id ≠ j.id →
      (s.insertJob (Store.claimed j target now)).jobs.get? id = s.jobs.get? id := fun id hne => by
    rw [Store.get?_insertJob, Store.claimed_id, if_neg hne]
  have hstart := h.untouched j.id (h.unclaimed hj hw)
  refine ⟨?_, h.records, h.isOpen, ?_, ?_, ?_, ?_⟩
  · rw [hdue]
    exact h.counter
  · intro k
    by_cases hk : k = i
    · subst hk
      rw [Function.update_self]
      exact hfits _ _
    · rw [Function.update_of_ne hk, hdue]
      exact (h.fits k).mono id fun hnil => absurd (hwaiting.symm.trans hnil) (List.cons_ne_nil _ _)
  · obtain ⟨order, htaken⟩ := h.taken
    exact ⟨_, htaken.claim hnone hid hwaiting hrest⟩
  · intro id hnot
    have hne : id ≠ j.id := fun he => hnot i (by rw [Function.update_self, hid, he])
    rw [hrow id hne]
    refine h.untouched id fun k hk => hnot k ?_
    rwa [Function.update_of_ne fun he => by rw [he, hnone] at hk; cases hk]
  · intro k id hk
    by_cases hki : k = i
    · subst hki
      rw [Function.update_self, hid] at hk
      cases hk
      exact ⟨j, Store.claimed j target now, hstart ▸ hj, hw, by
        rw [Store.get?_insertJob, Store.claimed_id, if_pos rfl], rfl, rfl⟩
    · rw [Function.update_of_ne hki] at hk
      rw [hrow id fun he => h.unclaimed hj hw k (he ▸ hk)]
      exact h.claimed k id hk

/-! ### Counts -/

theorem Store.values_decrement {b : Aggregate} {isLocal : Bool} {now : Instant}
    (h : s.aggregates.values = [b]) :
    (s.decrement b.id isLocal now).aggregates.values =
      [{ b with
          counter := max (b.counter - 1) 0
          idleSince := if isLocal then now else b.idleSince }] := by
  have hb : s.aggregates.get? b.id = some b :=
    s.aggregatesKeyed.mem_values.mp (h ▸ List.mem_singleton_self b)
  rw [Store.decrement_of_get? hb]
  exact s.aggregatesKeyed.values_insert h rfl

theorem Books.count (h : Books requirements requests a s₀ m s) {isLocal : Bool} {now : Instant}
    (hholding : (m i).isHolding = true) (hholding' : m'.isHolding = false)
    (hid : m'.claimedId? = (m i).claimedId?)
    (hfits : ∀ counter waiting, m'.Fits ((requests i).resolve requirements) a.id counter waiting) :
    Books requirements requests a s₀ (Function.update m i m') (s.decrement a.id isLocal now) := by
  have hsame : Store.SameBut .aggregates s (s.decrement a.id isLocal now) :=
    Store.decrement_sameBut a.id isLocal
  have hjobs := hsame.same .jobs (by decide)
  have hwaiting : (s.decrement a.id isLocal now).waitingIds a.id = s.waitingIds a.id :=
    Store.waitingIds_congr hjobs
  have hcard := holders_update_count hholding hholding'
  have hdue : due (Function.update m i m') (s.decrement a.id isLocal now) a.id + 1 =
      due m s a.id := by
    rw [due, hwaiting, due, ← hcard]
    push_cast
    omega
  have hpos : 0 ≤ due (Function.update m i m') (s.decrement a.id isLocal now) a.id := by
    rw [due]
    omega
  refine ⟨?_, (hsame.same .records (by decide)).trans h.records, ?_, ?_, ?_, ?_, ?_⟩
  · obtain ⟨idleSince, hvalues⟩ := h.counter
    refine ⟨if isLocal then now else idleSince, ?_⟩
    rw [Store.values_decrement hvalues, ← hdue]
    have hmax : max (due (Function.update m i m') (s.decrement a.id isLocal now) a.id + 1 - 1) 0 =
        due (Function.update m i m') (s.decrement a.id isLocal now) a.id := by
      omega
    simp only [hmax]
  · intro k
    rw [Store.isBlocked, hsame.same .queues (by decide)]
    exact h.isOpen k
  · intro k
    by_cases hk : k = i
    · subst hk
      rw [Function.update_self]
      exact hfits _ _
    · rw [Function.update_of_ne hk, hwaiting]
      exact (h.fits k).mono (fun hzero => by omega) id
  · obtain ⟨order, htaken⟩ := h.taken
    exact ⟨order, htaken.same hjobs hid⟩
  · intro id hnot
    rw [hjobs]
    exact h.untouched id fun k => claimedId?_update hid k ▸ hnot k
  · intro k id hk
    rw [hjobs]
    exact h.claimed k id (claimedId?_update hid k ▸ hk)

/-! ### Look-ups -/

omit [DecidableEq ι] in
/-- A look-up can find the one aggregate only, and only if it still stands
for a job. -/
theorem Books.found (h : Books requirements requests a s₀ m s) {f : Filter} {b : Aggregate}
    (hb : s.findWaiting f = some b) : b.id = a.id ∧ 0 < due m s a.id := by
  obtain ⟨hmem, haccepts, -⟩ := (Store.findWaiting_eq_some.mp hb).mem
  obtain ⟨idleSince, hvalues⟩ := h.counter
  rw [hvalues, List.mem_singleton] at hmem
  subst hmem
  exact ⟨rfl, Filter.counter_pos haccepts⟩

omit [DecidableEq ι] in
/-- A request whose first look-up finds nothing comes when all is claimed
and counted. -/
theorem Books.missed (h : Books requirements requests a s₀ m s) {request : Request}
    (hsuits : Suits requirements a request) (hincluded : ¬ s₀.Excludes a.user)
    (hnone : s.findWaiting (request.resolve requirements).strictFilter = none) :
    due m s a.id = 0 := by
  obtain ⟨idleSince, hvalues⟩ := h.counter
  by_contra hne
  have hpos : 0 < due m s a.id := by
    have hnonneg : 0 ≤ due m s a.id := by
      rw [due]
      omega
    omega
  refine Store.findWaiting_eq_none.mp hnone { a with counter := due m s a.id, idleSince }
    ⟨hvalues ▸ List.mem_singleton_self _, hsuits.accepts _ hpos, ?_⟩
  rwa [Store.Excludes, h.records]

omit [DecidableEq ι] in
theorem waitingIds_of_due_eq_zero (h : due m s a.id = 0) : s.waitingIds a.id = [] := by
  rw [due] at h
  exact List.length_eq_zero_iff.mp (by omega)

/-! ### Steps -/

theorem Books.step {settings : BrokerSettings} {c : Call} {answer : c.Answer}
    (hsuits : Suits requirements a (requests i)) (hincluded : ¬ s₀.Excludes a.user)
    (h : Books requirements requests a s₀ m s)
    (hm : Stage.Moves settings (requests i) (m i) c answer m')
    (hW : (Surroundings.reliable requirements).world c s answer s') :
    Books requirements requests a s₀ (Function.update m i m') s' := by
  have hfits := h.fits i
  generalize hmi : m i = x at hm hfits
  have hquiet := fun (hc : c.KeepsWork) (hid : m'.claimedId? = x.claimedId?)
      (hholding : m'.isHolding = x.isHolding) =>
    h.quiet (hc.sameWork hW) (hmi ▸ hid) (hmi ▸ hholding)
  cases hm with
  | stopwatch | now | note => exact hquiet trivial rfl rfl hfits
  -- but for traces the store does not fail
  | queueError | firstError | laterError | noMatchError | claimError =>
      obtain ⟨now, hp⟩ := Surroundings.reliable_store hW
      cases congrArg Prod.fst hp
  | siteError => cases hW.1
  | refuse =>
      obtain ⟨⟨token, htoken⟩, -⟩ := hW
      cases htoken
  | withdraw | revoke | traceRefusal => exact hfits.elim
  | blocked hq =>
      obtain ⟨now, hp⟩ := Surroundings.reliable_store hW
      cases hp
      cases (h.isOpen i).symm.trans hq
  | «open» => exact hquiet trivial rfl rfl trivial
  | site =>
      cases hW.1
      exact hquiet trivial rfl rfl rfl
  | firstFound =>
      obtain ⟨now, hp⟩ := Surroundings.reliable_store hW
      exact hquiet trivial rfl rfl (h.found (Except.ok.inj (congrArg Prod.fst hp))).1
  | firstMissed =>
      obtain ⟨now, hp⟩ := Surroundings.reliable_store hW
      cases hfits
      exact hquiet trivial rfl rfl
        (h.missed hsuits hincluded (Except.ok.inj (congrArg Prod.fst hp)))
  -- the counter is zero since the first look-up, and no filter accepts that
  | laterFound | lacking =>
      obtain ⟨now, hp⟩ := Surroundings.reliable_store hW
      have hpos := (h.found (Except.ok.inj (congrArg Prod.fst hp))).2
      exact absurd hfits hpos.ne'
  | laterMissed => exact hquiet trivial rfl rfl hfits
  | noCandidate => exact hquiet trivial rfl rfl (waitingIds_of_due_eq_zero hfits)
  | lost =>
      obtain ⟨now, hp⟩ := Surroundings.reliable_store hW
      cases hfits
      obtain ⟨rfl, hnil⟩ := Store.claimWaiting_eq_none (Store.perform_claimWaiting.mp hp)
      exact h.quiet (.refl _) (hmi ▸ rfl) (hmi ▸ rfl) hnil
  | won =>
      obtain ⟨now, hp⟩ := Surroundings.reliable_store hW
      cases hfits
      obtain ⟨j, rest, rfl, hj, hw, hwaiting, rfl⟩ :=
        Store.claimWaiting_eq_some (Store.perform_claimWaiting.mp hp)
      exact h.claim (hmi ▸ rfl) (hmi ▸ rfl) rfl rfl hj hw hwaiting fun _ _ => rfl
  | count =>
      obtain ⟨now, hp⟩ := Surroundings.reliable_store hW
      cases hfits
      cases hp
      exact h.count (hmi ▸ rfl) rfl (hmi ▸ rfl) fun _ _ => trivial
  | issue | trace | adjust => exact hquiet trivial rfl rfl trivial

omit [Fintype ι] [DecidableEq ι] in
theorem Taken.ids_eq {order : List ι} (h : Taken a.id s₀ s m order) :
    order.map (fun i => (m i).claimedId?) =
      ((s₀.waitingIds a.id).take order.length).map some := by
  rw [List.map_take, ← h.ids, List.take_append_of_le_length (by simp)]
  simp

omit [Fintype ι] [DecidableEq ι] in
theorem Taken.length_add {order : List ι} (h : Taken a.id s₀ s m order) :
    order.length + (s.waitingIds a.id).length = (s₀.waitingIds a.id).length := by
  simpa using congrArg List.length h.ids

omit [Fintype ι] [DecidableEq ι] in
theorem Taken.nodup_ids {order : List ι} (h : Taken a.id s₀ s m order) :
    (order.map fun i => (m i).claimedId?).Nodup := by
  have hsorted := s₀.pairwise_waitingIds a.id
  rw [h.ids_eq, List.nodup_map_iff (Option.some_injective _)]
  exact (List.take_sublist _ _).nodup (hsorted.imp Int.ne_of_lt)

omit [Fintype ι] [DecidableEq ι] in
theorem Taken.mem_take {order : List ι} (h : Taken a.id s₀ s m order) {id : Int} :
    id ∈ (s₀.waitingIds a.id).take order.length ↔ ∃ i, (m i).claimedId? = some id := by
  rw [← List.mem_map_of_injective (Option.some_injective _), ← h.ids_eq, List.mem_map]
  constructor
  · exact fun ⟨i, _, hi⟩ => ⟨i, hi⟩
  · exact fun ⟨i, hi⟩ => ⟨i, (h.mem i).mpr (hi ▸ Option.some_ne_none id), hi⟩

/-! ### From the start to the end -/

omit [DecidableEq ι] in
theorem Books.start {k : ℕ} (hone : OneAggregate s a k)
    (hsuits : ∀ i, Suits requirements a (requests i))
    (hopen : ∀ i, s.isBlocked (requests i).ce = false) :
    Books requirements requests a s (fun i => .first (requests i)) s := by
  have hfirst : ∀ i, Stage.first (requests i) = .arriving := fun i => by
    rw [Stage.first, (hsuits i).valid]
  have hdue : due (fun i => .first (requests i)) s a.id = k := by
    simp [due, holders, hfirst, Stage.isHolding, hone.waiting]
  refine ⟨⟨a.idleSince, ?_⟩, rfl, hopen, ?_, ⟨[], ?_⟩, fun id _ => rfl, ?_⟩
  · rw [hdue, ← hone.counter]
    exact hone.only
  · intro i
    rw [hfirst]
    exact trivial
  · refine ⟨.nil, ?_, rfl⟩
    intro i
    rw [hfirst]
    exact iff_of_false List.not_mem_nil fun h => h rfl
  · intro i id hi
    rw [hfirst] at hi
    cases hi

/-- When all requests are settled, as many of them claimed as there are
jobs or requests. -/
theorem Taken.length_eq {k : ℕ} {order : List ι} (h : Taken a.id s₀ s m order)
    (hk : (s₀.waitingIds a.id).length = k)
    (hleft : ∀ i, (m i).claimedId? = none → s.waitingIds a.id = []) :
    order.length = min k (Fintype.card ι) := by
  have hlength := h.length_add
  rw [hk] at hlength
  have hcard : order.length ≤ Fintype.card ι := h.nodup.length_le_card
  by_cases hall : ∀ i, i ∈ order
  · have huniv : order.toFinset = Finset.univ := by
      ext i
      simp [hall i]
    have hcard' : order.length = Fintype.card ι := by
      rw [← List.toFinset_card_of_nodup h.nodup, huniv, Finset.card_univ]
    omega
  · obtain ⟨i, hi⟩ := not_forall.mp hall
    have hnil := hleft i (by_contra fun hne => hi ((h.mem i).mpr hne))
    rw [hnil, List.length_nil] at hlength
    omega

/-! ### The answers -/

/-- The job that was handed out by an answer. -/
def assignedId? : Except BrokerError Outcome → Option Int
  | .ok (.assigned job) => some job.jobId
  | .ok (.installPackages _ _) | .ok (.nothingToRun _) | .error _ => none

/-- Of the jobs that waited in `s` the first `n` were handed out, each
once, and `s'` shows it. -/
structure HandedOut (s s' : Store) (a : Aggregate) (n : ℕ)
    (result : ι → Except BrokerError Outcome) : Prop where
  answers : ∀ i, (∃ job, result i = .ok (.assigned job)) ∨
    ∃ reason, result i = .ok (.nothingToRun reason)
  count : (Finset.univ.filter fun i => assignedId? (result i) ≠ none).card = n
  distinct : ∀ i j id, assignedId? (result i) = some id → assignedId? (result j) = some id → i = j
  smallest : ∀ id, (∃ i, assignedId? (result i) = some id) ↔ id ∈ (s.waitingIds a.id).take n
  jobs : ∀ i id, assignedId? (result i) = some id →
    ∃ j j', s.jobs.get? id = some j ∧ s'.jobs.get? id = some j' ∧ j'.status = .assigned ∧
      j'.resubmission = j.resubmission + 1
  counter : ∃ a', s'.aggregates.get? a.id = some a' ∧ a'.counter = a.counter - n

theorem Books.handedOut {k : ℕ} {result : ι → Except BrokerError Outcome}
    (h : Books requirements requests a s₀ m s) (hone : OneAggregate s₀ a k)
    (hnumbers : ∀ id ∈ s₀.waitingIds a.id, ∀ j ∈ s₀.jobs.get? id, FitsInt32 (j.resubmission + 1))
    (hresult : ∀ i, (m i).result? = some (result i)) :
    HandedOut s₀ s a (min k (Fintype.card ι)) result := by
  have hsettled := fun i => (h.fits i).settled (hresult i)
  have hid : ∀ i, assignedId? (result i) = (m i).claimedId? := fun i => by
    rcases hsettled i with ⟨job, hr, hc⟩ | ⟨⟨reason, hr⟩, hc, -⟩
    · rw [hr, hc, assignedId?]
    · rw [hr, hc, assignedId?]
  obtain ⟨order, htaken⟩ := h.taken
  have hn : order.length = min k (Fintype.card ι) := by
    refine htaken.length_eq hone.waiting ?_
    intro i hi
    rcases hsettled i with ⟨job, -, hc⟩ | ⟨-, -, hnil⟩
    · rw [hi] at hc
      cases hc
    · exact hnil
  have hids := htaken.ids_eq
  refine ⟨?_, ?_, ?_, ?_, ?_, ?_⟩
  · intro i
    rcases hsettled i with ⟨job, hr, -⟩ | ⟨hr, -⟩
    · exact .inl ⟨job, hr⟩
    · exact .inr hr
  · rw [← hn, ← List.toFinset_card_of_nodup htaken.nodup]
    congr 1
    ext i
    simp [hid, htaken.mem]
  · intro i j id hi hj
    rw [hid] at hi hj
    have hnodup := htaken.nodup_ids
    refine List.inj_on_of_nodup_map hnodup ?_ ?_ (hi.trans hj.symm)
    · rw [htaken.mem, hi]
      exact Option.some_ne_none id
    · rw [htaken.mem, hj]
      exact Option.some_ne_none id
  · intro id
    rw [← hn, htaken.mem_take]
    simp only [hid]
  · intro i id hi
    rw [hid] at hi
    obtain ⟨j, j', hj, -, hj', hassigned, hnumber⟩ := h.claimed i id hi
    have hwaited : id ∈ s₀.waitingIds a.id := List.mem_of_mem_take (htaken.mem_take.mpr ⟨i, hi⟩)
    rw [wrapInt32_of_fits (hnumbers id hwaited j hj)] at hnumber
    exact ⟨j, j', hj, hj', hassigned, hnumber⟩
  · obtain ⟨idleSince, hvalues⟩ := h.counter
    have hget := s.aggregatesKeyed.mem_values.mp (hvalues ▸ List.mem_singleton_self _)
    have hnone : holders m = ∅ := Finset.filter_eq_empty_iff.mpr fun i _ => by
      have hi := hresult i
      cases hm : m i with
      | holding =>
          rw [hm] at hi
          cases hi
      | _ => simp [Stage.isHolding]
    have hlength := htaken.length_add
    rw [hn, hone.waiting] at hlength
    refine ⟨_, hget, ?_⟩
    simp only [due, hnone, Finset.card_empty, hone.counter]
    omega

/-- Any number of requests that one aggregate suits, in any order of their
calls, and with a token for each hand-out: when all have returned, the
first of the jobs that waited, as many as there are requests or else all,
were handed out, each once; the other requests were told that there is
nothing to run. -/
theorem waiting_jobs_are_handed_out_once {k : ℕ} {settings : ι → BrokerSettings}
    {es : List (Event ι Call Call.Answer Store)}
    {t : Threads ι Call Call.Answer
      (fun i => (Task.request (settings i) (requests i)).Result) Store}
    {result : ι → Except BrokerError Outcome}
    (hone : OneAggregate s a k)
    (hnumbers : ∀ id ∈ s.waitingIds a.id, ∀ j ∈ s.jobs.get? id, FitsInt32 (j.resubmission + 1))
    (hsuits : ∀ i, Suits requirements a (requests i))
    (hopen : ∀ i, s.isBlocked (requests i).ce = false)
    (h : Run (Surroundings.reliable requirements).world
      (Task.threads (fun i => .request (settings i) (requests i)) s) es t)
    (hdone : ∀ i, t.Finished i (result i)) :
    HandedOut s t.state a (min k (Fintype.card ι)) result := by
  let tasks : ι → Task := fun i => .request (settings i) (requests i)
  have hstart : Books requirements requests a s (fun i => (tasks i).first)
      (Task.threads tasks s).state := Books.start hone hsuits hopen
  obtain ⟨m, hbooks, hfollows⟩ := h.invariant (fun i => (tasks i).Moves)
    (fun i => (tasks i).Ends) (fun i => (tasks i).first) (fun i => (tasks i).follows)
    (fun _ m s' => Books requirements requests a s m s') hstart
    (fun _ _ _ i _ _ _ _ hbooks hm hW => hbooks.step (hsuits i) hone.included hm hW)
  refine hbooks.handedOut hone hnumbers ?_
  intro i
  have hi := hfollows i
  rw [show t.rest i = .done (result i) from hdone i] at hi
  exact hi

end Books

/-- What two requests for it are answered that take turns. -/
def turnsResult : Bool → Except BrokerError Outcome
  | false => .ok (.assigned
      { jobId := 7
        resubmission := 1
        jdl := ""
        owner := ⟨"alice", "submit"⟩
        token := ⟨"certificate", "key", none⟩
        tier := .full })
  | true => .ok (.nothingToRun .claimConflict)

theorem suits_agentRequest : Suits (fun _ _ => {}) (openAggregate 1 1) agentRequest := by
  have haccepts : (agentRequest.resolve fun _ _ => {}).strictFilter.accepts (openAggregate 1 1) =
      true := by decide +kernel
  exact ⟨by decide +kernel, fun n hn => Filter.accepts_counter haccepts hn⟩

/-- Both find the aggregate before either claims, and one gets the job. -/
theorem waiting_jobs_are_handed_out_once_of_one :
    let threads := Task.threads (fun _ : Bool => .request {} agentRequest) (storeOfOne 7 1)
    let t := threads.play generousPartners.reply (List.replicate 12 [false, true]).flatten
    ∃ es, Run (Surroundings.reliable fun _ _ => {}).world threads es t ∧
      (∀ i, t.Finished i (turnsResult i)) ∧
      HandedOut (storeOfOne 7 1) t.state (openAggregate 1 1) 1 turnsResult := by
  intro threads t
  have hdone : ∀ i, t.Finished i (turnsResult i) := fun i =>
    Threads.finished_of_result? (by cases i <;> decide +kernel)
  obtain ⟨es, h⟩ := Run.exists_play
    (Surroundings.reliable_reply generousPartners fun _ => ⟨_, rfl⟩) threads _
  have hincluded : ¬ (storeOfOne 7 1).Excludes "alice" := by
    rintro ⟨record, hrecord, -⟩
    cases hrecord
  exact ⟨es, h, hdone, waiting_jobs_are_handed_out_once
    ⟨rfl, rfl, by decide +kernel, hincluded⟩ (by decide +kernel) (fun _ => suits_agentRequest)
    (fun _ => by decide +kernel) h hdone⟩

/-- A job that was handed out as often as can be counted is handed out once
more: one aggregate stands for it, the request suits, and all is as it should
be but for the number. -/
theorem greatest_number_is_followed_by_least :
    let s := storeOfLast 7 1
    let result : Unit → Except BrokerError Outcome :=
      fun _ => .ok (.assigned { firstHandOut 7 .full with resubmission := -0x80000000 })
    let threads := Task.threads (fun _ : Unit => .request {} agentRequest) s
    let t := threads.play generousPartners.reply (List.replicate 13 ())
    OneAggregate s (openAggregate 1 1) 1 ∧
      Suits (fun _ _ => {}) (openAggregate 1 1) agentRequest ∧ s.isBlocked "ce" = false ∧
      (∃ es, Run (Surroundings.reliable fun _ _ => {}).world threads es t) ∧
      (∀ i, t.Finished i (result i)) ∧ ¬ HandedOut s t.state (openAggregate 1 1) 1 result := by
  intro s result threads t
  have hincluded : ¬ s.Excludes "alice" := by
    rintro ⟨record, hrecord, -⟩
    cases hrecord
  refine ⟨⟨rfl, rfl, by decide +kernel, hincluded⟩, suits_agentRequest, by decide +kernel,
    Run.exists_play (Surroundings.reliable_reply generousPartners fun _ => ⟨_, rfl⟩) threads _,
    fun i => Threads.finished_of_result? (by cases i; decide +kernel), fun h => ?_⟩
  obtain ⟨j, j', hj, hj', -, hnumber⟩ := h.jobs () 7 rfl
  have hbefore : (s.jobs.get? 7).map (·.resubmission) = some (0x80000000 - 1) := rfl
  have hafter : (t.state.jobs.get? 7).map (·.resubmission) = some (-0x80000000) := by
    decide +kernel
  rw [hj] at hbefore
  rw [hj'] at hafter
  have hj_number : j.resubmission = 0x80000000 - 1 := Option.some.inj hbefore
  have hj'_number : j'.resubmission = -0x80000000 := Option.some.inj hafter
  omega

end GridQueue
