/-
# `GridQueue.Proofs.Matching.Footprint` — what a request writes

The answer to a request that runs alone says what became of the store:

    a flaw, a directory that failed        nothing was written
    a blocked queue, a lost claim          nothing was written
    packages to install                    nothing was written
    nothing found                          the queue says so
    a job                                  job, aggregate, queue, one trace
    no token for a job                     job, aggregate, one trace

`Leaves` gives the whole store after each answer: which row of which
table changed and how, and that the other tables are as they were.  It
follows from the courses of a request, a claim being the only one that
writes more than the row of a queue.

A hand-out counts twice: in the row of the job, which has 32 bits for it,
and in the row of the queue, which has 64.  Both counts grow by one if they
have room for it (`HasRoom`); at their ends they start over
(`full_counts_start_over`).
-/
import GridQueue.Proofs.Matching.Course
import GridQueue.Proofs.Table

namespace GridQueue.Matching

/-! ## The store after an answer -/

/-- A waiting job of an aggregate was taken for a request as the hand-out of
this number, was counted and is in a status now.  Queues and traces are
another matter. -/
structure Takes (request : Request) (now : Instant) (isLocal : Bool) (status : Status)
    (number : Int) (j : Job) (a : Aggregate) (s s' : Store) : Prop where
  waits : j.status = .waiting
  isOf : j.aggregateId = some a.id
  job : s.jobs.get? j.id = some j
  aggregate : s.aggregates.get? a.id = some a
  jobs : s'.jobs = s.jobs.insert j.id
    { j with
      status
      site := some request.site
      ce := some request.ce
      execHost := some request.host
      resubmission := number
      lastHeartbeat := some now }
  aggregates : s'.aggregates = s.aggregates.insert a.id
    { a with
      counter := max (a.counter - 1) 0
      idleSince := if isLocal then now else a.idleSince }
  records : s'.records = s.records
  markers : s'.markers = s.markers

/-- A queue whose agent got a job, and named its site. -/
def served (site : String) (q : SiteQueue) : SiteQueue :=
  { q with site, assigned := q.assigned + 1, waiting := max (q.waiting - 1) 0 }

/-- A queue whose agent found nothing. -/
def unserved (now : Instant) (q : SiteQueue) : SiteQueue :=
  { q with
    status := "jobagent-no-match"
    statusChangedAt := if q.status = "jobagent-no-match" then q.statusChangedAt else now }

/-- The queue of a request's computing element was changed, or was entered
as open and empty and changed then. -/
def ChangesQueue (request : Request) (now : Instant) (change : SiteQueue → SiteQueue)
    (s s' : Store) : Prop :=
  s'.queues = s.queues.insert request.ce (change ((s.queues.get? request.ce).getD
    { ce := request.ce, site := request.site, status := "open", blocked := false, assigned := 0
      waiting := 0, statusChangedAt := now }))

/-- One line was added to the traces. -/
def Traces (jobId : Int) (now : Instant) (message : String) (s s' : Store) : Prop :=
  s'.traces = s.traces ++ [⟨jobId, now, "state", message⟩]

/-- What an answer to a request leaves of the store. -/
def Leaves (request : Request) (now : Instant) (s s' : Store) :
    Except BrokerError Outcome → Prop
  | .error (.invalidRequest _) | .error (.directory _) => s' = s
  | .ok (.nothingToRun .queueBlocked) | .ok (.nothingToRun .claimConflict) => s' = s
  | .ok (.installPackages _ _) => s' = s
  | .ok (.nothingToRun .noCandidate) =>
      Store.SameBut .queues s s' ∧ ChangesQueue request now (unserved now) s s'
  | .ok (.assigned job) =>
      (∃ j a, j.id = job.jobId ∧
        Takes request now (!job.tier.isRemote) .assigned (j.resubmission + 1) j a s s') ∧
        Traces job.jobId now ("job assigned to " ++ request.ce) s s' ∧
        ChangesQueue request now (served request.site) s s'
  | .error (.credential jobId e) =>
      (∃ j a isLocal, j.id = jobId ∧
        Takes request now isLocal .errorA (j.resubmission + 1) j a s s') ∧
        Traces jobId now ("credential issuance failed: " ++ e.message) s s' ∧
        s'.queues = s.queues
  | .error (.store _) => False

/-- What a request from a computing element counts, it can count up or down
by one. -/
structure HasRoom (s : Store) (ce : String) : Prop where
  numbers : s.NumbersGoOn
  assigned : ∀ q, s.queues.get? ce = some q → FitsInt64 (q.assigned + 1)
  waiting : ∀ q, s.queues.get? ce = some q → FitsInt64 (q.waiting - 1)

section Leaves

variable {w : Surroundings} {now : Instant} {settings : BrokerSettings} {request : Request}
  {r : Resolved} {s s₁ s' : Store} {a : Aggregate} {tier : Tier} {number : Int}

/-! ## Claims -/

theorem takes_of_claimWaiting {job : ClaimedJob} (isLocal : Bool)
    (ha : s.aggregates.get? a.id = some a)
    (h : s.claimWaiting a.id request.target now = (some job, s₁)) :
    ∃ j, j.id = job.jobId ∧ (s.NumbersGoOn → job.resubmission = j.resubmission + 1) ∧
      (s.waitingIds a.id).head? = some j.id ∧
      Takes request now isLocal .assigned job.resubmission j a s
        (s₁.decrement a.id isLocal now) ∧
      (s₁.decrement a.id isLocal now).queues = s.queues ∧
      (s₁.decrement a.id isLocal now).traces = s.traces := by
  obtain ⟨j, rest, rfl, hj, hw, hwaiting, rfl⟩ := Store.claimWaiting_eq_some h
  have hmem : j.id ∈ s.waitingIds a.id := hwaiting ▸ List.mem_cons_self ..
  obtain ⟨k, hk, -, hof⟩ := Store.mem_waitingIds.mp hmem
  obtain rfl : j = k := Option.some.inj (hj.symm.trans hk)
  -- the claim leaves the aggregates alone, so the row is found
  rw [Store.decrement_of_get? (s := s.insertJob _) ha]
  exact ⟨j, rfl, fun hnumbers => wrapInt32_of_fits (hnumbers.fits hj hw),
    by rw [hwaiting, List.head?_cons],
    ⟨hw, hof, hj, ha, rfl, rfl, rfl, rfl⟩, rfl, rfl⟩

theorem Takes.giveUp {isLocal : Bool} {j : Job}
    (h : Takes request now isLocal .assigned number j a s s₁) :
    let s₂ := (s₁.updateStatus ⟨j.id, number, .errorA, .broker⟩ now).2
    Takes request now isLocal .errorA number j a s s₂ ∧ s₂.queues = s₁.queues ∧
      s₂.traces = s₁.traces := by
  intro s₂
  have hrow := (congrArg (·.get? j.id) h.jobs).trans Table.get?_insert
  rw [if_pos rfl] at hrow
  have hs₂ : s₂ = s₁.insertJob _ :=
    congrArg Prod.snd (Store.updateStatus_of_hit hrow (Job.isHandOut_iff.mpr ⟨rfl, rfl⟩))
  have hsame : Store.SameBut .jobs s₁ s₂ := hs₂ ▸ Store.sameBut_insertJob ..
  refine ⟨⟨h.waits, h.isOf, h.job, h.aggregate, ?jobs, ?aggregates, ?records, ?markers⟩,
    hsame.same .queues (by decide), hsame.same .traces (by decide)⟩
  case jobs =>
    rw [hs₂]
    change s₁.jobs.insert j.id _ = _
    rw [h.jobs, Table.insert_insert]
  case aggregates => exact (hsame.same .aggregates (by decide)).trans h.aggregates
  case records => exact (hsame.same .records (by decide)).trans h.records
  case markers => exact (hsame.same .markers (by decide)).trans h.markers

theorem ce_queueOr (s : Store) (ce site : String) (now : Instant) :
    (s.queueOr ce site now).ce = ce := by
  unfold Store.queueOr
  cases hq : s.queues.get? ce with
  | none => rfl
  | some q => exact s.queuesKeyed _ _ hq

/-- What is true of the queue that is there, and of one that counts nothing,
is true of the queue to be written. -/
theorem queueOr_of_forall {P : SiteQueue → Prop} {ce site : String}
    (h : ∀ q, s.queues.get? ce = some q → P q) (hnew : P (Store.newQueue ce site now)) :
    P (s.queueOr ce site now) := by
  unfold Store.queueOr
  cases hq : s.queues.get? ce with
  | none => exact hnew
  | some q => exact h q hq

theorem changesQueue_putQueue {change : SiteQueue → SiteQueue} {q : SiteQueue}
    (hqueues : s₁.queues = s.queues) (hq : q = change (s.queueOr request.ce request.site now))
    (hce : q.ce = request.ce) : ChangesQueue request now change s (s₁.putQueue q) := by
  change s₁.queues.insert q.ce q = _
  rw [hqueues, hce, hq]
  rfl

theorem changesQueue_adjustCounters (hcounts : ∀ q ∈ s.queues.values, 0 ≤ q.assigned)
    (hroom : HasRoom s request.ce) (hqueues : s₁.queues = s.queues) :
    ChangesQueue request now (served request.site) s
      (s₁.adjustCounters request.ce request.site 1 (-1) now) := by
  refine changesQueue_putQueue hqueues ?_ rfl
  have hsame : s₁.queueOr request.ce request.site now = s.queueOr request.ce request.site now := by
    rw [Store.queueOr, hqueues, Store.queueOr]
  have hce := ce_queueOr s request.ce request.site now
  have hpos : 0 ≤ (s.queueOr request.ce request.site now).assigned :=
    queueOr_of_forall (fun q hq => hcounts q (Table.mem_values.mpr ⟨_, hq⟩)) (le_refl _)
  have hassigned : FitsInt64 ((s.queueOr request.ce request.site now).assigned + 1) :=
    queueOr_of_forall hroom.assigned (by decide : FitsInt64 1)
  have hwaiting : FitsInt64 ((s.queueOr request.ce request.site now).waiting - 1) :=
    queueOr_of_forall hroom.waiting (by decide : FitsInt64 (-1))
  rw [hsame, served, wrapInt64_of_fits hassigned, max_eq_left (by omega), ← Int.sub_eq_add_neg,
    wrapInt64_of_fits hwaiting]
  simp only [hce]

theorem changesQueue_setQueueStatus :
    ChangesQueue request now (unserved now) s
      (s.setQueueStatus request.ce request.site noMatchStatus now) := by
  refine changesQueue_putQueue rfl ?_ (by split <;> rfl)
  have hce := ce_queueOr s request.ce request.site now
  generalize s.queueOr request.ce request.site now = q at hce
  rw [← hce, unserved]
  unfold noMatchStatus
  by_cases hsame : q.status = "jobagent-no-match"
  · rw [if_pos hsame, if_pos hsame, ← hsame]
  · rw [if_neg hsame, if_neg hsame]

theorem ClaimEnds.leaves {result : Except BrokerError Outcome}
    (hcounts : ∀ q ∈ s.queues.values, 0 ≤ q.assigned) (hroom : HasRoom s request.ce)
    (ha : a ∈ s.aggregates.values)
    (h : ClaimEnds w now settings request s a.id tier result s') :
    Leaves request now s s' result := by
  have hrow := s.aggregatesKeyed.mem_values.mp ha
  cases h with
  | lost => rfl
  | delivered hclaim =>
      obtain ⟨j, hid, hn, -, htakes, hqueues, htraces⟩ :=
        takes_of_claimWaiting (!tier.isRemote) hrow hclaim
      rw [hn hroom.numbers] at htakes
      refine ⟨⟨j, a, hid, { htakes with }⟩, ?traces,
        changesQueue_adjustCounters hcounts hroom hqueues⟩
      case traces => exact congrArg (· ++ _) htraces
  | undone hclaim =>
      obtain ⟨j, hid, hn, -, htakes, hqueues, htraces⟩ :=
        takes_of_claimWaiting (!tier.isRemote) hrow hclaim
      rw [hn hroom.numbers] at htakes ⊢
      rw [← hid]
      obtain ⟨hgivenUp, hqueues', htraces'⟩ := htakes.giveUp
      refine ⟨⟨j, a, _, rfl, { hgivenUp with }⟩, ?traces, hqueues'.trans hqueues⟩
      case traces => exact congrArg (· ++ _) (htraces'.trans htraces)

/-! ## Requests -/

theorem Tier.Ends.leaves {among : Aggregate → Prop} {claimTier fallbackTier : Tier}
    {result : Except BrokerError Outcome} (hcounts : ∀ q ∈ s.queues.values, 0 ≤ q.assigned)
    (hroom : HasRoom s r.request.ce) (hamong : ∀ a, among a → a ∈ s.aggregates.values)
    (h : Tier.Ends w now settings r s among claimTier fallbackTier (result.map some) s') :
    Leaves r.request now s s' result := by
  rcases h.settled with ⟨a, hfirst, hclaim⟩ | ⟨a, missing, -, -, -, rfl, rfl⟩
  · exact hclaim.leaves hcounts hroom (hamong a hfirst.mem.1)
  · rfl

/-- The answer to a request that runs alone says what it wrote, if there is
room for what it counts. -/
theorem request_writes_what_its_answer_says {result : Except BrokerError Outcome}
    (hcounts : ∀ q ∈ s.queues.values, 0 ≤ q.assigned) (hroom : HasRoom s request.ce)
    (h : (matchJob settings request).Yields (w.moment now) s result s') :
    Leaves request now s s' result := by
  cases matchJob_course h with
  | refused => rfl
  | blocked => rfl
  | unknownSite => rfl
  | searched _ _ _ hsearch =>
      cases hsearch with
      | here htier => exact htier.leaves hcounts hroom fun a ha => ha.1
      | elsewhere _ htier => exact htier.leaves hcounts hroom fun a ha => ha.2.1
      | nowhere => exact ⟨Store.sameBut_putQueue .., changesQueue_setQueueStatus⟩

/-- A waiting job, and a queue that knows of fewer waiting jobs. -/
def storeOfQueue : Store :=
  (storeOfOne 7 1).putQueue
    { ce := "ce", site := "old site", status := "jobagent-no-match", blocked := false, assigned := 3
      waiting := 0, statusChangedAt := ⟨0, false⟩ }

/-- The agent gets the job, and the queue counts it. -/
theorem request_writes_what_its_answer_says_of_queue :
    let answer := generousPartners.serve (matchJob {} agentRequest) storeOfQueue
    (∀ q ∈ storeOfQueue.queues.values, 0 ≤ q.assigned) ∧ HasRoom storeOfQueue agentRequest.ce ∧
      answer.1 = .ok (.assigned (firstHandOut 7 .full)) ∧
      Leaves agentRequest generousPartners.now storeOfQueue answer.2 answer.1 := by
  have hcounts : ∀ q ∈ storeOfQueue.queues.values, 0 ≤ q.assigned := by decide +kernel
  have hroom : HasRoom storeOfQueue agentRequest.ce :=
    ⟨by decide +kernel, fun _ hq => by cases hq; decide, fun _ hq => by cases hq; decide⟩
  exact ⟨hcounts, hroom, by decide +kernel,
    request_writes_what_its_answer_says hcounts hroom (Partners.yields_serve ..)⟩

/-- A job that was handed out as often as can be counted is handed out once
more, and the answer has the least number.  A queue that counted as many
hand-outs as it can counts none after one more. -/
theorem full_counts_start_over :
    let last := generousPartners.serve (matchJob {} agentRequest) (storeOfLast 7 1)
    let full := (storeOfOne 7 1).putQueue
      { Store.newQueue "ce" "site" ⟨0, false⟩ with assigned := 0x8000000000000000 - 1 }
    let more := generousPartners.serve (matchJob {} agentRequest) full
    ((∀ q ∈ (storeOfLast 7 1).queues.values, 0 ≤ q.assigned) ∧
      last.1 = .ok (.assigned { firstHandOut 7 .full with resubmission := -0x80000000 }) ∧
      ¬ Leaves agentRequest generousPartners.now (storeOfLast 7 1) last.2 last.1) ∧
    (∀ q ∈ full.queues.values, 0 ≤ q.assigned) ∧
      more.1 = .ok (.assigned (firstHandOut 7 .full)) ∧
      (more.2.queues.get? "ce").map (·.assigned) = some 0 ∧
      ¬ Leaves agentRequest generousPartners.now full more.2 more.1 := by
  intro last full more
  have hlast : last.1 =
      .ok (.assigned { firstHandOut 7 .full with resubmission := -0x80000000 }) := by
    decide +kernel
  have hmore : more.1 = .ok (.assigned (firstHandOut 7 .full)) := by decide +kernel
  have hcount : (more.2.queues.get? "ce").map (·.assigned) = some 0 := by decide +kernel
  refine ⟨⟨by decide +kernel, hlast, fun h => ?_⟩, by decide +kernel, hmore, hcount, fun h => ?_⟩
  · rw [hlast] at h
    obtain ⟨⟨j, a, hid, htakes⟩, -⟩ := h
    have hid : j.id = 7 := hid
    have hjob := hid ▸ htakes.job
    have hjobs := hid ▸ htakes.jobs
    have hbefore : ((storeOfLast 7 1).jobs.get? 7).map (·.resubmission) =
        some (0x80000000 - 1) := rfl
    have hafter : (last.2.jobs.get? 7).map (·.resubmission) = some (-0x80000000) := by
      decide +kernel
    rw [hjob] at hbefore
    rw [hjobs, Table.get?_insert, if_pos rfl] at hafter
    have hnumber : j.resubmission = 0x80000000 - 1 := Option.some.inj hbefore
    have hnumber' : j.resubmission + 1 = -0x80000000 := Option.some.inj hafter
    omega
  · rw [hmore] at h
    have hqueues : more.2.queues = _ := h.2.2
    rw [hqueues, show agentRequest.ce = "ce" from rfl, Table.get?_insert, if_pos rfl] at hcount
    exact absurd (Option.some.inj hcount) (by decide +kernel)

end Leaves

end GridQueue.Matching
