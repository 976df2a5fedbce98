/-
# `GridQueue.Proofs.Matching.Stage` — where a request for work stands

A request for work is in one of these stages, and each call moves it:

    arriving    nothing was looked up yet           queue, directory
    resolved    the directory answered              strict local look-up
    wanting     that look-up found nothing          further look-ups
    chosen      a job is to be claimed              claim
    holding     claimed                             decrement
    counted     the claim was counted               token
    issued      there is a token                    trace
    traced      the hand-out is in the trace        counters
    refused     there is no token                   job to `ERROR_A`
    withdrawn   that was tried                      revocation
    revoked     that was tried                      trace

and ends in one of `failed`, `install`, `nothing` (no claim), `delivered`
(a claim that is the agent's) and `undone` (a claim that was taken back).
`matchJob_follows` says that the program makes no other call.  The clocks
are read and events noted at any stage.
-/
import GridQueue.Matching.Broker
import GridQueue.Proofs.Interleaving

namespace GridQueue.Matching

/-- What is written to a job that is claimed for a request. -/
def Request.target (r : Request) : ClaimTarget := ⟨r.site, r.ce, r.host⟩

/-- The request for the token of a claimed job. -/
def tokenRequest (settings : BrokerSettings) (job : ClaimedJob) : TokenRequest :=
  .forJob settings.principal job.owner.user job.jobId job.resubmission settings.tokenValidity

/-- A claimed job as it is handed to the agent. -/
def AssignedJob.ofClaim (job : ClaimedJob) (token : Token) (tier : Tier) : AssignedJob :=
  { jobId := job.jobId
    resubmission := job.resubmission
    jdl := job.jdl
    owner := job.owner
    token
    tier }

/-- Where a request for work stands. -/
inductive Stage
  | arriving
  | resolved (r : Resolved)
  | wanting (r : Resolved)
  | chosen (aggregateId : Int) (tier : Tier)
  | holding (aggregateId : Int) (tier : Tier) (job : ClaimedJob)
  | counted (tier : Tier) (job : ClaimedJob)
  | issued (tier : Tier) (job : ClaimedJob) (token : Token)
  | traced (tier : Tier) (job : ClaimedJob) (token : Token)
  | refused (job : ClaimedJob) (e : CredentialError)
  | withdrawn (job : ClaimedJob) (e : CredentialError)
  | revoked (job : ClaimedJob) (e : CredentialError)
  | failed (e : BrokerError)
  | install (packages : List String) (tier : Tier)
  | nothing (reason : Reason)
  | delivered (tier : Tier) (job : ClaimedJob) (token : Token)
  | undone (job : ClaimedJob) (e : CredentialError)

namespace Stage

/-- The stage of a request that came in. -/
def first (request : Request) : Stage :=
  match request.flaw? with
  | some flaw => failed (.invalidRequest flaw.message)
  | none => arriving

/-- The answer to the request, once it is settled. -/
def result? : Stage → Option (Except BrokerError Outcome)
  | failed e => some (.error e)
  | install packages tier => some (.ok (.installPackages packages tier))
  | nothing reason => some (.ok (.nothingToRun reason))
  | delivered tier job token => some (.ok (.assigned (.ofClaim job token tier)))
  | undone job e => some (.error (.credential job.jobId e))
  | arriving | resolved _ | wanting _ | chosen _ _ | holding _ _ _ | counted _ _ | issued _ _ _
  | traced _ _ _ | refused _ _ | withdrawn _ _ | revoked _ _ => none

/-- The job that was claimed, whatever became of the claim. -/
def claimed? : Stage → Option ClaimedJob
  | holding _ _ job | counted _ job | issued _ job _ | traced _ job _ | refused job _
  | withdrawn job _ | revoked job _ | delivered _ job _ | undone job _ => some job
  | arriving | resolved _ | wanting _ | chosen _ _ | failed _ | install _ _ | nothing _ => none

/-- The calls of a request, and how the answers move it. -/
inductive Moves (settings : BrokerSettings) (request : Request) :
    Stage → (c : Call) → c.Answer → Stage → Prop
  | stopwatch {m t} : Moves settings request m .stopwatch t m
  | now {m t} : Moves settings request m .now t m
  | note {m event u} : Moves settings request m (.note event) u m
  | queueError {e} :
      Moves settings request arriving (.store (.siteQueue request.ce)) (.error e)
        (failed (.store e))
  | blocked {q : Option SiteQueue} : q.any (·.blocked) = true →
      Moves settings request arriving (.store (.siteQueue request.ce)) (.ok q)
        (nothing .queueBlocked)
  | open {q : Option SiteQueue} : q.any (·.blocked) = false →
      Moves settings request arriving (.store (.siteQueue request.ce)) (.ok q) arriving
  | siteError {e} :
      Moves settings request arriving (.lookup request.ce request.site) (.error e)
        (failed (.directory e))
  | site {requirements} :
      Moves settings request arriving (.lookup request.ce request.site) (.ok requirements)
        (resolved (.of request requirements))
  | firstError {r : Resolved} {e} :
      Moves settings request (resolved r)
        (.store (.findWaiting (r.localFilter r.inventory.check))) (.error e) (failed (.store e))
  | firstFound {r : Resolved} {a : Aggregate} :
      Moves settings request (resolved r)
        (.store (.findWaiting (r.localFilter r.inventory.check))) (.ok (some a))
        (chosen a.id .full)
  | firstMissed {r : Resolved} :
      Moves settings request (resolved r)
        (.store (.findWaiting (r.localFilter r.inventory.check))) (.ok none) (wanting r)
  | laterError {r f e} :
      Moves settings request (wanting r) (.store (.findWaiting f)) (.error e) (failed (.store e))
  | laterFound {r f} {a : Aggregate} {tier} :
      Moves settings request (wanting r) (.store (.findWaiting f)) (.ok (some a))
        (chosen a.id tier)
  | laterMissed {r f} :
      Moves settings request (wanting r) (.store (.findWaiting f)) (.ok none) (wanting r)
  | lacking {r f} {a : Aggregate} {packages tier} :
      Moves settings request (wanting r) (.store (.findWaiting f)) (.ok (some a))
        (install packages tier)
  | noCandidate {r u} :
      Moves settings request (wanting r)
        (.store (.setQueueStatus request.ce request.site noMatchStatus)) (.ok u)
        (nothing .noCandidate)
  | noMatchError {r e} :
      Moves settings request (wanting r)
        (.store (.setQueueStatus request.ce request.site noMatchStatus)) (.error e)
        (failed (.store e))
  | claimError {aggregateId tier e} :
      Moves settings request (chosen aggregateId tier)
        (.store (.claimWaiting aggregateId request.target)) (.error e) (failed (.store e))
  | lost {aggregateId tier} :
      Moves settings request (chosen aggregateId tier)
        (.store (.claimWaiting aggregateId request.target)) (.ok none) (nothing .claimConflict)
  | won {aggregateId tier job} :
      Moves settings request (chosen aggregateId tier)
        (.store (.claimWaiting aggregateId request.target)) (.ok (some job))
        (holding aggregateId tier job)
  | count {aggregateId} {tier : Tier} {job a} :
      Moves settings request (holding aggregateId tier job)
        (.store (.decrement aggregateId (!tier.isRemote))) a (counted tier job)
  | issue {tier job token} :
      Moves settings request (counted tier job) (.issue (tokenRequest settings job)) (.ok token)
        (issued tier job token)
  | refuse {tier job e} :
      Moves settings request (counted tier job) (.issue (tokenRequest settings job)) (.error e)
        (refused job e)
  | trace {tier job token message a} :
      Moves settings request (issued tier job token)
        (.store (.appendTrace job.jobId traceTag message)) a (traced tier job token)
  | adjust {tier job token a} :
      Moves settings request (traced tier job token)
        (.store (.adjustCounters request.ce request.site 1 (-1))) a (delivered tier job token)
  | withdraw {job e a} :
      Moves settings request (refused job e)
        (.store (.updateStatus ⟨job.jobId, job.resubmission, .errorA, .broker⟩)) a
        (withdrawn job e)
  | revoke {job e a} :
      Moves settings request (withdrawn job e) (.revoke (tokenRequest settings job)) a
        (revoked job e)
  | traceRefusal {job e message a} :
      Moves settings request (revoked job e)
        (.store (.appendTrace job.jobId traceTag message)) a (undone job e)

end Stage

/-! ## The program follows the stages -/

section Follows

open Program

variable {settings : BrokerSettings} {request : Request} {α β : Type}

/-- Every path of a program is one of the stages. -/
abbrev Keeps (settings : BrokerSettings) (request : Request) (p : Action α)
    (ends : Stage → α → Prop) (m : Stage) : Prop :=
  p.Follows (Stage.Moves settings request) ends m

/-- The same for a program that may fail. -/
abbrev Tries (settings : BrokerSettings) (request : Request) (p : Attempt α)
    (ends : Stage → Except BrokerError α → Prop) (m : Stage) : Prop :=
  Keeps settings request p.run ends m

/-- A stage in which the request is settled with this answer. -/
def Settles (m : Stage) (r : Except BrokerError Outcome) : Prop := m.result? = some r

theorem keeps_bind {p : Action α} {f : α → Action β} {ends : Stage → β → Prop} {m : Stage} :
    Keeps settings request (p >>= f) ends m ↔
      Keeps settings request p (fun m a => Keeps settings request (f a) ends m) m :=
  follows_bind

/-- What comes after an attempt runs if it succeeded; an error ends all. -/
theorem tries_bind {p : Attempt α} {f : α → Attempt β} {ends : Stage → Except BrokerError β → Prop}
    {m : Stage} :
    Tries settings request (p >>= f) ends m ↔
      Tries settings request p (fun m r =>
        match r with
        | .ok a => Tries settings request (f a) ends m
        | .error e => ends m (.error e)) m := by
  rw [Tries, ExceptT.run_bind, keeps_bind]
  constructor <;> refine fun h => h.mono fun m r hr => ?_
  · cases r <;> exact hr
  · cases r <;> exact hr

theorem attempt_keeps {c : StoreCall} {ends : Stage → Unit → Prop} {m m' : Stage}
    (hmove : ∀ a, Stage.Moves settings request m (.store c) a m') (h : ends m' ()) :
    Keeps settings request (Action.attempt c) ends m := fun a => ⟨m', hmove a, h⟩

theorem ask_tries {c : StoreCall} {ends : Stage → Except BrokerError c.Value → Prop} {m : Stage}
    (hok : ∀ v, ∃ m', Stage.Moves settings request m (.store c) (.ok v) m' ∧ ends m' (.ok v))
    (herror : ∀ e, ∃ m', Stage.Moves settings request m (.store c) (.error e) m' ∧
      ends m' (.error (.store e))) :
    Tries settings request (ask c) ends m := by
  intro a
  cases a with
  | ok v => exact hok v
  | error e => exact herror e

theorem rollBack_keeps {job : ClaimedJob} {e : CredentialError} {ends : Stage → Unit → Prop}
    (h : ends (.undone job e) ()) :
    Keeps settings request (rollBack job (tokenRequest settings job) e) ends
      (.refused job e) := by
  refine keeps_bind.mpr (attempt_keeps (fun _ => .withdraw) ?_)
  refine keeps_bind.mpr fun _ => ⟨_, .revoke, ?_⟩
  exact attempt_keeps (fun _ => .traceRefusal) h

theorem recordAssignment_keeps {tier : Tier} {job : ClaimedJob} {token : Token}
    {ends : Stage → Unit → Prop} (h : ends (.delivered tier job token) ()) :
    Keeps settings request (recordAssignment job request.target) ends
      (.issued tier job token) :=
  keeps_bind.mpr (attempt_keeps (fun _ => .trace) (attempt_keeps (fun _ => .adjust) h))

theorem handOut_tries {tier : Tier} {job : ClaimedJob} :
    Tries settings request (handOut settings job request.target tier) Settles
      (.counted tier job) := by
  refine keeps_bind.mpr ?_
  intro answer
  cases answer with
  | ok token =>
      exact ⟨_, .issue, keeps_bind.mpr (recordAssignment_keeps rfl)⟩
  | error e =>
      refine ⟨_, .refuse, keeps_bind.mpr fun _ => ⟨_, .note, ?_⟩⟩
      exact keeps_bind.mpr (rollBack_keeps rfl)

theorem claim_tries {r : Resolved} (hr : r.request = request) {aggregateId : Int} {tier : Tier} :
    Tries settings request (claim settings r aggregateId tier) Settles
      (.chosen aggregateId tier) := by
  subst hr
  refine tries_bind.mpr (ask_tries ?_ fun e => ⟨_, .claimError, rfl⟩)
  intro v
  cases v with
  | none => exact ⟨_, .lost, fun _ => ⟨_, .note, rfl⟩⟩
  | some job =>
      refine ⟨_, .won, tries_bind.mpr ?_⟩
      exact fun _ => ⟨_, .count, handOut_tries⟩

/-- A tier settles the request, or leaves it as one that still wants. -/
def TierEnds (r : Resolved) (m : Stage) : Except BrokerError (Option Outcome) → Prop
  | .ok (some outcome) => Settles m (.ok outcome)
  | .ok none => m = .wanting r
  | .error e => Settles m (.error e)

theorem claim_ends_tier {r : Resolved} (hr : r.request = request) {aggregateId : Int}
    {tier : Tier} :
    Tries settings request (do return some (← claim settings r aggregateId tier)) (TierEnds r)
      (.chosen aggregateId tier) := by
  refine tries_bind.mpr ((claim_tries hr).mono ?_)
  intro m result h
  cases result with
  | ok outcome => exact h
  | error e => exact h

theorem tryFallback_tries {r : Resolved} (hr : r.request = request)
    {filterOf : PackageCheck → Filter} {claimTier fallbackTier : Tier} :
    Tries settings request (tryFallback settings r filterOf claimTier fallbackTier) (TierEnds r)
      (.wanting r) := by
  refine tries_bind.mpr (ask_tries ?_ fun e => ⟨_, .laterError, rfl⟩)
  intro v
  cases v with
  | none => exact ⟨_, .laterMissed, rfl⟩
  | some a =>
      dsimp only
      split
      · exact ⟨_, .laterFound, claim_ends_tier hr⟩
      · exact ⟨_, .lacking, rfl⟩

theorem fallback_tries {r : Resolved} (hr : r.request = request)
    {filterOf : PackageCheck → Filter} {claimTier fallbackTier : Tier} :
    Tries settings request
      (if r.inventory.constrains then tryFallback settings r filterOf claimTier fallbackTier
        else return none) (TierEnds r) (.wanting r) := by
  split
  · exact tryFallback_tries hr
  · exact rfl

theorem tryLocal_tries {r : Resolved} (hr : r.request = request) :
    Tries settings request (tryTier settings r r.localFilter .full .packageFallback) (TierEnds r)
      (.resolved r) := by
  refine tries_bind.mpr (ask_tries ?_ fun e => ⟨_, .firstError, rfl⟩)
  intro v
  cases v with
  | some a => exact ⟨_, .firstFound, claim_ends_tier hr⟩
  | none => exact ⟨_, .firstMissed, fallback_tries hr⟩

theorem tryRemote_tries {r : Resolved} (hr : r.request = request) :
    Tries settings request (tryRemote settings r) (TierEnds r) (.wanting r) := by
  unfold tryRemote
  split
  · refine tries_bind.mpr fun now => ⟨_, .now, ?_⟩
    refine tries_bind.mpr (ask_tries ?_ fun e => ⟨_, .laterError, rfl⟩)
    intro v
    cases v with
    | some a => exact ⟨_, .laterFound, claim_ends_tier hr⟩
    | none => exact ⟨_, .laterMissed, fallback_tries hr⟩
  · exact rfl

theorem searchTiers_tries {r : Resolved} (hr : r.request = request) :
    Tries settings request (searchTiers settings r) Settles (.resolved r) := by
  refine tries_bind.mpr ((tryLocal_tries hr).mono ?_)
  intro m result h
  match result, h with
  | .error e, h => exact h
  | .ok (some outcome), h => exact h
  | .ok none, h =>
      cases h
      refine tries_bind.mpr ((tryRemote_tries hr).mono ?_)
      intro m result h
      match result, h with
      | .error e, h => exact h
      | .ok (some outcome), h => exact h
      | .ok none, h =>
          cases h
          subst hr
          exact tries_bind.mpr
            (ask_tries (fun _ => ⟨_, .noCandidate, rfl⟩) fun e => ⟨_, .noMatchError, rfl⟩)

theorem askSite_tries {ends : Stage → Except BrokerError Site.Requirements → Prop}
    (hok : ∀ requirements, ends (.resolved (.of request requirements)) (.ok requirements))
    (herror : ∀ e, ends (.failed (.directory e)) (.error (.directory e))) :
    Tries settings request (askSite request.ce request.site) ends .arriving := by
  intro answer
  cases answer with
  | ok requirements => exact ⟨_, .site, hok requirements⟩
  | error e => exact ⟨_, .siteError, herror e⟩

theorem findWork_tries :
    Tries settings request (findWork settings request) Settles (.first request) := by
  unfold findWork Stage.first
  cases request.flaw? with
  | some flaw => exact rfl
  | none =>
    refine tries_bind.mpr (ask_tries ?_ fun e => ⟨_, .queueError, rfl⟩)
    intro queue
    cases hq : queue.any (·.blocked) with
    | true => exact ⟨_, .blocked hq, by simp only [hq, if_true]; exact rfl⟩
    | false =>
        refine ⟨_, .open hq, ?_⟩
        simp only [hq, Bool.false_eq_true, if_false]
        exact tries_bind.mpr (askSite_tries (fun _ => searchTiers_tries rfl) fun _ => rfl)

/-- A request for work goes through the stages and returns the answer it
is settled with. -/
theorem matchJob_follows :
    (matchJob settings request).Follows (Stage.Moves settings request) Settles
      (.first request) := by
  refine keeps_bind.mpr fun _ => ⟨_, .stopwatch, ?_⟩
  refine keeps_bind.mpr (findWork_tries.mono ?_)
  intro m result h
  exact keeps_bind.mpr fun _ => ⟨_, .stopwatch, fun _ => ⟨_, .note, h⟩⟩

end Follows

end GridQueue.Matching
