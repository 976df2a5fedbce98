/-
# `GridQueue.Matching.Broker` — handing out jobs

A request is served in these steps, each of which may end it:

    a request with a flaw is refused
    a blocked queue gets nothing
    local work that needs no more packages is claimed
    local work that needs more packages is answered by their list
    remote work likewise, if the agent takes any
    otherwise the queue is marked as having found nothing

A claim counts the aggregate down, asks for the token of the hand-out and
then belongs to the agent.  Without a token the job goes to `ERROR_A` and
whatever was issued is revoked.  The broker keeps no state: the claim of
the store alone keeps two requests from getting one job.
-/
import GridQueue.Matching.Outcome
import GridQueue.Matching.Request
import GridQueue.Service.Call
import GridQueue.Settings

namespace GridQueue.Matching

/-- A program that may fail as a match may. -/
abbrev Attempt := ExceptT BrokerError Action

/-- The status of a queue whose request found nothing at any tier. -/
def noMatchStatus : String := "jobagent-no-match"

def traceTag : String := "state"

/-- Calls the store; its errors end the match. -/
def ask (c : StoreCall) : Attempt c.Value :=
  ExceptT.mk do
    match ← Action.store c with
    | .ok v => return .ok v
    | .error e => return .error (.store e)

/-- Asks the site directory; its errors end the match. -/
def askSite (ce site : String) : Attempt Site.Requirements :=
  ExceptT.mk do
    match ← Action.lookup ce site with
    | .ok r => return .ok r
    | .error e => return .error (.directory e)

/-! ## Claims -/

/-- Takes a claim back that has no token. -/
def rollBack (claimed : ClaimedJob) (request : TokenRequest) (e : CredentialError) :
    Action Unit := do
  Action.attempt (.updateStatus ⟨claimed.jobId, claimed.resubmission, .errorA, .broker⟩)
  let _ ← Action.revoke request
  Action.attempt
    (.appendTrace claimed.jobId traceTag ("credential issuance failed: " ++ e.message))

/-- Records a hand-out in the job's trace and the queue's counters. -/
def recordAssignment (claimed : ClaimedJob) (target : ClaimTarget) : Action Unit := do
  Action.attempt (.appendTrace claimed.jobId traceTag ("job assigned to " ++ target.ce))
  Action.attempt (.adjustCounters target.ce target.site 1 (-1))

/-- Gets the token of a claimed job and hands the job out. -/
def handOut (settings : BrokerSettings) (claimed : ClaimedJob) (target : ClaimTarget)
    (tier : Tier) : Attempt Outcome :=
  let request := TokenRequest.forJob settings.principal claimed.owner.user claimed.jobId
    claimed.resubmission settings.tokenValidity
  ExceptT.mk do
    match ← Action.issue request with
    | .ok token =>
        recordAssignment claimed target
        return .ok (.assigned
          { jobId := claimed.jobId
            resubmission := claimed.resubmission
            jdl := claimed.jdl
            owner := claimed.owner
            token
            tier })
    | .error e =>
        Action.note .credentialFailure
        rollBack claimed request e
        return .error (.credential claimed.jobId e)

/-- Claims a job of an aggregate and hands it out. -/
def claim (settings : BrokerSettings) (r : Resolved) (aggregateId : Int) (tier : Tier) :
    Attempt Outcome := do
  let target : ClaimTarget := ⟨r.request.site, r.request.ce, r.request.host⟩
  match ← ask (.claimWaiting aggregateId target) with
  | none =>
      ExceptT.lift (Action.note .claimConflict)
      return .nothingToRun .claimConflict
  | some claimed =>
      ExceptT.lift (Action.attempt (.decrement aggregateId (!tier.isRemote)))
      handOut settings claimed target tier

/-! ## Tiers -/

/-- Looks for work that is open but for its packages, and answers with
the ones that are missing. -/
def tryFallback (settings : BrokerSettings) (r : Resolved)
    (filterOf : PackageCheck → Filter) (claimTier fallbackTier : Tier) :
    Attempt (Option Outcome) := do
  match ← ask (.findWaiting (filterOf .ignore)) with
  | none => return none
  | some a =>
      match r.inventory.missing a.packages with
      | [] => return some (← claim settings r a.id claimTier)
      | missing => return some (.installPackages missing fallbackTier)

/-- A tier that claims, followed by the one that asks for packages. -/
def tryTier (settings : BrokerSettings) (r : Resolved) (filterOf : PackageCheck → Filter)
    (claimTier fallbackTier : Tier) : Attempt (Option Outcome) := do
  match ← ask (.findWaiting (filterOf r.inventory.check)) with
  | some a => return some (← claim settings r a.id claimTier)
  | none =>
      if r.inventory.constrains then
        tryFallback settings r filterOf claimTier fallbackTier
      else return none

/-- The remote tiers, if the agent takes remote work. -/
def tryRemote (settings : BrokerSettings) (r : Resolved) : Attempt (Option Outcome) := do
  if r.request.acceptsRemote then
    let now ← ExceptT.lift Action.now
    tryTier settings r (fun packages => r.remoteFilter packages now settings.remoteTimeout)
      .remote .remotePackageFallback
  else return none

def searchTiers (settings : BrokerSettings) (r : Resolved) : Attempt Outcome := do
  match ← tryTier settings r r.localFilter .full .packageFallback with
  | some outcome => return outcome
  | none =>
      match ← tryRemote settings r with
      | some outcome => return outcome
      | none =>
          ask (.setQueueStatus r.request.ce r.request.site noMatchStatus)
          return .nothingToRun .noCandidate

/-! ## Requests -/

def findWork (settings : BrokerSettings) (request : Request) : Attempt Outcome :=
  match request.flaw? with
  | some flaw => throw (.invalidRequest flaw.message)
  | none => do
      let queue ← ask (.siteQueue request.ce)
      if queue.any (·.blocked) then return .nothingToRun .queueBlocked
      else
        let requirements ← askSite request.ce request.site
        searchTiers settings (.of request requirements)

/-- How the answer to a request is labelled when it is counted. -/
def resultLabels : Except BrokerError Outcome → String × String
  | .ok outcome => (outcome.label, (outcome.tier?.map Tier.name).getD "none")
  | .error _ => ("error", "none")

def matchJob (settings : BrokerSettings) (request : Request) :
    Action (Except BrokerError Outcome) := do
  let started ← Action.stopwatch
  let result ← (findWork settings request).run
  let ended ← Action.stopwatch
  let labels := resultLabels result
  Action.note (.matchEnded labels.1 labels.2 (Span.between started ended).inSeconds)
  return result

end GridQueue.Matching
