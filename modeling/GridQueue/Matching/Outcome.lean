/-
# `GridQueue.Matching.Outcome` — how a match ends

A match walks through the tiers

    full ──▸ packageFallback ──▸ remote ──▸ remotePackageFallback

and ends in a job, in a list of packages to install, or in nothing to run.
The first and the third hand out jobs; the second and the fourth only say
what packages a job would need.  To find nothing is no error: the agent is
told a code and a reason, and asks again later.
-/
import GridQueue.Credential
import GridQueue.Job.Basic

namespace GridQueue.Matching

/-- How far the requirements of a request were relaxed. -/
inductive Tier
  | full
  | packageFallback
  | remote
  | remotePackageFallback
  deriving DecidableEq

namespace Tier

def all : List Tier := [full, packageFallback, remote, remotePackageFallback]

def name : Tier → String
  | full => "full"
  | packageFallback => "package_fallback"
  | remote => "remote"
  | remotePackageFallback => "remote_package_fallback"

def ofName? (name : String) : Option Tier := all.find? fun t => t.name == name

/-- The agent is at another site than the work asks for. -/
def isRemote : Tier → Bool
  | remote | remotePackageFallback => true
  | full | packageFallback => false

end Tier

/-- Why nothing was handed out. -/
inductive Reason
  /-- no tier found anything -/
  | noCandidate
  /-- someone else claimed the last job of what was found -/
  | claimConflict
  /-- the queue of the computing element is blocked -/
  | queueBlocked
  deriving DecidableEq

namespace Reason

def all : List Reason := [noCandidate, claimConflict, queueBlocked]

def name : Reason → String
  | noCandidate => "no_candidate"
  | claimConflict => "claim_conflict"
  | queueBlocked => "queue_blocked"

def ofName? (name : String) : Option Reason := all.find? fun r => r.name == name

end Reason

/-- A job that is handed to an agent. -/
structure AssignedJob where
  jobId : Int
  /-- The number the agent repeats in its reports. -/
  resubmission : Int
  jdl : String
  owner : Owner
  token : Token
  tier : Tier
  deriving DecidableEq

/-- How a match ended. -/
inductive Outcome
  | assigned (job : AssignedJob)
  /-- there is work for an agent that has these packages -/
  | installPackages (packages : List String) (tier : Tier)
  | nothingToRun (reason : Reason)
  deriving DecidableEq

namespace Outcome

def code : Outcome → Int
  | assigned _ => 1
  | nothingToRun _ => -2
  | installPackages _ _ => -3

def message : Outcome → String
  | assigned job => "Job " ++ toString job.jobId ++ " assigned"
  | installPackages packages _ =>
      "Packages required: " ++ String.intercalate "," packages
  | nothingToRun .queueBlocked => "Queue is blocked"
  | nothingToRun .noCandidate | nothingToRun .claimConflict => "Nothing to run"

def tier? : Outcome → Option Tier
  | assigned job => some job.tier
  | installPackages _ tier => some tier
  | nothingToRun _ => none

/-- The kind of an outcome, in counts and on the wire. -/
def label : Outcome → String
  | assigned _ => "assigned"
  | installPackages _ _ => "install_packages"
  | nothingToRun _ => "nothing_to_run"

def isAssigned : Outcome → Bool
  | assigned _ => true
  | installPackages _ _ | nothingToRun _ => false

end Outcome

end GridQueue.Matching
