/-
# `GridQueue.Matching.Filter` — which aggregates an agent can serve

A filter collects what one request, at one tier, asks of an aggregate.
Absent parts do not constrain, so the filters of the later tiers are those
of the earlier ones with parts left out.  Whatever the tier, the aggregate
must have jobs left, and the agent enough time and disk for them.
-/
import GridQueue.Aggregate
import GridQueue.NameSet

namespace GridQueue.Matching

/-- How required packages are checked. -/
inductive PackageCheck
  /-- they are no constraint -/
  | ignore
  /-- each must be in the set -/
  | installed (packages : NameSet)

def PackageCheck.isChecked : PackageCheck → Bool
  | ignore => false
  | installed _ => true

def PackageCheck.accepts (c : PackageCheck) (required : List String) : Bool :=
  match c with
  | ignore => true
  | installed packages => required.all packages.has

/-- The aggregate must allow remote agents and have waited long enough. -/
structure Remote where
  now : Instant
  /-- Seconds to wait where the aggregate does not say. -/
  defaultTimeout : Int

/-- The constraints of a look-up. -/
structure Filter where
  ce : Option String := none
  site : Option String := none
  extraSites : List String := []
  /-- The partitions the site has; no constraint if absent. -/
  partitions : Option (List String) := none
  /-- The users the site accepts, all if there are none. -/
  allowedUsers : List String := []
  deniedUsers : List String := []
  /-- Seconds the agent can still run. -/
  ttl : Int
  /-- Scratch disk the agent offers, in kilobytes. -/
  disk : Int
  packages : PackageCheck := .ignore
  remote : Option Remote := none

namespace Filter

def acceptsUser (f : Filter) (user : String) : Bool :=
  (f.allowedUsers.isEmpty || f.allowedUsers.contains user)
    && !f.deniedUsers.contains user

/-- Whether an aggregate meets every constraint. -/
def accepts (f : Filter) (a : Aggregate) : Bool :=
  decide (0 < a.counter) && decide (a.ttl ≤ f.ttl) && decide (a.disk ≤ f.disk)
    && f.ce.all a.acceptsCe
    && f.site.all (fun site => a.acceptsSite site f.extraSites)
    && f.partitions.all a.acceptsPartitions
    && f.acceptsUser a.user
    && f.packages.accepts a.packages
    && f.remote.all (fun r => a.remoteAllowed && a.idleLongEnough r.now r.defaultTimeout)

end Filter

end GridQueue.Matching
