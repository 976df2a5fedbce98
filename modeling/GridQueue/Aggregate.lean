/-
# `GridQueue.Aggregate` — groups of waiting jobs

Waiting jobs that may run at the same places under the same conditions
are one aggregate, and matching looks at aggregates instead of jobs.  An
empty list of sites, elements or partitions leaves the choice open; an
exclusion wins over a listing.

    sites        none, or that of the agent, or one of its further sites
    elements     none, or that of the agent; and it is not excluded
    partitions   none, or one that is open to the agent; and none of these
                 is excluded

Agents of other sites are not asked for any of it, but they have to wait
until no agent of a site came for the whole timeout.
-/
import GridQueue.Time.Instant

namespace GridQueue

/-- A group of waiting jobs with the same requirements. -/
structure Aggregate where
  id : Int
  /-- How many waiting jobs the group still stands for. -/
  counter : Int
  /-- The owner of every job in the group. -/
  user : String
  sites : List String
  ces : List String
  excludedCes : List String
  /-- What must be installed on the worker node. -/
  packages : List String
  partitions : List String
  excludedPartitions : List String
  /-- Seconds an agent must still be able to run. -/
  ttl : Int
  /-- Scratch disk in kilobytes. -/
  disk : Int
  priority : Float
  price : Float
  /-- The oldest waiting job. -/
  oldestJob : Int
  /-- Whether agents at other sites may take the jobs. -/
  remoteAllowed : Bool
  /-- Seconds to wait for a local agent before a remote one may come; the
  broker's setting if absent. -/
  remoteTimeout : Option Int
  /-- When a local agent last took a job of the group, or its creation. -/
  idleSince : Instant

namespace Aggregate

/-- The agent's site or one of its further sites will do. -/
def acceptsSite (a : Aggregate) (site : String) (extraSites : List String) : Bool :=
  a.sites.isEmpty || a.sites.any fun s => s == site || extraSites.contains s

def acceptsCe (a : Aggregate) (ce : String) : Bool :=
  (a.ces.isEmpty || a.ces.contains ce) && !a.excludedCes.contains ce

def acceptsPartitions (a : Aggregate) (partitions : List String) : Bool :=
  (a.partitions.isEmpty || partitions.any a.partitions.contains)
    && !partitions.any a.excludedPartitions.contains

/-- No local agent came for the whole timeout, in whole seconds. -/
def idleLongEnough (a : Aggregate) (now : Instant) (defaultTimeout : Int) : Bool :=
  decide (a.remoteTimeout.getD defaultTimeout ≤ (now.since a.idleSince).tdiv 1000000000)

end Aggregate

end GridQueue
