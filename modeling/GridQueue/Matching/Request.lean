/-
# `GridQueue.Matching.Request` — what an agent asks for

A request names the computing element, the site and the host it comes
from and what the agent offers.  The site directory may add requirements
of the site, and what it says about partitions goes before what the agent
says.
-/
import GridQueue.Package
import GridQueue.Site

namespace GridQueue.Matching

/-- What an agent reports when it asks for work. -/
structure Request where
  ce : String
  site : String
  host : String
  /-- Further sites whose jobs the agent may run. -/
  extraSites : List String := []
  /-- Seconds the agent can still run. -/
  ttl : Int
  /-- Scratch disk offered, in kilobytes. -/
  disk : Int := 0
  partition : Option String := none
  /-- The report of installed packages. -/
  installedPackages : Option String := none
  /-- Packages come from a shared file system. -/
  packagesOutOfBand : Bool := false
  /-- The agent takes jobs of other sites as a last resort. -/
  acceptsRemote : Bool := true
  deriving DecidableEq

/-- Why a request is refused. -/
inductive Request.Flaw
  | emptyCe
  | emptySite
  | emptyHost
  | ttl (n : Int)
  | disk (n : Int)
  deriving DecidableEq

/-- What is said about a refused request. -/
def Request.Flaw.message : Request.Flaw → String
  | emptyCe => "ce is empty"
  | emptySite => "site is empty"
  | emptyHost => "host is empty"
  | ttl n => "ttl must be positive, got " ++ toString n
  | disk n => "disk must not be negative, got " ++ toString n

namespace Request

/-- The first flaw of a request no tier could serve. -/
def flaw? (r : Request) : Option Flaw :=
  if Text.isBlankText r.ce then some .emptyCe
  else if Text.isBlankText r.site then some .emptySite
  else if Text.isBlankText r.host then some .emptyHost
  else if r.ttl ≤ 0 then some (.ttl r.ttl)
  else if r.disk < 0 then some (.disk r.disk)
  else none

end Request

def isPartitionSeparator (c : Char) : Bool := c == ',' || c == ':'

/-- The partitions of a list, separated by commas or colons. -/
def partitions (raw : String) : List String := Text.items isPartitionSeparator raw

/-- A request after the site directory was asked. -/
structure Resolved where
  request : Request
  requirements : Site.Requirements
  partitions : List String
  inventory : Inventory

namespace Resolved

/-- Joins a request with the requirements of its site. -/
def of (request : Request) (requirements : Site.Requirements) : Resolved :=
  { request
    requirements
    partitions := ((requirements.partition.or request.partition).map Matching.partitions).getD []
    inventory := .read request.installedPackages request.packagesOutOfBand }

def baseFilter (r : Resolved) (packages : PackageCheck) : Filter :=
  { ttl := r.request.ttl
    disk := r.request.disk
    allowedUsers := r.requirements.allowedUsers
    deniedUsers := r.requirements.deniedUsers
    packages }

/-- The local tiers: this computing element, this site, its partitions. -/
def localFilter (r : Resolved) (packages : PackageCheck) : Filter :=
  { r.baseFilter packages with
    ce := some r.request.ce
    site := some r.request.site
    extraSites := r.request.extraSites
    partitions := some r.partitions }

/-- The remote tiers: any place, but only work that may run anywhere and
has waited long enough. -/
def remoteFilter (r : Resolved) (packages : PackageCheck) (now : Instant)
    (defaultTimeout : Int) : Filter :=
  { r.baseFilter packages with remote := some ⟨now, defaultTimeout⟩ }

end Resolved

end GridQueue.Matching
