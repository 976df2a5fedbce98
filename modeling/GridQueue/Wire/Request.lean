/-
# `GridQueue.Wire.Request` — requests for work as JSON

An agent has to say where it is and for how long it can run:

    ce  site  host  ttl

Everything else may be left out and has a default: no further sites, no
disk, no packages, and remote work is welcome.  What a site requires may be
left out altogether.  The inventory of an agent is a union that is told
apart by its `kind`, and may also be given as a pair.
-/
import GridQueue.Json.Record
import GridQueue.Matching.Request

namespace GridQueue

open Json

def Matching.Request.toJson (r : Matching.Request) : Json :=
  .obj
    [("ce", .str r.ce),
     ("site", .str r.site),
     ("host", .str r.host),
     ("extra_sites", strs r.extraSites),
     ("ttl", .int r.ttl),
     ("disk", .int r.disk),
     ("partition", opt .str r.partition),
     ("installed_packages", opt .str r.installedPackages),
     ("packages_out_of_band", .bool r.packagesOutOfBand),
     ("accepts_remote", .bool r.acceptsRemote)]

def Matching.Request.ofJson? (j : Json) : Option Matching.Request := do
  let r ← j.record?
    ["ce", "site", "host", "extra_sites", "ttl", "disk", "partition",
     "installed_packages", "packages_out_of_band", "accepts_remote"]
  let ce ← r.required "ce" str?
  let site ← r.required "site" str?
  let host ← r.required "host" str?
  let extraSites ← r.defaulted "extra_sites" [] (list? str?)
  let ttl ← r.required "ttl" int64?
  let disk ← r.defaulted "disk" 0 int64?
  let partition ← r.defaulted "partition" none (Record.nullable str?)
  let installedPackages ← r.defaulted "installed_packages" none (Record.nullable str?)
  let packagesOutOfBand ← r.defaulted "packages_out_of_band" false bool?
  let acceptsRemote ← r.defaulted "accepts_remote" true bool?
  some { ce, site, host, extraSites, ttl, disk, partition, installedPackages,
         packagesOutOfBand, acceptsRemote }

def Site.Requirements.toJson (r : Site.Requirements) : Json :=
  .obj
    [("allowed_users", strs r.allowedUsers),
     ("denied_users", strs r.deniedUsers),
     ("partition", opt .str r.partition),
     ("requirements", opt .str r.expression)]

def Site.Requirements.ofJson? (j : Json) : Option Site.Requirements := do
  let r ← j.record? ["allowed_users", "denied_users", "partition", "requirements"]
  let allowedUsers ← r.defaulted "allowed_users" [] (list? str?)
  let deniedUsers ← r.defaulted "denied_users" [] (list? str?)
  let partition ← r.defaulted "partition" none (Record.nullable str?)
  let expression ← r.defaulted "requirements" none (Record.nullable str?)
  some { allowedUsers, deniedUsers, partition, expression }

def Inventory.toJson : Inventory → Json
  | sharedFilesystem => .obj [("kind", .str "shared_filesystem")]
  | installed packages =>
      .obj [("kind", .str "installed"), ("packages", strs packages.names)]

/-- Reads an inventory from its kind and what stands for the packages. -/
def Inventory.ofParts? (kind : Json) (packages : Option Json) : Option Inventory :=
  match kind with
  | .str "shared_filesystem" =>
      match packages with
      | none | some .null => some sharedFilesystem
      | some _ => none
  | .str "installed" =>
      (packages.bind (list? str?)).map fun names => installed (NameSet.ofNames names)
  | _ => none

def Inventory.ofJson? : Json → Option Inventory
  | .arr [kind, packages] => ofParts? kind (some packages)
  | .obj members =>
      if namesOnce ["kind", "packages"] members then
        (member? "kind" members).bind fun kind =>
          ofParts? kind (member? "packages" members)
      else none
  | _ => none

end GridQueue
