/-
# `GridQueue.Site` — what sites require

The site directory lists entries for whole sites and for single computing
elements.  The first entry for the computing element counts, wherever it
stands; without one the first entry for the whole site; without either
nothing is required.
-/

namespace GridQueue.Site

/-- What a site requires of the jobs it runs. -/
structure Requirements where
  /-- The users the site accepts, all if there are none. -/
  allowedUsers : List String := []
  deniedUsers : List String := []
  /-- The partitions of the site, before what an agent says of them. -/
  partition : Option String := none
  /-- A requirement in the site's own words, carried for operators. -/
  expression : Option String := none
  deriving DecidableEq

/-- An entry of the directory. -/
structure Entry where
  site : String
  /-- The computing element, or the whole site if absent. -/
  ce : Option String
  requirements : Requirements
  deriving DecidableEq

abbrev Directory := List Entry

namespace Directory

/-- Walks through the entries.  The first one for the computing element
ends the walk; until then the first one for the whole site is kept. -/
def search (ce site : String) : Option Entry → List Entry → Requirements
  | kept, [] => (kept.map (·.requirements)).getD {}
  | kept, e :: rest =>
      if e.site = site then
        match e.ce with
        | some name => if name = ce then e.requirements else search ce site kept rest
        | none => search ce site (kept.or (some e)) rest
      else search ce site kept rest

/-- What is required at a computing element of a site. -/
def lookup (d : Directory) (ce site : String) : Requirements := search ce site none d

end Directory

end GridQueue.Site
