/-
# `GridQueue.Package` — what software an agent has

An agent reports its packages in one text, separated by commas or white
space, or says that packages come from a shared file system, where every
requirement counts as met.

| report        | supplied from outside | what is missing of `gcc root`  |
| :------------ | :-------------------- | :----------------------------- |
| `root, git`   | no                    | `gcc`                          |
| none, or `,`  | no                    | `gcc root`, in this order      |
| any           | yes                   | nothing                        |
-/
import GridQueue.Matching.Filter
import GridQueue.Text.Blank

namespace GridQueue

/-- The software an agent can run without installing anything. -/
inductive Inventory
  /-- packages are supplied from outside -/
  | sharedFilesystem
  | installed (packages : NameSet)

namespace Inventory

def isSeparator (c : Char) : Bool := c == ',' || Text.isBlank c

def read (report : Option String) (outOfBand : Bool) : Inventory :=
  if outOfBand then sharedFilesystem
  else installed (NameSet.ofNames (Text.items isSeparator (report.getD "")))

def check : Inventory → Matching.PackageCheck
  | sharedFilesystem => .ignore
  | installed packages => .installed packages

/-- Whether packages can be missing at all. -/
def constrains : Inventory → Bool
  | sharedFilesystem => false
  | installed _ => true

/-- The required packages that are missing, in the order of the
requirements. -/
def missing (inv : Inventory) (required : List String) : List String :=
  match inv with
  | sharedFilesystem => []
  | installed packages => required.filter fun p => !packages.has p

end Inventory

end GridQueue
