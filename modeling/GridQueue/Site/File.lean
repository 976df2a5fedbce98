/-
# `GridQueue.Site.File` — the file of the site directory

A file is a YAML mapping with a list `sites` of entries.  An entry names
a site and may name a computing element; every other field is typed, so
a number is no partition, and fields of other names are passed over.  A
field given twice is an error.
-/
import GridQueue.Site
import GridQueue.Yaml.Kind
import GridQueue.Yaml.Node

namespace GridQueue.Yaml

/-- A tag that is meant for one application only. -/
def isLocalTag (tag : Option String) : Bool :=
  match tag with
  | some t => t.startsWith "!"
  | none => false

def coreTag (name : String) : String := "tag:yaml.org,2002:" ++ name

/-- A scalar under a tag has a value. -/
def taggedHolds (tag text : String) : Bool :=
  if tag == coreTag "bool" then Kind.isBool text
  else if tag == coreTag "int" then Kind.ofText text == .int
  else if tag == coreTag "float" then
    [Kind.int, .wideInt, .float].contains (Kind.ofText text)
  else if tag == coreTag "null" then Kind.isNull text && !text.isEmpty
  else true

/-- The tags whose scalars are no texts. -/
def isTypedTag (tag : String) : Bool :=
  ["bool", "int", "float", "null"].any fun n => tag == coreTag n

namespace Node

def isNull : Node → Bool
  | scalar true none text => Kind.isNull text
  | scalar true (some t) text => t == coreTag "null" && Kind.isNull text
  | _ => false

def isBlank : Node → Bool
  | scalar true _ text => text.isEmpty
  | _ => false

/-- The text of a scalar as it is written. -/
def rawText? : Node → Option String
  | scalar _ _ text => some text
  | list _ _ | map _ _ => none

/-- The text of a scalar that stands for a text. -/
def text? : Node → Option String
  | scalar plain none text => if plain && Kind.ofText text != .text then none else some text
  | scalar _ (some t) text => if isTypedTag t || t.startsWith "!" then none else some text
  | list _ _ | map _ _ => none

def texts? : Node → Option (List String)
  | list _ items => items.mapM text?
  | scalar _ _ _ | map _ _ => none

/-- The entries of a mapping, whose keys are scalars; there are none where
nothing is written. -/
def fields? : Node → Option (List (String × Node))
  | map _ entries => entries.mapM fun e => e.1.rawText?.map fun k => (k, e.2)
  | n => if n.isBlank then some [] else none

mutual

/-- Every part of a node has a value of its own. -/
def hasValue : Node → Bool
  | scalar plain none text => !plain || Kind.ofText text != .wideInt
  | scalar _ (some t) text => !t.startsWith "!" && taggedHolds t text
  | list tag items => !isLocalTag tag && allHaveValues items
  | map tag entries => !isLocalTag tag && allEntriesHaveValues entries

def allHaveValues : List Node → Bool
  | [] => true
  | n :: rest => hasValue n && allHaveValues rest

def allEntriesHaveValues : List (Node × Node) → Bool
  | [] => true
  | (k, v) :: rest => hasValue k && hasValue v && allEntriesHaveValues rest

end

end Node

end GridQueue.Yaml

namespace GridQueue.Site

open Yaml

/-- The value of a field that may be absent and is given once at most. -/
def field? (fields : List (String × Node)) (name : String) : Option (Option Node) :=
  match fields.filter fun f => f.1 == name with
  | [] => some none
  | [f] => some (some f.2)
  | _ => none

/-- A field whose value may be null. -/
def nullable? {α : Type} (read : Node → Option α) : Option Node → Option (Option α)
  | none => some none
  | some n => if n.isNull then some none else (read n).map some

/-- A list of texts, empty if the field is absent. -/
def names? : Option Node → Option (List String)
  | none => some []
  | some n => n.texts?

/-- How deep the values of an entry may be nested. -/
def maxDepth : Nat := 125

/-- Reads the requirements among the fields of an entry. -/
def Requirements.ofFields? (fields : List (String × Node)) : Option Requirements := do
  let allowedUsers ← names? (← field? fields "allowed_users")
  let deniedUsers ← names? (← field? fields "denied_users")
  let partition ← nullable? Node.text? (← field? fields "partition")
  let expression ← nullable? Node.text? (← field? fields "requirements")
  some { allowedUsers, deniedUsers, partition, expression }

def Entry.ofNode? (n : Node) : Option Entry := do
  let fields ← n.fields?
  let site ← (← field? fields "site").bind Node.rawText?
  let ce ← nullable? Node.rawText? (← field? fields "ce")
  let others := fields.filter fun f => f.1 != "site" && f.1 != "ce"
  if others.all fun f => f.2.hasValue && decide (f.2.depth ≤ maxDepth) then
    let requirements ← Requirements.ofFields? others
    some { site, ce, requirements }
  else none

/-- Reads the list of entries, which may be left empty. -/
def Directory.ofNode? : Node → Option Directory
  | .list _ items => items.mapM Entry.ofNode?
  | n => if n.isBlank then some [] else none

def Directory.ofText? (text : String) : Option Directory := do
  match ← Node.ofText? text with
  | none => some []
  | some n =>
      match ← field? (← n.fields?) "sites" with
      | none => some []
      | some sites => Directory.ofNode? sites

end GridQueue.Site
