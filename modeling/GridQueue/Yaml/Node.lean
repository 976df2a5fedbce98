/-
# `GridQueue.Yaml.Node` — the document in a text

A node is a scalar, a list or a mapping.  An anchor names the node after
it, and an alias stands for the node that was named last before it.

    - &a {k: 1}     a mapping, which is called a
    - *a            the same mapping

Tokens are taken from the front, and the nodes named so far go along with
those that are left (`Rest`).
-/
import GridQueue.Yaml.Token

namespace GridQueue.Yaml

/-- A node of a document. -/
inductive Node
  | scalar (plain : Bool) (tag : Option String) (text : String)
  | list (tag : Option String) (items : List Node)
  | map (tag : Option String) (entries : List (Node × Node))

namespace Node

/-- The scalar that stands where nothing is written. -/
def blank : Node := scalar true none ""

/-- What a node says of itself before its content. -/
structure Properties where
  anchor : Option String := none
  tag : Option String := none

/-- The tokens that are left and the nodes named so far. -/
structure Rest where
  tokens : List Token
  anchors : List (String × Node) := []

def Rest.goOn (r : Rest) (tokens : List Token) : Rest := { r with tokens }

/-- Reads an anchor and a tag, in either order. -/
def properties : List Token → Properties × List Token
  | .anchor a :: .tag t :: rest | .tag t :: .anchor a :: rest => (⟨some a, some t⟩, rest)
  | .anchor a :: rest => (⟨some a, none⟩, rest)
  | .tag t :: rest => (⟨none, some t⟩, rest)
  | tokens => ({}, tokens)

def endsBlockPart : List Token → Bool
  | .key :: _ | .value :: _ | .blockEnd :: _ => true
  | _ => false

/-- Where nothing is written within brackets closed by `closing`. -/
def endsFlowPart (closing : Token) : List Token → Bool
  | t :: _ => t == .comma || t == closing
  | [] => false

mutual

/-- Reads a node.  In a block its content may be a block; as the value of
a mapping it may be a list with the hyphens in the mapping's column. -/
def read (inBlock hyphens : Bool) : Nat → Rest → Option (Node × Rest)
  | 0, _ => none
  | fuel + 1, r =>
      match r.tokens with
      | .reference name :: rest => (r.anchors.lookup name).map fun n => (n, r.goOn rest)
      | tokens => do
          let (p, rest) := properties tokens
          let (n, r) ← readContent inBlock hyphens fuel p (r.goOn rest)
          match p.anchor with
          | some name => some (n, { r with anchors := (name, n) :: r.anchors })
          | none => some (n, r)

def readContent (inBlock hyphens : Bool) : Nat → Properties → Rest → Option (Node × Rest)
  | 0, _, _ => none
  | fuel + 1, p, r =>
      match r.tokens with
      | .scalar plain text :: rest => some (scalar plain p.tag text, r.goOn rest)
      | .flowSequence :: rest => do
          let (items, r) ← readFlowItems true fuel (r.goOn rest)
          some (list p.tag items, r)
      | .flowMapping :: rest => do
          let (entries, r) ← readFlowEntries true fuel (r.goOn rest)
          some (map p.tag entries, r)
      | .entry :: _ =>
          if hyphens then do
            let (items, r) ← readHyphens fuel r
            some (list p.tag items, r)
          else if p.anchor.isSome || p.tag.isSome then some (scalar true p.tag "", r)
          else none
      | .blockSequence :: rest =>
          if inBlock then do
            let (items, r) ← readItems fuel (r.goOn rest)
            some (list p.tag items, r)
          else none
      | .blockMapping :: rest =>
          if inBlock then do
            let (entries, r) ← readEntries fuel (r.goOn rest)
            some (map p.tag entries, r)
          else none
      | _ => if p.anchor.isSome || p.tag.isSome then some (scalar true p.tag "", r) else none

/-- Reads a node of a block, which may be left out. -/
def readPart (hyphens ended : Bool) : Nat → Rest → Option (Node × Rest)
  | 0, _ => none
  | fuel + 1, r => if ended then some (blank, r) else read true hyphens fuel r

/-- Reads the items of a list in a block of its own. -/
def readItems : Nat → Rest → Option (List Node × Rest)
  | 0, _ => none
  | fuel + 1, r =>
      match r.tokens with
      | .entry :: rest => do
          let ended := match rest with
            | .entry :: _ | .blockEnd :: _ => true
            | _ => false
          let (n, r) ← readPart false ended fuel (r.goOn rest)
          let (items, r) ← readItems fuel r
          some (n :: items, r)
      | .blockEnd :: rest => some ([], r.goOn rest)
      | _ => none

/-- Reads the items of a list in the column of its mapping. -/
def readHyphens : Nat → Rest → Option (List Node × Rest)
  | 0, _ => none
  | fuel + 1, r =>
      match r.tokens with
      | .entry :: rest => do
          let ended := match rest with
            | .entry :: _ => true
            | rest => endsBlockPart rest
          let (n, r) ← readPart false ended fuel (r.goOn rest)
          let (items, r) ← readHyphens fuel r
          some (n :: items, r)
      | _ => some ([], r)

/-- Reads the entries of a mapping in a block. -/
def readEntries : Nat → Rest → Option (List (Node × Node) × Rest)
  | 0, _ => none
  | fuel + 1, r =>
      match r.tokens with
      | .key :: rest => do
          let (k, r) ← readPart true (endsBlockPart rest) fuel (r.goOn rest)
          let (v, r) ← match r.tokens with
            | .value :: rest => readPart true (endsBlockPart rest) fuel (r.goOn rest)
            | _ => some (blank, r)
          let (entries, r) ← readEntries fuel r
          some ((k, v) :: entries, r)
      | .blockEnd :: rest => some ([], r.goOn rest)
      | _ => none

/-- Reads a value within brackets, if there is one. -/
def readFlowValue (closing : Token) : Nat → Rest → Option (Node × Rest)
  | 0, _ => none
  | fuel + 1, r =>
      match r.tokens with
      | .value :: rest =>
          if endsFlowPart closing rest then some (blank, r.goOn rest)
          else read false false fuel (r.goOn rest)
      | _ => some (blank, r)

/-- Reads an item within brackets: a node, or a mapping of one entry
without braces. -/
def readFlowItem : Nat → Rest → Option (Node × Rest)
  | 0, _ => none
  | fuel + 1, r =>
      match r.tokens with
      | .key :: rest => do
          let ended := match rest with
            | .value :: _ => true
            | rest => endsFlowPart .flowSequenceEnd rest
          let (k, r) ←
            if ended then some (blank, r.goOn (rest.drop 1)) else read false false fuel (r.goOn rest)
          let (v, r) ← readFlowValue .flowSequenceEnd fuel r
          some (map none [(k, v)], r)
      | _ => read false false fuel r

/-- Reads the items between brackets; a comma may stand after the last. -/
def readFlowItems (first : Bool) : Nat → Rest → Option (List Node × Rest)
  | 0, _ => none
  | fuel + 1, r => do
      match r.tokens with
      | .flowSequenceEnd :: rest => some ([], r.goOn rest)
      | tokens =>
          let tokens ← match first, tokens with
            | true, tokens => some tokens
            | false, .comma :: rest => some rest
            | false, _ => none
          match tokens with
          | .flowSequenceEnd :: rest => some ([], r.goOn rest)
          | tokens => do
              let (n, r) ← readFlowItem fuel (r.goOn tokens)
              let (items, r) ← readFlowItems false fuel r
              some (n :: items, r)

/-- Reads the entries between braces; a comma may stand after the last. -/
def readFlowEntries (first : Bool) : Nat → Rest → Option (List (Node × Node) × Rest)
  | 0, _ => none
  | fuel + 1, r => do
      match r.tokens with
      | .flowMappingEnd :: rest => some ([], r.goOn rest)
      | tokens =>
          let tokens ← match first, tokens with
            | true, tokens => some tokens
            | false, .comma :: rest => some rest
            | false, _ => none
          match tokens with
          | .flowMappingEnd :: rest => some ([], r.goOn rest)
          | .key :: rest => do
              let ended := match rest with
                | .value :: _ => true
                | rest => endsFlowPart .flowMappingEnd rest
              let (k, r) ←
                if ended then some (blank, r.goOn rest) else read false false fuel (r.goOn rest)
              let (v, r) ← readFlowValue .flowMappingEnd fuel r
              let (entries, r) ← readFlowEntries false fuel r
              some ((k, v) :: entries, r)
          | tokens => do
              let (k, r) ← read false false fuel (r.goOn tokens)
              let (entries, r) ← readFlowEntries false fuel r
              some ((k, blank) :: entries, r)

end

/-! ## Documents -/

def endsDocument : List Token → Bool
  | .directive :: _ | .documentStart :: _ | .documentEnd :: _ | [] => true
  | _ => false

def readDocument (tokens : List Token) : Option (Node × List Token) := do
  let (n, r) ← read true false (3 * tokens.length + 3) { tokens }
  some (n, r.tokens)

/-- Reads a document with what may stand before it: a directive, and then
the mark of its start. -/
def readMarked : List Token → Option (Node × List Token)
  | .directive :: .documentStart :: rest | .documentStart :: rest =>
      if endsDocument rest then some (blank, rest) else readDocument rest
  | .directive :: _ => none
  | tokens => readDocument tokens

/-- The only document of a text; there is none in a text without
content. -/
def ofText? (text : String) : Option (Option Node) := do
  let tokens ← Token.ofText? text
  if tokens.isEmpty then some none
  else
    let (n, rest) ← readMarked tokens
    if rest.all (· == .documentEnd) then some (some n) else none

mutual

/-- How deep lists and mappings are nested. -/
def depth : Node → Nat
  | scalar _ _ _ => 0
  | list _ items => depthOfItems items + 1
  | map _ entries => depthOfEntries entries + 1

def depthOfItems : List Node → Nat
  | [] => 0
  | n :: rest => max (depth n) (depthOfItems rest)

def depthOfEntries : List (Node × Node) → Nat
  | [] => 0
  | (k, v) :: rest => max (max (depth k) (depth v)) (depthOfEntries rest)

end

end Node

end GridQueue.Yaml
