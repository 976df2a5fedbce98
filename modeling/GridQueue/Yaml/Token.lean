/-
# `GridQueue.Yaml.Token` — the layout of a text as tokens

Indents open and close blocks; a token is put in where a block starts
and where it ends.  That a mapping starts, or that something is a key, is
seen only at the colon after it, so each level of brackets remembers the
last place where a key may have begun.  Such a place is given up after
its line or after 1024 characters, and where a key is the only thing the
indent allows that is an error.
-/
import GridQueue.Yaml.Block
import GridQueue.Yaml.Flow

namespace GridQueue.Yaml

/-- A token. -/
inductive Token
  /-- a line that starts with a percent sign -/
  | directive
  /-- three hyphens -/
  | documentStart
  /-- three dots -/
  | documentEnd
  | blockSequence
  | blockMapping
  | blockEnd
  | flowSequence
  | flowSequenceEnd
  | flowMapping
  | flowMappingEnd
  | entry
  | comma
  | key
  | value
  | reference (name : String)
  | anchor (name : String)
  | tag (text : String)
  | scalar (plain : Bool) (text : String)
  deriving DecidableEq

/-- A place where a key may have begun. -/
structure KeyPlace where
  /-- The indent allows nothing but a key. -/
  required : Bool
  /-- The number of tokens before it. -/
  position : Nat
  line : Nat
  column : Nat
  index : Nat

/-- The tokens so far and what the next ones depend on. -/
structure Layout where
  cursor : Cursor
  tokens : Array Token := #[]
  /-- The indents of the open blocks, innermost first. -/
  indents : List Nat := []
  /-- For each level of brackets, innermost first, where a key may have
  begun; the last is outside all brackets. -/
  keys : List (Option KeyPlace) := [none]
  /-- A key may begin here. -/
  keyAllowed : Bool := true

namespace Layout

def inFlow (s : Layout) : Bool := decide (1 < s.keys.length)

/-- The indent of the innermost block, -1 outside of all. -/
def indent (s : Layout) : Int :=
  match s.indents with
  | [] => -1
  | n :: _ => n

def push (s : Layout) (t : Token) : Layout := { s with tokens := s.tokens.push t }

def insertAt (s : Layout) (position : Nat) (t : Token) : Layout :=
  { s with
    tokens := (s.tokens.toList.take position ++ t :: s.tokens.toList.drop position).toArray }

/-- Goes on with the place after `k` characters. -/
def skips (s : Layout) (k : Nat) : Layout := { s with cursor := s.cursor.skips k }

/-! ## Where keys may begin -/

/-- The place is too far back to be that of a key. -/
def isStale (c : Cursor) (k : KeyPlace) : Bool :=
  decide (k.line < c.line) || decide (k.index + 1024 < c.index)

/-- Gives up the places that are too far back. -/
def dropStale (s : Layout) : Option Layout := do
  let keys ← s.keys.mapM fun
    | none => some none
    | some k =>
        if isStale s.cursor k then (if k.required then none else some none) else some (some k)
  some { s with keys }

/-- Gives up the place at this level. -/
def dropKey (s : Layout) : Option Layout :=
  match s.keys with
  | some k :: rest => if k.required then none else some { s with keys := none :: rest }
  | _ => some s

/-- Remembers this place, if a key may begin here. -/
def saveKey (s : Layout) : Option Layout := do
  if s.keyAllowed then
    let s ← s.dropKey
    let k : KeyPlace :=
      { required := !s.inFlow && s.indent == s.cursor.column
        position := s.tokens.size
        line := s.cursor.line
        column := s.cursor.column
        index := s.cursor.index }
    some { s with keys := some k :: s.keys.drop 1 }
  else some s

/-! ## Indents -/

/-- Opens a block if a column is further in than the innermost one. -/
def openBlock (s : Layout) (column position : Nat) (t : Token) : Layout :=
  if !s.inFlow && s.indent < column then
    { s.insertAt position t with indents := column :: s.indents }
  else s

def openHere (s : Layout) (t : Token) : Layout :=
  s.openBlock s.cursor.column s.tokens.size t

/-- Closes the blocks that are further in than a column. -/
def closeBlocks (s : Layout) (column : Int) : Layout :=
  if s.inFlow then s
  else
    let closed := s.indents.takeWhile fun (n : Nat) => decide (column < (n : Int))
    { s with
      indents := s.indents.drop closed.length
      tokens := closed.foldl (fun ts _ => ts.push .blockEnd) s.tokens }

/-! ## Tokens -/

/-- Passes over spaces, comments and line breaks. -/
def toNext : Nat → Layout → Layout
  | 0, s => s
  | fuel + 1, s =>
      let tabs := s.inFlow || !s.keyAllowed
      let c := s.cursor.skipWhile fun x => x == ' ' || (tabs && x == '\t')
      let c := if c.sees '#' then c.skipWhile fun _ => true else c
      if c.atBreak then
        toNext fuel
          { s with cursor := c.skipBreak.2, keyAllowed := s.keyAllowed || !s.inFlow }
      else { s with cursor := c }

/-- A mark between documents or a directive ends every block. -/
def marker (s : Layout) (t : Token) (rest : Cursor) : Option Layout := do
  let s ← (s.closeBlocks (-1)).dropKey
  some { s.push t with cursor := rest, keyAllowed := false }

/-- The versions of the language that a directive may name. -/
def isVersion (text : List Char) : Bool :=
  text == "YAML 1.1".toList || text == "YAML 1.2".toList

/-- A directive names the version of the language. -/
def directive (s : Layout) : Option Layout :=
  let line := s.cursor.rest.takeWhile fun x => !isBreak x && x != '#'
  let text := ((line.drop 1).reverse.dropWhile isSpace).reverse
  if isVersion text then s.marker .directive (s.cursor.skipWhile fun _ => true) else none

def openFlow (s : Layout) (t : Token) : Option Layout := do
  let s ← s.saveKey
  some { (s.push t).skips 1 with keys := none :: s.keys, keyAllowed := true }

def closeFlow (s : Layout) (t : Token) : Option Layout := do
  let s ← s.dropKey
  let keys := if s.inFlow then s.keys.drop 1 else s.keys
  some { (s.push t).skips 1 with keys, keyAllowed := false }

def comma (s : Layout) : Option Layout := do
  let s ← s.dropKey
  some { (s.push .comma).skips 1 with keyAllowed := true }

def entry (s : Layout) : Option Layout :=
  if s.inFlow || s.keyAllowed then do
    let s ← (s.openHere .blockSequence).dropKey
    some { (s.push .entry).skips 1 with keyAllowed := true }
  else none

def key (s : Layout) : Option Layout :=
  if s.inFlow || s.keyAllowed then do
    let s ← (s.openHere .blockMapping).dropKey
    some { (s.push .key).skips 1 with keyAllowed := !s.inFlow }
  else none

def value (s : Layout) : Option Layout :=
  match s.keys with
  | some k :: rest =>
      let s := { s.insertAt k.position .key with keys := none :: rest }
      let s := s.openBlock k.column k.position .blockMapping
      some { (s.push .value).skips 1 with keyAllowed := false }
  | _ =>
      if s.inFlow || s.keyAllowed then
        let s := s.openHere .blockMapping
        some { (s.push .value).skips 1 with keyAllowed := !s.inFlow }
      else none

def isNameChar (c : Char) : Bool := c.isAlphanum || c == '_' || c == '-'

/-- What may follow the name of an anchor. -/
def endsName (c : Cursor) : Bool :=
  c.gapAt 0 || c.peek?.any fun x => "?:,]\x7d%@`".toList.contains x

/-- An anchor or an alias, after its sign. -/
def name (s : Layout) (t : String → Token) : Option Layout := do
  let s ← s.saveKey
  let c := s.cursor.skip
  let word := c.rest.takeWhile isNameChar
  let after := c.skips word.length
  if word.isEmpty || !endsName after then none
  else some { s.push (t (String.ofList word)) with cursor := after, keyAllowed := false }

/-- A tag: local, of the core schema, or in full between angle brackets. -/
def tag (s : Layout) : Option Layout := do
  let s ← s.saveKey
  let word := s.cursor.rest.takeWhile fun x => !isSpace x && !isBreak x && !isFlowIndicator x
  let after := s.cursor.skips word.length
  let text ← match word with
    | '!' :: '<' :: rest =>
        if rest.getLast? == some '>' then some (String.ofList rest.dropLast) else none
    | '!' :: '!' :: rest =>
        if rest.isEmpty then none else some ("tag:yaml.org,2002:" ++ String.ofList rest)
    | '!' :: rest => if rest.contains '!' then none else some (String.ofList word)
    | _ => none
  if !after.gapAt 0 && !(s.inFlow && after.sees ',') then none
  else some { s.push (.tag text) with cursor := after, keyAllowed := false }

def block (s : Layout) (literal : Bool) : Option Layout := do
  let s ← s.dropKey
  let (text, c) ← blockScalar literal s.indent s.cursor.skip
  some { s.push (.scalar false (String.ofList text)) with cursor := c, keyAllowed := true }

def quotedScalar (s : Layout) (single : Bool) : Option Layout := do
  let s ← s.saveKey
  let c := s.cursor.skip
  let (text, c) ← quoted single c.fuel [] c
  some { s.push (.scalar false (String.ofList text)) with cursor := c, keyAllowed := false }

def plainScalar (s : Layout) : Option Layout := do
  let s ← s.saveKey
  let (text, crossed, c) ← plain s.inFlow (s.indent + 1).toNat s.cursor.fuel [] {} s.cursor
  some { s.push (.scalar true (String.ofList text)) with cursor := c, keyAllowed := crossed }

/-- Whether a plain scalar may start with the next character. -/
def startsPlain (s : Layout) : Bool :=
  let c := s.cursor
  match c.peek? with
  | none => false
  | some x =>
      if x == '-' then !c.rest[1]?.any isSpace
      else if x == '?' || x == ':' then !s.inFlow && !c.gapAt 1
      else !isSpace x && !isBreak x && !",[]\x7b\x7d#&*!|>'\"%@`".toList.contains x

def next (s : Layout) : Option Layout := do
  let s ← (s.toNext s.cursor.fuel).dropStale
  let s := s.closeBlocks s.cursor.column
  let c := s.cursor
  if c.column == 0 && c.sees '%' then s.directive
  else if c.atMark '-' then s.marker .documentStart (c.skips 3)
  else if c.atMark '.' then s.marker .documentEnd (c.skips 3)
  else
    match c.peek? with
    | none => some s
    | some '[' => s.openFlow .flowSequence
    | some '{' => s.openFlow .flowMapping
    | some ']' => s.closeFlow .flowSequenceEnd
    | some '}' => s.closeFlow .flowMappingEnd
    | some ',' => s.comma
    | some '*' => s.name .reference
    | some '&' => s.name .anchor
    | some '!' => s.tag
    | some '\'' => s.quotedScalar true
    | some '"' => s.quotedScalar false
    | some x =>
        if x == '-' && c.gapAt 1 then s.entry
        else if x == '?' && (s.inFlow || c.gapAt 1) then s.key
        else if x == ':' && (s.inFlow || c.gapAt 1) then s.value
        else if x == '|' && !s.inFlow then s.block true
        else if x == '>' && !s.inFlow then s.block false
        else if s.startsPlain then s.plainScalar
        else none

/-- All tokens up to the end of the text. -/
def finish : Nat → Layout → Option Layout
  | 0, _ => none
  | fuel + 1, s => do
      let s ← s.next
      if s.cursor.rest.isEmpty then
        let s ← (s.toNext s.cursor.fuel).dropStale
        (s.closeBlocks (-1)).dropKey
      else finish fuel s

end Layout

/-- The tokens of a text; a mark for the order of bytes may stand before
it. -/
def Token.ofText? (text : String) : Option (List Token) :=
  let chars := match text.toList with
    | '\ufeff' :: rest => rest
    | rest => rest
  if chars.all isAllowed then
    let s : Layout := { cursor := { rest := chars } }
    (s.finish s.cursor.fuel).map fun s => s.tokens.toList
  else none

end GridQueue.Yaml
