/-
# `GridQueue.Yaml.Flow` — scalars whose line breaks fold

Within plain and quoted scalars a line break stands for a space, and of
several the first is dropped.  Double quotes admit escapes, and a
backslash before a line break removes it.

    one break     a space
    two breaks    one break

Blanks before and after a break are left out.
-/
import GridQueue.Yaml.Cursor

namespace GridQueue.Yaml

/-- What stands between two words. -/
structure Gap where
  blanks : List Char := []
  /-- The first line break. -/
  first : Option (List Char) := none
  /-- Further line breaks. -/
  more : List Char := []

namespace Gap

def text (g : Gap) : List Char :=
  match g.first with
  | none => g.blanks
  | some b => if b == ['\n'] then (if g.more.isEmpty then [' '] else g.more) else b ++ g.more

/-- Takes spaces and line breaks.  Where a line has to be indented, no tab
may stand in its indent. -/
def take (indent : Nat) : Nat → Gap → Cursor → Option (Gap × Cursor)
  | 0, g, c => some (g, c)
  | fuel + 1, g, c =>
      match c.peek? with
      | none => some (g, c)
      | some x =>
          if isSpace x then
            if g.first.isNone then take indent fuel { g with blanks := g.blanks ++ [x] } c.skip
            else if x == '\t' && c.column < indent then none
            else take indent fuel g c.skip
          else if isBreak x then
            let (b, c) := c.skipBreak
            if g.first.isNone then take indent fuel { g with blanks := [], first := some b } c
            else take indent fuel { g with more := g.more ++ b } c
          else some (g, c)

end Gap

/-! ## Plain scalars -/

/-- A plain scalar in brackets ends at these. -/
def isFlowIndicator (x : Char) : Bool :=
  x == ',' || x == '[' || x == ']' || x == '{' || x == '}'

/-- Takes the characters of a word; a colon before an indicator is an
error within brackets. -/
def plainWord (inFlow : Bool) : List Char → Cursor → Nat → Option (List Char × Cursor)
  | word, c, 0 => some (word, c)
  | word, c, fuel + 1 =>
      match c.peek? with
      | none => some (word, c)
      | some x =>
          if isSpace x || isBreak x then some (word, c)
          else if inFlow && x == ':' && c.rest[1]?.any (fun y => isFlowIndicator y || y == '?') then
            none
          else if (x == ':' && c.gapAt 1) || (inFlow && isFlowIndicator x) then some (word, c)
          else plainWord inFlow (word ++ [x]) c.skip fuel

/-- A plain scalar: its text, whether it ended on a later line, and the
place after it. -/
def plain (inFlow : Bool) (indent : Nat) :
    Nat → List Char → Gap → Cursor → Option (List Char × Bool × Cursor)
  | 0, text, g, c => some (text, g.first.isSome, c)
  | fuel + 1, text, g, c =>
      if c.atAnyMark || c.sees '#' then some (text, g.first.isSome, c)
      else do
        let (word, c) ← plainWord inFlow [] c c.fuel
        let (text, g) := if word.isEmpty then (text, g) else (text ++ g.text ++ word, {})
        if c.atSpace || c.atBreak then
          let (g, c) ← g.take indent c.fuel c
          if !inFlow && c.column < indent then some (text, g.first.isSome, c)
          else plain inFlow indent fuel text g c
        else some (text, g.first.isSome, c)

/-! ## Quoted scalars -/

def hexValue? (c : Char) : Option Nat :=
  if '0' ≤ c ∧ c ≤ '9' then some (c.toNat - '0'.toNat)
  else if 'a' ≤ c ∧ c ≤ 'f' then some (c.toNat - 'a'.toNat + 10)
  else if 'A' ≤ c ∧ c ≤ 'F' then some (c.toNat - 'A'.toNat + 10)
  else none

def hexChar? (digits : List Char) : Option Char := do
  let n ← digits.foldlM (fun n d => (hexValue? d).map (n * 16 + ·)) 0
  if n.isValidChar then some (Char.ofNat n) else none

/-- What the character after a backslash stands for. -/
def shortEscape? : Char → Option Char
  | '0' => some '\x00'
  | 'a' => some '\x07'
  | 'b' => some '\x08'
  | 't' | '\t' => some '\t'
  | 'n' => some '\n'
  | 'v' => some '\x0b'
  | 'f' => some '\x0c'
  | 'r' => some '\r'
  | 'e' => some '\x1b'
  | ' ' => some ' '
  | '"' => some '"'
  | '/' => some '/'
  | '\\' => some '\\'
  | 'N' => some '\u0085'
  | '_' => some '\u00a0'
  | 'L' => some '\u2028'
  | 'P' => some '\u2029'
  | _ => none

/-- The number of digits of an escape by code point. -/
def escapeWidth? : Char → Option Nat
  | 'x' => some 2
  | 'u' => some 4
  | 'U' => some 8
  | _ => none

/-- An escape, of which the backslash is next. -/
def escape? (c : Cursor) : Option (Char × Cursor) := do
  let x ← c.rest[1]?
  match shortEscape? x, escapeWidth? x with
  | some y, _ => some (y, c.skips 2)
  | none, some width =>
      let digits := (c.rest.drop 2).take width
      if digits.length = width then
        let y ← hexChar? digits
        some (y, c.skips (2 + width))
      else none
  | none, none => none

/-- Takes the characters of a word up to a space, a line break or the
closing quote; says whether it ended in an escaped line break. -/
def quotedWord (single : Bool) : List Char → Cursor → Nat → Option (List Char × Bool × Cursor)
  | word, c, 0 => some (word, false, c)
  | word, c, fuel + 1 =>
      match c.peek? with
      | none => none
      | some x =>
          if isSpace x || isBreak x then some (word, false, c)
          else if single then
            if x == '\'' then
              if c.seesAt 1 '\'' then quotedWord single (word ++ ['\'']) (c.skips 2) fuel
              else some (word, false, c)
            else quotedWord single (word ++ [x]) c.skip fuel
          else if x == '"' then some (word, false, c)
          else if x == '\\' then
            if c.rest[1]?.any isBreak then some (word, true, (c.skip.skipBreak).2)
            else do
              let (y, c) ← escape? c
              quotedWord single (word ++ [y]) c fuel
          else quotedWord single (word ++ [x]) c.skip fuel

/-- The inside of a quoted scalar and the place after its closing quote. -/
def quoted (single : Bool) : Nat → List Char → Cursor → Option (List Char × Cursor)
  | 0, _, _ => none
  | fuel + 1, text, c =>
      if c.atAnyMark || c.rest.isEmpty then none
      else do
        let (word, joined, c) ← quotedWord single [] c c.fuel
        let text := text ++ word
        if !joined && c.sees (if single then '\'' else '"') then some (text, c.skip)
        else
          let (g, c) ← ({ first := if joined then some [] else none } : Gap).take 0 c.fuel c
          quoted single fuel (text ++ g.text) c

end GridQueue.Yaml
