/-
# `GridQueue.Yaml.Cursor` — places in a text

A place is what is left of the text together with the line and the column
it stands at, which the layout of a YAML text depends on.
-/

namespace GridQueue.Yaml

def isSpace (c : Char) : Bool := c == ' ' || c == '\t'

def isBreak (c : Char) : Bool :=
  c == '\n' || c == '\r' || c == '\u0085' || c == '\u2028' || c == '\u2029'

def isAllowed (c : Char) : Bool :=
  let n := c.toNat
  n == 0x09 || n == 0x0a || n == 0x0d || (0x20 ≤ n && n ≤ 0x7e) || n == 0x85
    || (0xa0 ≤ n && n ≤ 0xd7ff) || (0xe000 ≤ n && n ≤ 0xfffd && n != 0xfeff) || 0x10000 ≤ n

/-- A place in a text. -/
structure Cursor where
  rest : List Char
  line : Nat := 0
  column : Nat := 0
  index : Nat := 0

namespace Cursor

def peek? (c : Cursor) : Option Char := c.rest.head?

/-- The next character is `x`. -/
def sees (c : Cursor) (x : Char) : Bool := c.rest.head? == some x

/-- The character `k` places ahead is `x`. -/
def seesAt (c : Cursor) (k : Nat) (x : Char) : Bool := c.rest[k]? == some x

def atBreak (c : Cursor) : Bool := c.rest.head?.any isBreak

/-- A space or a tab is next. -/
def atSpace (c : Cursor) : Bool := c.rest.head?.any isSpace

/-- A space, a line break or the end stands `k` places ahead. -/
def gapAt (c : Cursor) (k : Nat) : Bool := c.rest[k]?.all fun x => isSpace x || isBreak x

/-- Beyond the next character, which is no line break. -/
def skip (c : Cursor) : Cursor :=
  match c.rest with
  | [] => c
  | _ :: rest => { c with rest, column := c.column + 1, index := c.index + 1 }

/-- Beyond `k` characters. -/
def skips (c : Cursor) : Nat → Cursor
  | 0 => c
  | k + 1 => c.skip.skips k

/-- Beyond a line break, with the characters it stands for. -/
def skipBreak (c : Cursor) : List Char × Cursor :=
  let next (rest : List Char) (n : Nat) : Cursor := ⟨rest, c.line + 1, 0, c.index + n⟩
  match c.rest with
  | '\r' :: '\n' :: rest => (['\n'], next rest 2)
  | x :: rest =>
      if x == '\u2028' || x == '\u2029' then ([x], next rest 1)
      else (['\n'], next rest 1)
  | [] => ([], c)

/-- Beyond the characters that meet a condition and are no line breaks. -/
def skipWhile (p : Char → Bool) (c : Cursor) : Cursor :=
  let taken := c.rest.takeWhile fun x => p x && !isBreak x
  { c with
    rest := c.rest.drop taken.length
    column := c.column + taken.length
    index := c.index + taken.length }

/-- The start of the mark between documents, `---` or `...`, is next. -/
def atMark (c : Cursor) (x : Char) : Bool :=
  c.column == 0 && c.sees x && c.seesAt 1 x && c.seesAt 2 x && c.gapAt 3

def atAnyMark (c : Cursor) : Bool := c.atMark '-' || c.atMark '.'

/-- More steps than there are characters left. -/
def fuel (c : Cursor) : Nat := c.rest.length + 1

end Cursor

end GridQueue.Yaml
