/-
# `GridQueue.Yaml.Block` — scalars that keep or fold their lines

A literal scalar keeps its line breaks; a folded one joins lines that are
not indented further.  An indicator says what becomes of the breaks at
the end: all are kept, one is, or none.

    |     the lines as they are, one break at the end
    >-    folded lines, no break at the end
    |2+   the lines without two blanks in front, all breaks

Without a digit the first line that is not empty says how deep the scalar
is indented.
-/
import GridQueue.Yaml.Cursor

namespace GridQueue.Yaml

/-- What becomes of the line breaks at the end. -/
inductive Chomp
  | strip
  | clip
  | keep
  deriving DecidableEq

/-- What follows the indicator of a block scalar. -/
structure BlockHeader where
  chomp : Chomp := .clip
  /-- The indent relative to what the scalar belongs to, if it is given. -/
  indent : Option Nat := none

/-- The sign for the breaks at the end. -/
def chompSign? : Char → Option Chomp
  | '+' => some .keep
  | '-' => some .strip
  | _ => none

def indentDigit? (x : Char) : Option Nat :=
  if '1' ≤ x ∧ x ≤ '9' then some (x.toNat - '0'.toNat) else none

/-- Reads the header: sign and digit in either order. -/
def blockHeader (c : Cursor) : BlockHeader × Cursor :=
  match c.peek?.bind chompSign?, c.peek?.bind indentDigit? with
  | some chomp, _ =>
      let c := c.skip
      match c.peek?.bind indentDigit? with
      | some n => (⟨chomp, some n⟩, c.skip)
      | none => (⟨chomp, none⟩, c)
  | none, some n =>
      let c := c.skip
      match c.peek?.bind chompSign? with
      | some chomp => (⟨chomp, some n⟩, c.skip)
      | none => (⟨.clip, some n⟩, c)
  | none, none => ({}, c)

/-- Empty lines: their breaks, the widest indent among them, and the place
after.  Without an indent given any spaces belong to the indent. -/
def emptyLines (indent : Option Nat) :
    Nat → List Char → Nat → Cursor → Option (List Char × Nat × Cursor)
  | 0, breaks, widest, c => some (breaks, widest, c)
  | fuel + 1, breaks, widest, c =>
      let room := match indent with
        | some n => n - c.column
        | none => c.rest.length
      let c := c.skips ((c.rest.takeWhile (· == ' ')).take room).length
      let widest := max widest c.column
      if indent.all (fun n => decide (c.column < n)) && c.sees '\t' then none
      else if c.atBreak then
        let (b, c) := c.skipBreak
        emptyLines indent fuel (breaks ++ b) widest c
      else some (breaks, widest, c)

/-- The lines of a scalar after the first break: `pending` is the break of
the line before, `breaks` are those of the empty lines after it. -/
def blockLines (literal : Bool) (indent : Nat) :
    Nat → List Char → List Char → List Char → Bool → Cursor →
      Option (List Char × List Char × List Char × Cursor)
  | 0, text, pending, breaks, _, c => some (text, pending, breaks, c)
  | fuel + 1, text, pending, breaks, wasIndented, c =>
      if c.column ≠ indent ∨ c.rest.isEmpty then some (text, pending, breaks, c)
      else do
        let isIndented := c.atSpace
        let joined :=
          if !literal && pending == ['\n'] && !wasIndented && !isIndented then
            if breaks.isEmpty then [' '] else []
          else pending
        let line := c.rest.takeWhile fun x => !isBreak x
        let text := text ++ joined ++ breaks ++ line
        let (b, c) := (c.skipWhile fun _ => true).skipBreak
        let (breaks, _, c) ← emptyLines (some indent) c.fuel [] 0 c
        blockLines literal indent fuel text b breaks isIndented c

/-- A block scalar whose indicator was passed, within a block indented by
`parent`, negative at the top. -/
def blockScalar (literal : Bool) (parent : Int) (c : Cursor) : Option (List Char × Cursor) := do
  let (header, c) := blockHeader c
  let c := c.skipWhile isSpace
  let c := if c.sees '#' then c.skipWhile fun _ => true else c
  if !c.atBreak && !c.rest.isEmpty then none
  else
    let c := if c.atBreak then c.skipBreak.2 else c
    let given := header.indent.map fun n => (max parent 0).toNat + n
    let (breaks, widest, c) ← emptyLines given c.fuel [] 0 c
    let indent := given.getD (max widest (max (parent + 1) 1).toNat)
    let (text, pending, breaks, c) ← blockLines literal indent c.fuel [] [] breaks false c
    let ending := match header.chomp with
      | .strip => []
      | .clip => pending
      | .keep => pending ++ breaks
    some (text ++ ending, c)

end GridQueue.Yaml
