/-
# `GridQueue.Json.Printer` — writing JSON values

The compact form has no white space; the spread form puts every item on
its own line, two spaces deeper than what holds it.

    compact    spread
    {"a":[1]}  {
                 "a": [
                   1
                 ]
               }

Floats are written with the fewest digits that read back as the same
float, and those that are no numbers as null.
-/
import GridQueue.Decimal.Layout
import GridQueue.Json.Basic

namespace GridQueue.Json

/-- Floats in JSON keep a digit after the point and are positional below
10^16 and from 10^-5 on; what is no number is null. -/
def numberLayout : Decimal.Layout :=
  { maxWhole := some 16
    maxZeros := some 4
    keepFraction := true
    tie := .toEven
    infinity := "null"
    notANumber := "null" }

def renderFloat (x : Float) : String :=
  if x.isFinite then numberLayout.render x else "null"

def hexDigit (n : Nat) : Char := Nat.digitChar (n % 16)

def escape (c : Char) : List Char :=
  match c with
  | '"' => ['\\', '"']
  | '\\' => ['\\', '\\']
  | '\x08' => ['\\', 'b']
  | '\x0c' => ['\\', 'f']
  | '\n' => ['\\', 'n']
  | '\r' => ['\\', 'r']
  | '\t' => ['\\', 't']
  | c =>
      if c.toNat < 0x20 then
        ['\\', 'u', '0', '0', hexDigit (c.toNat / 16), hexDigit c.toNat]
      else [c]

def renderText (s : String) : String :=
  String.ofList ('"' :: (s.toList.flatMap escape ++ ['"']))

mutual

def render : Json → String
  | null => "null"
  | bool true => "true"
  | bool false => "false"
  | int n => toString n
  | float x => renderFloat x
  | str s => renderText s
  | arr items => "[" ++ String.intercalate "," (renderItems items) ++ "]"
  | obj members => "\x7b" ++ String.intercalate "," (renderMembers members) ++ "\x7d"
  | unreadable => "null"

def renderItems : List Json → List String
  | [] => []
  | j :: rest => render j :: renderItems rest

def renderMembers : List (String × Json) → List String
  | [] => []
  | (k, j) :: rest => (renderText k ++ ":" ++ render j) :: renderMembers rest

end

/-- A line break and the indent of a level. -/
def newline (level : Nat) : String :=
  String.ofList ('\n' :: List.replicate (2 * level) ' ')

/-- Puts parts on lines of their own between two brackets. -/
def bracket (opening closing : String) (level : Nat) (parts : List String) : String :=
  if parts.isEmpty then opening ++ closing
  else
    opening ++ newline (level + 1)
      ++ String.intercalate ("," ++ newline (level + 1)) parts
      ++ newline level ++ closing

mutual

/-- The spread form of a value that stands at a level. -/
def renderAt (level : Nat) : Json → String
  | null => "null"
  | bool true => "true"
  | bool false => "false"
  | int n => toString n
  | float x => renderFloat x
  | str s => renderText s
  | arr items => bracket "[" "]" level (renderItemsAt (level + 1) items)
  | obj members => bracket "\x7b" "\x7d" level (renderMembersAt (level + 1) members)
  | unreadable => "null"

def renderItemsAt (level : Nat) : List Json → List String
  | [] => []
  | j :: rest => renderAt level j :: renderItemsAt level rest

def renderMembersAt (level : Nat) : List (String × Json) → List String
  | [] => []
  | (k, j) :: rest =>
      (renderText k ++ ": " ++ renderAt level j) :: renderMembersAt level rest

end

def renderSpread (j : Json) : String := renderAt 0 j

end GridQueue.Json
