/-
# `GridQueue.Json.Token` — the tokens of a JSON text

The lexer cuts a text into tokens and drops the white space between them.
It looks at one token at a time, so texts such as `truefalse` or `01`
pass here as two tokens; no value has two tokens in a row that could
stand so, and the next stage refuses them.
-/
import GridQueue.Json.Number

namespace GridQueue.Json

/-- A token of a JSON text. -/
inductive Token
  | openArr
  | closeArr
  | openObj
  | closeObj
  | comma
  | colon
  /-- a literal or a number -/
  | leaf (value : Json)
  /-- a text, none if its escapes name no character -/
  | text (s : Option String)

namespace Token

/-! ## Texts -/

/-- A part of a text: a character as it stands, or a code unit of 16
bits that is written as an escape. -/
inductive Piece
  | char (c : Char)
  | unit (n : Nat)

def hexDigit? (c : Char) : Option Nat :=
  if '0' ≤ c ∧ c ≤ '9' then some (c.toNat - '0'.toNat)
  else if 'a' ≤ c ∧ c ≤ 'f' then some (c.toNat - 'a'.toNat + 10)
  else if 'A' ≤ c ∧ c ≤ 'F' then some (c.toNat - 'A'.toNat + 10)
  else none

/-- The character after a backslash stands for this one. -/
def escaped? : Char → Option Char
  | '"' => some '"'
  | '\\' => some '\\'
  | '/' => some '/'
  | 'b' => some '\x08'
  | 'f' => some '\x0c'
  | 'n' => some '\n'
  | 'r' => some '\r'
  | 't' => some '\t'
  | _ => none

/-- The pieces up to the closing quote, and what follows it.  Control
characters do not stand in a text. -/
def pieces? : List Char → Option (List Piece × List Char)
  | [] => none
  | '"' :: rest => some ([], rest)
  | '\\' :: 'u' :: a :: b :: c :: d :: rest => do
      let a ← hexDigit? a
      let b ← hexDigit? b
      let c ← hexDigit? c
      let d ← hexDigit? d
      let (ps, rest) ← pieces? rest
      some (.unit (((a * 16 + b) * 16 + c) * 16 + d) :: ps, rest)
  | '\\' :: c :: rest => do
      let c ← escaped? c
      let (ps, rest) ← pieces? rest
      some (.char c :: ps, rest)
  | c :: rest => do
      if c = '\\' ∨ c.toNat < 0x20 then none
      else
        let (ps, rest) ← pieces? rest
        some (.char c :: ps, rest)

/-- The characters of a text, none if half a surrogate pair stands
alone. -/
def chars? : List Piece → Option (List Char)
  | [] => some []
  | .char c :: rest => (chars? rest).map (c :: ·)
  | .unit n :: .unit m :: rest =>
      if 0xd800 ≤ n ∧ n < 0xdc00 then
        if 0xdc00 ≤ m ∧ m < 0xe000 then
          (chars? rest).map (Char.ofNat (0x10000 + (n - 0xd800) * 0x400 + (m - 0xdc00)) :: ·)
        else none
      else if 0xdc00 ≤ n ∧ n < 0xe000 then none
      else (chars? (.unit m :: rest)).map (Char.ofNat n :: ·)
  | .unit n :: rest =>
      if 0xd800 ≤ n ∧ n < 0xe000 then none
      else (chars? rest).map (Char.ofNat n :: ·)

/-! ## Numbers -/

/-- The digits at the front, and what follows them. -/
def digits (cs : List Char) : List Nat × List Char :=
  ((cs.takeWhile Char.isDigit).map fun c => c.toNat - '0'.toNat, cs.dropWhile Char.isDigit)

/-- The digits before the point: a zero stands alone. -/
def whole? : List Char → Option (List Nat × List Char)
  | '0' :: rest => some ([0], rest)
  | cs =>
      match digits cs with
      | ([], _) => none
      | ds => some ds

/-- The digits after a point, at least one. -/
def fraction? : List Char → Option (Option (List Nat) × List Char)
  | '.' :: rest =>
      match digits rest with
      | ([], _) => none
      | (ds, rest) => some (some ds, rest)
  | cs => some (none, cs)

/-- The sign at the front: whether it is a minus. -/
def sign : List Char → Bool × List Char
  | '+' :: rest => (false, rest)
  | '-' :: rest => (true, rest)
  | cs => (false, cs)

/-- The power of ten, at least one digit. -/
def exponent? : List Char → Option (Option (Bool × List Nat) × List Char)
  | c :: rest =>
      if c = 'e' ∨ c = 'E' then
        let (negative, rest) := sign rest
        match digits rest with
        | ([], _) => none
        | (ds, rest) => some (some (negative, ds), rest)
      else some (none, c :: rest)
  | [] => some (none, [])

def numeral? (negative : Bool) (cs : List Char) : Option (Numeral × List Char) := do
  let (whole, cs) ← whole? cs
  let (fraction, cs) ← fraction? cs
  let (exponent, cs) ← exponent? cs
  some (⟨negative, whole, fraction, exponent⟩, cs)

/-! ## The lexer -/

def isSpace (c : Char) : Bool := c == ' ' || c == '\t' || c == '\n' || c == '\r'

def first? : List Char → Option (Token × List Char)
  | '[' :: rest => some (openArr, rest)
  | ']' :: rest => some (closeArr, rest)
  | '{' :: rest => some (openObj, rest)
  | '}' :: rest => some (closeObj, rest)
  | ',' :: rest => some (comma, rest)
  | ':' :: rest => some (colon, rest)
  | 'n' :: 'u' :: 'l' :: 'l' :: rest => some (leaf .null, rest)
  | 't' :: 'r' :: 'u' :: 'e' :: rest => some (leaf (.bool true), rest)
  | 'f' :: 'a' :: 'l' :: 's' :: 'e' :: rest => some (leaf (.bool false), rest)
  | '"' :: rest => do
      let (ps, rest) ← pieces? rest
      some (text ((chars? ps).map String.ofList), rest)
  | '-' :: rest => (numeral? true rest).map fun (n, rest) => (leaf n.value, rest)
  | cs => (numeral? false cs).map fun (n, rest) => (leaf n.value, rest)

/-- The tokens of a text, each at least one character long. -/
def scan : Nat → List Char → Option (List Token)
  | 0, cs => if cs.all isSpace then some [] else none
  | fuel + 1, cs =>
      match cs.dropWhile isSpace with
      | [] => some []
      | c :: rest => do
          let (t, rest) ← first? (c :: rest)
          let ts ← scan fuel rest
          some (t :: ts)

def ofText? (s : String) : Option (List Token) := scan s.length s.toList

end Token

end GridQueue.Json
