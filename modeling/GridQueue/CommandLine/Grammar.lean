/-
# `GridQueue.CommandLine.Grammar` — reading the words of a command line

A command line is read level by level.  A level knows its flags, whether
it takes an operand, and the commands one of which opens the next level:

    tool --flag value command --other-flag operand

A flag with a value takes it from its own word (`--flag=value`, `-fvalue`,
`-f=value`) or else from the next word, which may then be the name of a
command but no flag.  Single letters can be written together.  After `--`
every word is an operand.  A flag is given at most once per level.

A flag whose value is still to come is *settled* by the next word that is
not its value; only then do a missing value and a second use show.
-/

namespace GridQueue.CommandLine

/-- Why a command line is refused, or what is shown in its place. -/
inductive UsageError
  | help
  | version
  /-- Nothing was given where a command is needed. -/
  | nothingGiven
  | missingCommand
  | unknownCommand
  | unknownArgument
  | missingRequired
  | missingValue
  | repeated
  | unexpectedValue
  deriving DecidableEq

/-- What a flag does. -/
inductive Flag.Role
  | mark
  | value
  | help
  | version
  deriving DecidableEq

/-- A flag of a level. -/
structure Flag where
  long : String
  short : Option Char := none
  role : Flag.Role := .mark
  required : Bool := false
  deriving DecidableEq

/-- What can stand at a level. -/
structure Level where
  flags : List Flag
  /-- The level takes exactly one operand. -/
  takesOperand : Bool := false
  /-- The names that open the next level. -/
  commands : List String := []

/-! ## Words -/

/-- How a word is written. -/
inductive Word
  /-- The word `--`. -/
  | escape
  /-- A flag by its long name, perhaps with a value. -/
  | long (name : String) (value : Option String)
  /-- Flags by their letters. -/
  | letters (cs : List Char)
  | plain
  deriving DecidableEq

def Word.ofChars : List Char → Word
  | ['-', '-'] => .escape
  | '-' :: '-' :: rest =>
      .long (String.ofList (rest.takeWhile (· != '=')))
        (match rest.dropWhile (· != '=') with
          | [] => none
          | _ :: value => some (String.ofList value))
  | '-' :: c :: rest => .letters (c :: rest)
  | _ => .plain

def Word.ofText (w : String) : Word := .ofChars w.toList

/-! ## One level -/

/-- What the words of a level have brought so far. -/
structure Reading where
  /-- The flags given, with their values, latest first. -/
  given : List (String × Option String) := []
  /-- The flag that was read last and whose value may still come. -/
  pending : Option (Flag × Option String) := none
  operand : Option String := none
  /-- The word `--` was read. -/
  onlyOperands : Bool := false

namespace Reading

def has (r : Reading) (name : String) : Bool := r.given.any fun g => g.1 == name

def value? (r : Reading) (name : String) : Option String := (r.given.lookup name).join

/-- The next word is the value of a flag. -/
def awaitsValue (r : Reading) : Bool :=
  match r.pending with
  | some (_, none) => !r.onlyOperands
  | _ => false

def give (r : Reading) (f : Flag) (value : Option String) : Except UsageError Reading :=
  if r.has f.long then .error .repeated
  else .ok { r with given := (f.long, value) :: r.given }

/-- The value of the last flag is there or is missing. -/
def settle (r : Reading) : Except UsageError Reading :=
  match r.pending with
  | none => .ok r
  | some (_, none) => .error .missingValue
  | some (f, value) => give { r with pending := none } f value

/-- A flag that was written with a value in its own word. -/
def giveAttached (r : Reading) (f : Flag) (value : String) : Except UsageError Reading := do
  (← r.settle).give f (some value)

/-- A flag whose value is to be the next word. -/
def awaitValue (r : Reading) (f : Flag) : Except UsageError Reading := do
  return { ← r.settle with pending := some (f, none) }

def giveMark (r : Reading) (f : Flag) : Except UsageError Reading := do
  let r ← r.settle
  match f.role with
  | .help => .error .help
  | .version => .error .version
  | _ => r.give f none

end Reading

namespace Level

/-- Reads a flag that is written by its long name. -/
def readLong (l : Level) (r : Reading) (name : String) (value : Option String) :
    Except UsageError Reading :=
  match l.flags.find? (·.long == name) with
  | none => .error .unknownArgument
  | some f =>
      match f.role, value with
      | .value, some v => r.giveAttached f v
      | .value, none => r.awaitValue f
      | _, some _ => .error .unexpectedValue
      | _, none => r.giveMark f

/-- Reads flags that are written by their letters; the first one that
takes a value has the rest of the word for it. -/
def readLetters (l : Level) (r : Reading) : List Char → Except UsageError Reading
  | [] => .ok r
  | c :: rest =>
      match l.flags.find? (·.short == some c) with
      | none => .error .unknownArgument
      | some f =>
          if f.role = .value then
            match rest with
            | [] => r.awaitValue f
            | '=' :: value => r.giveAttached f (String.ofList value)
            | value => r.giveAttached f (String.ofList value)
          else do l.readLetters (← r.giveMark f) rest

/-- What is wrong with an operand that the level has no place for. -/
def stray (l : Level) (r : Reading) (w : String) : UsageError :=
  if l.commands.isEmpty || r.onlyOperands && l.commands.contains w then .unknownArgument
  else .unknownCommand

def readOperand (l : Level) (r : Reading) (w : String) : Except UsageError Reading :=
  if l.takesOperand && r.operand.isNone then do return { ← r.settle with operand := some w }
  else .error (l.stray r w)

/-- Reads a word that opens no further level. -/
def readWord (l : Level) (r : Reading) (w : String) : Except UsageError Reading :=
  if r.onlyOperands then l.readOperand r w
  else
    match Word.ofText w with
    | .escape => .ok { r with onlyOperands := true }
    | .long name value => l.readLong r name value
    | .letters cs => l.readLetters r cs
    | .plain =>
        match r.pending with
        | some (f, none) => .ok { r with pending := some (f, some w) }
        | _ => l.readOperand r w

def opens (l : Level) (r : Reading) (w : String) : Bool :=
  !r.onlyOperands && !r.awaitsValue && l.commands.contains w

/-- Reads words up to one that opens the next level, which is returned
with the words after it. -/
def read (l : Level) (r : Reading) :
    List String → Except UsageError (Reading × Option (String × List String))
  | [] => .ok (r, none)
  | w :: rest =>
      if l.opens r w then .ok (r, some (w, rest))
      else do l.read (← l.readWord r w) rest

/-- Everything that the level needs was given. -/
def isComplete (l : Level) (r : Reading) : Bool :=
  l.flags.all (fun f => !f.required || r.has f.long) && (!l.takesOperand || r.operand.isSome)

/-- Reads the words of a level that opens no other. -/
def readAll (l : Level) (words : List String) : Except UsageError Reading := do
  let r ← (← l.read {} words).1.settle
  if l.isComplete r then .ok r else .error .missingRequired

/-! ## Two levels -/

/-- What `help` with further words asks for: at most one command, which
has no commands of its own. -/
def helpOn (l : Level) : List String → UsageError
  | [] => .help
  | [w] => if l.commands.contains w then .help else .unknownCommand
  | _ => .unknownCommand

/-- Reads the words of a level that must open another, found by its name.
What is wrong with the inner level is reported before a flag of the outer
one that was left unsettled. -/
def readBoth (outer : Level) (inner : String → Level) (words : List String) :
    Except UsageError (Reading × String × Reading) := do
  let (r, opened) ← outer.read {} words
  match opened with
  | some ("help", rest) => .error (outer.helpOn rest)
  | some (name, rest) =>
      let s ← (inner name).readAll rest
      return (← r.settle, name, s)
  | none =>
      let r ← r.settle
      .error (if r.given.isEmpty then .nothingGiven else .missingCommand)

end Level

end GridQueue.CommandLine
