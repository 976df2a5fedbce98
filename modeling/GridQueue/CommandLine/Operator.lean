/-
# `GridQueue.CommandLine.Operator` — what an operator can ask for

The commands of the tool, the flags of each, and how a command line names
one.  The log level can be given before or after the command, and the
later one counts.
-/
import GridQueue.CommandLine.Grammar

namespace GridQueue.CommandLine

/-- What an operator asks for. -/
inductive Operator
  | serve (noFrontDoor : Bool)
  | migrate
  | sweep (force json : Bool)
  /-- The table of fair shares. -/
  | priorities (all json : Bool)
  /-- A new batch of weights. -/
  | priorityCalc (all json : Bool)
  | blockQueue (ce : String) (unblock : Bool)
  /-- One command of the front door, as text. -/
  | dispatch (command : String)
  deriving DecidableEq

def Operator.name : Operator → String
  | serve _ => "serve"
  | migrate => "migrate"
  | sweep .. => "sweep"
  | priorities .. => "priorities"
  | priorityCalc .. => "priority-calc"
  | blockQueue .. => "block-queue"
  | dispatch _ => "dispatch"

/-- A command line that was understood. -/
structure Invocation where
  logLevel : String
  operator : Operator
  deriving DecidableEq

def sharedFlags : List Flag :=
  [⟨"log-level", some 'l', .value, false⟩, ⟨"help", some 'h', .help, false⟩]

def outermost : Level :=
  { flags := sharedFlags ++ [⟨"version", some 'V', .version, false⟩]
    commands := ["serve", "migrate", "sweep", "priorities", "priority-calc", "block-queue",
      "dispatch", "help"] }

def mark (name : String) : Flag := ⟨name, none, .mark, false⟩

def ownFlags : String → List Flag
  | "serve" => [mark "no-front-door"]
  | "sweep" => [mark "force", mark "json"]
  | "priorities" | "priority-calc" => [mark "all", mark "json"]
  | "block-queue" => [⟨"ce", none, .value, true⟩, mark "unblock"]
  | _ => []

def levelOf (name : String) : Level :=
  { flags := sharedFlags ++ ownFlags name, takesOperand := name == "dispatch" }

/-- The command with a name, from what its level has brought. -/
def Operator.ofReading (name : String) (r : Reading) : Operator :=
  match name with
  | "serve" => .serve (r.has "no-front-door")
  | "sweep" => .sweep (r.has "force") (r.has "json")
  | "priorities" => .priorities (r.has "all") (r.has "json")
  | "priority-calc" => .priorityCalc (r.has "all") (r.has "json")
  | "block-queue" => .blockQueue ((r.value? "ce").getD "") (r.has "unblock")
  | "dispatch" => .dispatch (r.operand.getD "")
  | _ => .migrate

def defaultLogLevel : String := "info"

/-- Reads the words of a command line, the tool's own name left out. -/
def Invocation.ofWords (words : List String) : Except UsageError Invocation := do
  let (outer, name, inner) ← outermost.readBoth levelOf words
  let logLevel := (inner.value? "log-level").or (outer.value? "log-level")
  return ⟨logLevel.getD defaultLogLevel, .ofReading name inner⟩

end GridQueue.CommandLine
