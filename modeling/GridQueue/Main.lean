/-
# `GridQueue.Main` — the command line tool

Reads the arguments, the environment and the site directory's file,
carries out the command, and prints how it ended.  The tool is linked
without a client for the database, so connecting fails; what a command
does once it is connected is `GridQueue.CommandLine.Run`.
-/
import GridQueue.CommandLine.Run
import GridQueue.CommandLine.Usage

namespace GridQueue.Tool

open CommandLine

/-- The name of a process that does not know its host. -/
def processName : IO String := do
  match ← (IO.FS.readFile "/proc/self/stat").toBaseIO with
  | .ok text => return "broker-" ++ String.ofList (text.toList.takeWhile (· != ' '))
  | .error _ => return "broker"

/-- The variables of the environment that the tool knows. -/
def environment : IO (List (String × String)) := do
  let names := "DATABASE_URL" :: "HOSTNAME" :: Config.known.map (·.name)
  let values ← names.mapM fun n => do return (n, ← IO.getEnv n)
  return values.filterMap fun (n, v) => v.map (n, ·)

/-- The file of the site directory, if one is named. -/
def siteFile (path : Option String) : IO (Except String String) := do
  match path with
  | none => return .error "no file is named"
  | some path =>
      match ← (IO.FS.readFile path).toBaseIO with
      | .ok text => return .ok text
      | .error e => return .error (toString e)

/-- Prints how a command ended; the exit code. -/
def finish : Ending → IO UInt32
  | .printed lines => do
      lines.forM IO.println
      return 0
  | .serving _ => return 0
  | .failed message => do
      IO.eprintln ("Error: " ++ message)
      return 1

/-- Carries out a command line that was understood. -/
def carryOut (i : Invocation) : IO UInt32 := do
  let values ← environment
  let value? (name : String) := List.lookup name values
  let text ← siteFile (value? "BROKER_SITE_DIRECTORY")
  let host : Host :=
    { file := fun _ => text, connect := fun _ => .error (.io "no database client is linked") }
  match i.run host value? (← processName) with
  | .done ending => finish ending
  | .call _ _ => finish (.failed "no client is linked")

end GridQueue.Tool

def main (args : List String) : IO UInt32 := do
  match GridQueue.CommandLine.Invocation.ofWords args with
  | .ok i => GridQueue.Tool.carryOut i
  | .error e => do
      e.lines.forM (if e.isRequest then IO.println else IO.eprintln)
      return if e.isRequest then 0 else 2
