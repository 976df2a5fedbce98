/-
# `GridQueue.CommandLine.Usage` — help, and what is said of a wrong command line

Help and the version are what was asked for.  Anything else is a mistake,
and is answered in one line that says what kind of mistake it is and not
where; only where nothing was given at all there is the help again.
-/
import GridQueue.CommandLine.Operator

namespace GridQueue.CommandLine

/-- The name of the tool and its version. -/
def versionText : String := "grid-broker 0.1.0"

def summary : String → String
  | "serve" => "Run the broker: command workers, liveness sweep and priority batch"
  | "migrate" => "Apply pending database migrations"
  | "sweep" => "Run one liveness sweep"
  | "priorities" => "Show the per-user priority table"
  | "priority-calc" => "Recompute userload and computed priority for every user"
  | "block-queue" => "Block or unblock a CE's queue"
  | "dispatch" => "Run a single front-door command given as JSON"
  | _ => "Print this message"

def helpText : List String :=
  ["Match grid agents to queued jobs, keep fair-share priorities and reclaim lost jobs", "",
   "Usage: grid-broker [OPTIONS] <COMMAND>", "", "Commands:"]
    ++ outermost.commands.map fun c => "  " ++ c ++ ": " ++ summary c

def UsageError.message : UsageError → String
  | help | version | nothingGiven => ""
  | missingCommand => "a command is required but none was given"
  | unknownCommand => "unrecognized command"
  | unknownArgument => "unexpected argument"
  | missingRequired => "a required argument was not given"
  | missingValue => "a value is required but none was given"
  | repeated => "an argument cannot be used multiple times"
  | unexpectedValue => "a value was given where none is expected"

/-- What is shown for a command line that was not understood. -/
def UsageError.lines : UsageError → List String
  | help | nothingGiven => helpText
  | version => [versionText]
  | e => ["error: " ++ e.message]

/-- Showing this was what the command line asked for. -/
def UsageError.isRequest : UsageError → Bool
  | help | version => true
  | _ => false

end GridQueue.CommandLine
