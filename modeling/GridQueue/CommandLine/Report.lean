/-
# `GridQueue.CommandLine.Report` — what the tool prints

The lines that each command of the tool prints when it is done.
-/
import GridQueue.Decimal.Fixed
import GridQueue.Json.Printer
import GridQueue.Store.Migration
import GridQueue.Text.Column
import GridQueue.Time.Text
import GridQueue.Wire.Aggregate
import GridQueue.Wire.Command
import GridQueue.Wire.Report

namespace GridQueue.CommandLine

open Text

/-- A value as JSON, spread over lines. -/
def jsonLines (j : Json) : List String := j.renderSpread.splitOn "\n"

/-- The parts of the schema that are in place, the new ones marked. -/
def migrationLines (new : List String) (applied : List Migration.Applied) : List String :=
  applied.map (fun a =>
      (if new.contains a.name then "new" else "   ") ++ " " ++ a.name ++ "  "
        ++ a.appliedAt.offsetText)
    ++ ["Applied " ++ toString new.length ++ " migration(s)"]

def sweepLines (json : Bool) (r : Liveness.Report) : List String :=
  if json then jsonLines r.toJson
  else ["Liveness sweep: " ++ toString r.moved ++ " job(s) moved"]

/-- A row of the table of fair shares. -/
def shareRow (user priority running maxParallel userload weight : String) : String :=
  String.intercalate " "
    [alignLeft 20 user, alignRight 10 priority, alignRight 8 running, alignRight 10 maxParallel,
     alignRight 10 userload, alignRight 12 weight]

def shareLines (json : Bool) (records : List FairShare.Record) : List String :=
  if json then jsonLines (.arr (records.map FairShare.Record.toJson))
  else
    shareRow "USER" "PRIORITY" "RUNNING" "MAX" "USERLOAD" "COMPUTED"
      :: records.map fun r =>
        shareRow r.user (Decimal.fixed 2 r.usage.priority) (toString r.usage.running)
          (toString r.usage.maxParallel) (Decimal.fixed 3 r.userload) (Decimal.fixed 2 r.weight)

def batchLines (json : Bool) (r : FairShare.BatchReport) : List String :=
  if json then jsonLines r.toJson
  else
    ["Updated " ++ toString r.updated ++ " of " ++ toString r.rows ++ " user(s), "
      ++ toString r.failed ++ " failed, " ++ toString r.overQuota ++ " over quota"]

/-- The state of a queue after it was blocked or opened. -/
def queueLines (ce : String) (blocked : Bool) : List String :=
  ["Queue of " ++ ce ++ " is now " ++ (if blocked then "blocked" else "open")]

/-- The response to a command of the front door. -/
def responseLines (r : Response) : List String := jsonLines r.toJson

end GridQueue.CommandLine
