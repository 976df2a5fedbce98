/-
# `GridQueue.CommandLine.Run` — carrying out what an operator asks for

The configuration is read first.  Commands that only need the job store
then connect to its database.  Serving and dispatching need all
collaborators: the token service must be configured and the site
directory readable before the database is connected to; the text of a
command to dispatch is read before any of that.
-/
import GridQueue.CommandLine.Operator
import GridQueue.CommandLine.Report
import GridQueue.Command.Dispatch
import GridQueue.Config
import GridQueue.FairShare.Batch
import GridQueue.Json.Parser
import GridQueue.Liveness
import GridQueue.Service.Backend
import GridQueue.Site.File

namespace GridQueue.CommandLine

/-- What the process finds when it starts. -/
structure Host where
  /-- The contents of a file, or why it cannot be read. -/
  file : String → Except String String
  /-- Whether the database of an address can be reached. -/
  connect : String → Except DatabaseError Unit

/-- How a command of the tool ends. -/
inductive Ending
  | printed (lines : List String)
  /-- The process serves until it is interrupted. -/
  | serving (readsLines : Bool)
  | failed (message : String)

namespace Ending

/-- The lines of a result, or the message of its error. -/
def ofResult {ε α : Type} (message : ε → String) (lines : α → List String) :
    Except ε α → Ending
  | .ok a => printed (lines a)
  | .error e => failed (message e)

end Ending

/-- Connects to the database of the configuration. -/
def connect (h : Host) (c : Config) : Except String Unit :=
  match h.connect c.databaseUrl with
  | .ok () => .ok ()
  | .error e => .error (StoreError.ofConnecting e).message

/-- Reads the site directory of the configuration; none is configured if
no site has requirements. -/
def directory (h : Host) (c : Config) : Except DirectoryError Site.Directory :=
  match c.siteDirectory with
  | none => .ok []
  | some path =>
      match h.file path with
      | .error reason => .error (.load path reason)
      | .ok text =>
          match Site.Directory.ofText? text with
          | some d => .ok d
          | none => .error (.load path (DirectoryError.yaml "unreadable site directory").message)

/-- The collaborators when only the job store is needed. -/
def storeOnly (h : Host) (c : Config) : Except String Backend := do
  connect h c
  return { timeouts := c.timeouts, tokens := .ofUrl "", directory := [] }

def allOf (h : Host) (c : Config) : Except String Backend := do
  let url ← match c.tokenServiceUrl with
    | some url => .ok url
    | none => .error (ConfigError.missing "BROKER_TOKEN_SERVICE_URL").message
  let directory ← (directory h c).mapError DirectoryError.message
  connect h c
  return { timeouts := c.timeouts, tokens := .ofUrl url, directory }

def withBackend (b : Except String Backend) (f : Backend → Process Ending) : Process Ending :=
  match b with
  | .ok b => f b
  | .error message => pure (.failed message)

/-- Carries out a program of the broker and reports its result. -/
def report {ε α : Type} (b : Backend) (p : Action (Except ε α)) (message : ε → String)
    (lines : α → List String) : Process Ending := do
  return .ofResult message lines (← b.run p)

/-- Puts the schema in place and lists its parts. -/
def migrate : Process Ending := do
  match ← Process.talk Migration.run.run with
  | .error e => return .failed (StoreError.migration e).message
  | .ok new =>
      match ← Process.talk Migration.applied.run with
      | .error e => return .failed (StoreError.migration e).message
      | .ok applied => return .printed (migrationLines new applied)

/-- The users a table or a batch is about. -/
def scopeOf (all : Bool) : Scope := if all then .all else .activeOnly

/-- A sweep, forced or in turn with other instances. -/
def sweepOf (c : Config) (force : Bool) : Action (Except StoreError Liveness.Report) :=
  if force then do Liveness.sweep c.liveness (← Action.now)
  else Liveness.cycle c.liveness c.instanceName

/-- Carries out a command of the tool. -/
def Operator.run (h : Host) (c : Config) : Operator → Process Ending
  | .serve noFrontDoor => withBackend (allOf h c) fun _ => pure (.serving !noFrontDoor)
  | .migrate => withBackend (storeOnly h c) fun _ => CommandLine.migrate
  | .sweep force json => withBackend (storeOnly h c) fun b =>
      report b (sweepOf c force) StoreError.message (sweepLines json)
  | .priorities all json => withBackend (storeOnly h c) fun b =>
      report b (Action.store (.priorityRecords (scopeOf all))) StoreError.message
        fun (records : List FairShare.Record) => shareLines json records
  | .priorityCalc all json => withBackend (storeOnly h c) fun b =>
      report b (FairShare.batch (scopeOf all)) StoreError.message (batchLines json)
  | .blockQueue ce unblock => withBackend (storeOnly h c) fun b =>
      report b (Action.store (.setQueueBlocked ce !unblock)) StoreError.message
        fun (_ : Unit) => queueLines ce !unblock
  | .dispatch text =>
      match (Json.ofText? text).bind (Command.ofJson? false) with
      | none => pure (.failed "Invalid command JSON")
      | some command => withBackend (allOf h c) fun b =>
          report b (command.dispatch c.broker) CommandError.message responseLines

/-- Carries out a command line: the environment is read as configuration
before anything else is done. -/
def Invocation.run (h : Host) (setting? : String → Option String) (processName : String)
    (i : Invocation) : Process Ending :=
  match Config.ofEnv setting? processName with
  | .error e => pure (.failed e.message)
  | .ok c => i.operator.run h c

end GridQueue.CommandLine
