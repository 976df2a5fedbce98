/-
# `GridQueue.Store.Migration` — putting the schema in place

The schema comes in named parts.  A part is applied once, in a
transaction of its own, and recorded by its name in the same transaction.
Instances that start together take turns: each transaction first takes a
lock that the others wait for, and only then looks whether the part is
recorded.
-/
import GridQueue.Sql.Session
import GridQueue.Store.Schema

namespace GridQueue

open Sql

/-- A named part of the schema. -/
structure Migration where
  name : String
  statements : List Statement

namespace Migration

def toText (m : Migration) : String := sepBy "; " (m.statements.map Statement.toText)

/-- The parts in the order in which they are applied: each table, then
the indexes. -/
def all : List Migration :=
  let tables := ["0001_queue", "0002_queue_heartbeat", "0003_waiting_aggregate",
    "0004_priority_quota", "0005_site_queue", "0006_job_trace", "0007_task_markers"]
  tables.zipWith (fun name l => ⟨name, [.createTable l]⟩) Schema.tables
    ++ [⟨"0008_indexes", Schema.indexes.map .createIndex⟩]

/-- The number of the lock that is held while a part is applied. -/
def lockKey : Int := 0x6772696462726b72

/-- Whether a part with this name is recorded. -/
def recorded : Statement :=
  .ofSelect
    { outputs := [⟨.column "" "name", ""⟩]
      source := ⟨"_migrations", ""⟩
      condition := some (.compare .eq (.column "" "name") (.param 1)) }

def record : Statement :=
  .ofInsert { table := "_migrations", columns := ["name"], supply := .values [.param 1] }

/-- The parts that are recorded, and when they were applied. -/
def listRecorded : Statement :=
  .ofSelect
    { outputs := [⟨.column "" "name", ""⟩, ⟨.column "" "applied_at", ""⟩]
      source := ⟨"_migrations", ""⟩
      order := [(.column "" "name", .implicit)] }

/-! ## Applying -/

abbrev Applying := Attempt MigrationError

/-- Sends a statement without parameters or with one. -/
def tell (s : Statement) (params : List Value := []) : Applying Reply :=
  Attempt.send .database s params

/-- Sees to it that parts can be recorded. -/
def prepare : Applying Unit := do
  let _ ← tell (.createTable Schema.migrationRecord)

/-- Sends the statements of a part; a failure names the part. -/
def applyStatements (name : String) : List Statement → Applying Unit
  | [] => pure ()
  | s :: rest => do
      let _ ← Attempt.send (fun e => .failed name e.message) s []
      applyStatements name rest

/-- Applies a part unless it is recorded; whether it was applied. -/
def apply (m : Migration) : Applying Bool := do
  Attempt.begin .database
  let _ ← tell .lock [.int lockKey]
  let found ← tell recorded [.text m.name]
  if found.rows.isEmpty then
    applyStatements m.name m.statements
    let _ ← tell record [.text m.name]
    Attempt.commit .database
    return true
  else
    Attempt.rollback .database
    return false

/-- Applies the parts of a list that are not recorded; the names of those
that were applied. -/
def applyAll : List Migration → Applying (List String)
  | [] => return []
  | m :: rest => do
      let isNew ← m.apply
      let names ← applyAll rest
      return if isNew then m.name :: names else names

/-- Puts the schema in place; the names of the parts that were missing. -/
def run : Applying (List String) := do
  prepare
  applyAll all

/-! ## Looking back -/

/-- A part that is in place. -/
structure Applied where
  name : String
  appliedAt : Instant
  deriving DecidableEq

def Applied.ofRow? (r : Row) : Option Applied := do
  some ⟨← (r.get "name").text?, ← (r.get "applied_at").time?⟩

/-- The parts that are in place, by name. -/
def applied : Applying (List Applied) := do
  prepare
  let reply ← tell listRecorded
  match reply.rows.mapM Applied.ofRow? with
  | some l => return l
  | none => throw (.database (.decode "unexpected type"))

end Migration

end GridQueue
