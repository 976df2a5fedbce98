/-
# `GridQueue.Sql.Statement` — what is sent to a database

A query is a chain of named parts and a last one; each part selects,
updates or inserts rows, and can use the rows the parts before it
returned.  Besides queries there are statements that create tables and
indexes, and one that waits for a lock which other transactions respect.
-/
import GridQueue.Sql.Layout

namespace GridQueue.Sql

/-- A table or an earlier part, with the name it goes by. -/
structure Source where
  table : String
  called : String := ""
  deriving DecidableEq

def Source.name (s : Source) : String := if s.called = "" then s.table else s.called

def Source.toText (s : Source) : String :=
  if s.called = "" then s.table else s.table ++ " " ++ s.called

/-- A column of the rows that are returned. -/
structure Output where
  value : Expr
  called : String := ""

def Output.name (o : Output) : String :=
  if o.called = "" then
    match o.value with
    | .column _ name => name
    | _ => ""
  else o.called

def Output.toText (o : Output) : String :=
  if o.called = "" then o.value.toText else o.value.toText ++ " AS " ++ o.called

/-- Which way rows are sorted; without a word they ascend. -/
inductive Direction
  | implicit
  | asc
  | desc
  deriving DecidableEq

def Direction.toText : Direction → String
  | implicit => ""
  | asc => " ASC"
  | desc => " DESC"

/-- The order of two values in this direction. -/
def Direction.order (d : Direction) (o : Ordering) : Ordering :=
  match d with
  | implicit | asc => o
  | desc => o.swap

/-- How rows that are read are kept from others until the transaction
ends. -/
inductive Locking
  | none
  | wait
  /-- Rows that others hold are left out. -/
  | skip
  deriving DecidableEq

def Locking.toText : Locking → String
  | none => ""
  | wait => " FOR UPDATE"
  | skip => " FOR UPDATE SKIP LOCKED"

/-- Rows that are looked up. -/
structure Select where
  outputs : List Output
  source : Source
  /-- A second source, whose rows are joined where the condition holds;
  a row without a partner stays, with nulls in its place. -/
  join : Option (Source × Expr) := none
  condition : Option Expr := none
  order : List (Expr × Direction) := []
  limit : Option Nat := none
  locking : Locking := .none

def sepBy (separator : String) (pieces : List String) : String :=
  String.intercalate separator pieces

def clause (keyword : String) : Option Expr → String
  | some e => " " ++ keyword ++ " " ++ e.toText
  | none => ""

def Select.toText (s : Select) : String :=
  "SELECT " ++ sepBy ", " (s.outputs.map Output.toText) ++ " FROM " ++ s.source.toText
    ++ (match s.join with
        | some (t, on) => " LEFT JOIN " ++ t.toText ++ " ON " ++ on.toText
        | none => "")
    ++ clause "WHERE" s.condition
    ++ (if s.order.isEmpty then ""
        else " ORDER BY " ++ sepBy ", " (s.order.map fun (e, d) => e.toText ++ d.toText))
    ++ (match s.limit with
        | some n => " LIMIT " ++ toString n
        | none => "")
    ++ s.locking.toText

/-- Columns and what they are set to. -/
abbrev Assignments := List (String × Expr)

def Assignments.toText (l : Assignments) : String :=
  sepBy ", " (l.map fun (c, e) => c ++ " = " ++ e.toText)

/-- Where an update takes further rows from. -/
inductive Origin
  | source (s : Source)
  | select (s : Select) (called : String)

def Origin.toText : Origin → String
  | source s => s.toText
  | select s name => "(" ++ s.toText ++ ") " ++ name

/-- Rows that are changed. -/
structure Update where
  target : Source
  set : Assignments
  origin : Option Origin := none
  condition : Expr
  returning : List Output := []

def returningText (l : List Output) : String :=
  if l.isEmpty then "" else " RETURNING " ++ sepBy ", " (l.map Output.toText)

def Update.toText (u : Update) : String :=
  "UPDATE " ++ u.target.toText ++ " SET " ++ u.set.toText
    ++ (match u.origin with
        | some o => " FROM " ++ o.toText
        | none => "")
    ++ " WHERE " ++ u.condition.toText ++ returningText u.returning

/-- Where new rows come from. -/
inductive Supply
  | values (l : List Expr)
  | select (s : Select)

def Supply.toText : Supply → String
  | values l => "VALUES (" ++ sepBy ", " (l.map Expr.toText) ++ ")"
  | select s => s.toText

/-- What happens to a row that is there already: it is changed, if a
condition holds.  The new row goes by the name `EXCLUDED`. -/
structure Conflict where
  key : String
  set : Assignments
  condition : Option Expr := none

def Conflict.toText (c : Conflict) : String :=
  " ON CONFLICT (" ++ c.key ++ ") DO UPDATE SET " ++ c.set.toText ++ clause "WHERE" c.condition

/-- Rows that are added. -/
structure Insert where
  table : String
  columns : List String
  supply : Supply
  conflict : Option Conflict := none

def Insert.toText (i : Insert) : String :=
  "INSERT INTO " ++ i.table ++ " (" ++ sepBy ", " i.columns ++ ") " ++ i.supply.toText
    ++ (match i.conflict with
        | some c => c.toText
        | none => "")

/-- A part of a query. -/
inductive Part
  | select (s : Select)
  | update (u : Update)
  | insert (i : Insert)

def Part.toText : Part → String
  | select s => s.toText
  | update u => u.toText
  | insert i => i.toText

/-- A query. -/
structure Query where
  parts : List (String × Part) := []
  last : Part

def Query.toText (q : Query) : String :=
  (if q.parts.isEmpty then ""
    else "WITH " ++ sepBy ", " (q.parts.map fun (n, p) => n ++ " AS ( " ++ p.toText ++ " )") ++ " ")
    ++ q.last.toText

/-- A statement. -/
inductive Statement
  | query (q : Query)
  | createTable (l : Layout)
  | createIndex (i : Index)
  /-- Waits for the lock that a parameter names. -/
  | lock

namespace Statement

def toText : Statement → String
  | query q => q.toText
  | createTable l => l.toText
  | createIndex i => i.toText
  | lock => "SELECT pg_advisory_xact_lock($1)"

def ofSelect (s : Select) : Statement := query { last := .select s }

def ofUpdate (u : Update) : Statement := query { last := .update u }

def ofInsert (i : Insert) : Statement := query { last := .insert i }

end Statement

/-- What a database answers to a statement. -/
structure Reply where
  rows : List Row := []
  /-- How many rows were returned or written. -/
  affected : Nat

end GridQueue.Sql
