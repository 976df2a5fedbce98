/-
# `GridQueue.Sql.Execute` — what statements mean

A database has tables, each with its layout and its rows, and indexes.
`Database.execute` carries out one statement as a whole.

All parts of a query see the tables as they were before it; a part knows
of what others did only through the rows they return.  A row is updated
at most once, with the first row of the origin for which the condition
holds.  A new row whose key is taken changes the row that is there if
the statement says how, and otherwise the statement is refused.

What is written is refused where a column does not take it (see
`Layout.store?`).  A new row has to go through the columns even if it then
changes one that is there.  Numbers are limited there only: an expression
is computed on integers of any size, so a sum that is too small for its
type and is raised again by `GREATEST` goes unnoticed.
-/
import GridQueue.Sql.Statement

namespace GridQueue.Sql

/-! ## Selecting -/

namespace Select

/-- The rows of both sources that belong together. -/
def joined (s : Select) (w : Surroundings) (r : Row) : List Bindings :=
  let left := (s.source.name, r)
  match s.join with
  | none => [[left]]
  | some (t, on) =>
      match (w.rowsOf t.table).filter fun r' => (on.eval w [left, (t.name, r')]).isTrue with
      | [] => [[left, (t.name, [])]]
      | partners => partners.map fun r' => [left, (t.name, r')]

def accepts (s : Select) (w : Surroundings) (b : Bindings) : Bool :=
  match s.condition with
  | none => true
  | some e => (e.eval w b).isTrue

/-- Compares by the first of several orders that tells two rows apart. -/
def compareBy (w : Surroundings) (a b : Bindings) : List (Expr × Direction) → Ordering
  | [] => .eq
  | (e, d) :: rest => (d.order ((e.eval w a).rank (e.eval w b))).then (compareBy w a b rest)

def found (s : Select) (w : Surroundings) : List Bindings :=
  let sorted := (((w.rowsOf s.source.table).flatMap (s.joined w)).filter (s.accepts w)).mergeSort
    fun a b => compareBy w a b s.order != .gt
  match s.limit with
  | some n => sorted.take n
  | none => sorted

/-- What is returned of the rows that an expression can name. -/
def output (w : Surroundings) (b : Bindings) (l : List Output) : Row :=
  l.map fun o => (o.name, o.value.eval w b)

def run (s : Select) (w : Surroundings) : List Row :=
  (s.found w).map fun b => output w b s.outputs

end Select

/-! ## Writing -/

/-- What a part of a query returns and writes. -/
structure Outcome where
  rows : List Row
  affected : Nat
  written : Option (String × List Row) := none

namespace Assignments

def values (l : Assignments) (w : Surroundings) (b : Bindings) : Row :=
  l.map fun (c, e) => (c, e.eval w b)

/-- A row after assignments, all of them evaluated before any is made. -/
def applied? (l : Assignments) (t : Layout) (w : Surroundings) (b : Bindings) (r : Row) :
    Except DatabaseError Row := do
  return r.setAll (← t.store? (l.values w b))

end Assignments

namespace Update

/-- What an update takes further rows from, as sources of an expression;
one without any if it takes none. -/
def origins (u : Update) (w : Surroundings) : List Bindings :=
  match u.origin with
  | none => [[]]
  | some (.source s) => (w.rowsOf s.table).map fun r => [(s.name, r)]
  | some (.select s name) => (s.run w).map fun r => [(name, r)]

/-- The rows an updated row is updated with, if it is. -/
def partner? (u : Update) (w : Surroundings) (r : Row) : Option Bindings :=
  (u.origins w).find? fun b => (u.condition.eval w ((u.target.name, r) :: b)).isTrue

/-- A row after the update, with what it returns if it was updated. -/
def change? (u : Update) (t : Layout) (w : Surroundings) (r : Row) :
    Except DatabaseError (Row × Option Row) :=
  match u.partner? w r with
  | none => .ok (r, none)
  | some b => do
      let new ← u.set.applied? t w ((u.target.name, r) :: b) r
      return (new, some (Select.output w ((u.target.name, new) :: b) u.returning))

def run (u : Update) (t : Layout) (w : Surroundings) : Except DatabaseError Outcome := do
  let changes ← (w.rowsOf u.target.table).mapM (u.change? t w)
  let returned := changes.filterMap (·.2)
  return {
    rows := if u.returning.isEmpty then [] else returned
    affected := returned.length
    written := some (u.target.table, changes.map (·.1)) }

end Update

namespace Insert

/-- The rows to be added, as far as they are given. -/
def supplied (i : Insert) (w : Surroundings) : List (List (String × Value)) :=
  match i.supply with
  | .values l => [i.columns.zip (l.map fun e => e.eval w [])]
  | .select s => (s.run w).map fun r => i.columns.zip (r.map (·.2))

/-- The row is told from others by the same value as another. -/
def sameKey (key : String) (a b : Row) : Bool :=
  ((a.get key).order? (b.get key)) == some .eq

/-- What an insertion has made of a table so far. -/
structure Progress where
  rows : List Row
  affected : Nat := 0

/-- Changes the row that is there already. -/
def resolve (i : Insert) (c : Conflict) (l : Layout) (w : Surroundings) (p : Progress)
    (new : Row) : Except DatabaseError Progress := do
  let names (r : Row) : Bindings := [(i.table, r), ("EXCLUDED", new)]
  let changes (r : Row) : Bool :=
    sameKey c.key r new
      && (match c.condition with
          | none => true
          | some e => (e.eval w (names r)).isTrue)
  let rows ← p.rows.mapM fun r => if changes r then c.set.applied? l w (names r) r else .ok r
  return { rows, affected := p.affected + p.rows.countP changes }

def add (i : Insert) (l : Layout) (w : Surroundings) (p : Progress)
    (given : List (String × Value)) : Except DatabaseError Progress := do
  let new ← l.store? (l.newRow p.rows w.now given)
  let taken := match l.key? with
    | some key => p.rows.any fun r => sameKey key r new
    | none => false
  if taken then
    match i.conflict with
    | some c => i.resolve c l w p new
    | none =>
        .error (.refused ("duplicate key value violates unique constraint \"" ++ i.table
          ++ "_pkey\""))
  else .ok { rows := p.rows ++ [new], affected := p.affected + 1 }

def run (i : Insert) (l : Layout) (w : Surroundings) : Except DatabaseError Outcome := do
  let p ← (i.supplied w).foldlM (i.add l w) { rows := w.rowsOf i.table }
  return { rows := [], affected := p.affected, written := some (i.table, p.rows) }

end Insert

/-! ## Databases -/

/-- A table. -/
structure Relation where
  layout : Layout
  rows : List Row := []

/-- A database. -/
structure Database where
  tables : List Relation := []
  /-- The names of the indexes. -/
  indexes : List String := []

namespace Database

def table? (d : Database) (name : String) : Option Relation :=
  d.tables.find? fun t => t.layout.table == name

def rowsOf (d : Database) (name : String) : List Row :=
  ((d.table? name).map (·.rows)).getD []

def write (d : Database) (name : String) (rows : List Row) : Database :=
  { d with tables := d.tables.map fun t => if t.layout.table = name then { t with rows } else t }

/-- Writes what a part of a query has written. -/
def keep (d : Database) (o : Outcome) : Database :=
  match o.written with
  | some (name, rows) => d.write name rows
  | none => d

/-- The layout of a table that is written. -/
def layoutOf (d : Database) (name : String) : Except DatabaseError Layout :=
  match d.table? name with
  | some t => .ok t.layout
  | none => .error (.refused ("relation \"" ++ name ++ "\" does not exist"))

/-- Carries out a part of a query. -/
def runPart (d : Database) (w : Surroundings) : Part → Except DatabaseError Outcome
  | .select s =>
      let rows := s.run w
      .ok { rows, affected := rows.length }
  | .update u => do u.run (← d.layoutOf u.target.table) w
  | .insert i => do i.run (← d.layoutOf i.table) w

/-- What the last part of a query works with: the rows that earlier parts
returned, the latest first, and otherwise the tables. -/
def surroundings (d : Database) (params : List Value) (now : Instant)
    (returned : List (String × List Row)) : Surroundings :=
  { params, now, rowsOf := fun name => (returned.lookup name).getD (d.rowsOf name) }

/-- Carries out the parts of a query: `d` is the database before it and
`after` what the parts so far have made of it. -/
def runParts (d : Database) (params : List Value) (now : Instant) (last : Part)
    (returned : List (String × List Row)) (after : Database) :
    List (String × Part) → Except DatabaseError (Reply × Database)
  | [] => do
      let o ← d.runPart (d.surroundings params now returned) last
      return ({ rows := o.rows, affected := o.affected }, after.keep o)
  | (name, p) :: rest => do
      let o ← d.runPart (d.surroundings params now returned) p
      d.runParts params now last ((name, o.rows) :: returned) (after.keep o) rest

/-- Adds an empty table unless it exists. -/
def create (d : Database) (l : Layout) : Database :=
  if (d.table? l.table).isSome then d else { d with tables := d.tables ++ [{ layout := l }] }

/-- Carries out a statement at a time. -/
def execute (d : Database) (now : Instant) (s : Statement) (params : List Value) :
    Except DatabaseError (Reply × Database) :=
  match s with
  | .query q => d.runParts params now q.last [] d q.parts
  | .createTable l => .ok ({ affected := 0 }, d.create l)
  | .createIndex i =>
      .ok ({ affected := 0 },
        if d.indexes.contains i.name then d else { d with indexes := d.indexes ++ [i.name] })
  | .lock => .ok ({ affected := 1 }, d)

end Database

end GridQueue.Sql
