/-
# `GridQueue.Sql.Layout` — tables and indexes of a database

The layout of a table lists its columns with their types, and what a new
row has where nothing is given.  Tables and indexes are created unless
they exist.

What is written goes through the types of the columns (`Layout.store?`):

    varchar n         at most n characters; spaces beyond them are cut off
    integer           32 bits
    bigint, serial    64 bits
    timestamp         whole microseconds; the rest is dropped
    all texts         without the character zero

Null is stored where the column may be null.  The statement is refused
where a value does not go through.
-/
import GridQueue.Error
import GridQueue.Sql.Expression
import GridQueue.Width

namespace GridQueue.Sql

/-- The type of a column. -/
inductive Kind
  /-- Numbered by the database itself. -/
  | serial
  | bigint
  | integer
  | varchar (length : Nat)
  | text
  | texts
  | double
  | boolean
  | timestamp
  deriving DecidableEq

def Kind.toText : Kind → String
  | serial => "BIGSERIAL"
  | bigint => "BIGINT"
  | integer => "INTEGER"
  | varchar n => "VARCHAR(" ++ toString n ++ ")"
  | text => "TEXT"
  | texts => "TEXT[]"
  | double => "DOUBLE PRECISION"
  | boolean => "BOOLEAN"
  | timestamp => "TIMESTAMPTZ"

namespace Kind

/-- A text without the character zero, which databases do not have. -/
def isText (s : String) : Bool := s.toList.all (· != Char.ofNat 0)

/-- What is said about the character zero. -/
def noTextError : DatabaseError := .refused "invalid byte sequence for encoding \"UTF8\": 0x00"

/-- The value as a column of the type stores it. -/
def store? : Kind → Value → Except DatabaseError Value
  | varchar n, .text s =>
      if !isText s then .error noTextError
      else if (s.toList.drop n).all (· == ' ') then .ok (.text (String.ofList (s.toList.take n)))
      else .error (.refused ("value too long for type character varying(" ++ toString n ++ ")"))
  | text, .text s => if isText s then .ok (.text s) else .error noTextError
  | texts, .texts l => if l.all isText then .ok (.texts l) else .error noTextError
  | integer, .int n =>
      if FitsInt32 n then .ok (.int n) else .error (.refused "integer out of range")
  | serial, .int n | bigint, .int n =>
      if FitsInt64 n then .ok (.int n) else .error (.refused "bigint out of range")
  | timestamp, .time t => .ok (.time t.inMicros)
  | _, v => .ok v

end Kind

/-- What a column has in a new row. -/
inductive Default
  | int (n : Int)
  /-- A number in a column of floats, as written and as it is. -/
  | real (written : String) (x : Float)
  | text (s : String)
  | bool (b : Bool)
  | noTexts
  | now

namespace Default

def toText : Default → String
  | int n => toString n
  | real written _ => written
  | text s => quoteText s
  | bool b => if b then "TRUE" else "FALSE"
  | noTexts => "'\x7b\x7d'"
  | now => "NOW()"

/-- The default in a row that is made at a time. -/
def value (at_ : Instant) : Default → Value
  | int n => .int n
  | real _ x => .real x
  | text s => .text s
  | bool b => .bool b
  | noTexts => .texts []
  | now => .time at_

end Default

/-- A column. -/
structure Column where
  name : String
  kind : Kind
  isKey : Bool := false
  notNull : Bool := false
  default : Option Default := none
  /-- The table and column whose rows this column's rows belong to; they
  vanish with them. -/
  parent : Option (String × String) := none

namespace Column

def must (name : String) (kind : Kind) : Column := { name, kind, notNull := true }

def may (name : String) (kind : Kind) : Column := { name, kind }

def withDefault (name : String) (kind : Kind) (d : Default) : Column :=
  { name, kind, notNull := true, default := some d }

/-- The column by which rows are told apart. -/
def key (name : String) (kind : Kind) : Column := { name, kind, isKey := true }

def toText (c : Column) : String :=
  c.name ++ " " ++ c.kind.toText
    ++ (if c.isKey then " PRIMARY KEY" else "")
    ++ (if c.notNull then " NOT NULL" else "")
    ++ (match c.default with
        | some d => " DEFAULT " ++ d.toText
        | none => "")
    ++ (match c.parent with
        | some (table, column) =>
            " REFERENCES " ++ table ++ "(" ++ column ++ ") ON DELETE CASCADE"
        | none => "")

/-- The value as a column of a table stores it. -/
def store? (c : Column) (table : String) : Value → Except DatabaseError Value
  | .null =>
      if c.isKey || c.notNull then
        .error (.refused ("null value in column \"" ++ c.name ++ "\" of relation \"" ++ table
          ++ "\" violates not-null constraint"))
      else .ok .null
  | v => c.kind.store? v

end Column

/-- The layout of a table. -/
structure Layout where
  table : String
  columns : List Column

namespace Layout

def toText (l : Layout) : String :=
  "CREATE TABLE IF NOT EXISTS " ++ l.table ++ " ( "
    ++ String.intercalate ", " (l.columns.map Column.toText) ++ " )"

/-- The name of the column by which rows are told apart. -/
def key? (l : Layout) : Option String := (l.columns.find? (·.isKey)).map (·.name)

/-- The next number of a column that the database numbers itself. -/
def nextSerial (rows : List Row) (column : String) : Int :=
  rows.foldl (fun n r => max n (((r.get column).int?.getD 0) + 1)) 1

/-- What a column has in a row that is added to others at a time. -/
def fill (rows : List Row) (at_ : Instant) (c : Column) : Value :=
  match c.kind, c.default with
  | .serial, _ => .int (nextSerial rows c.name)
  | _, some d => d.value at_
  | _, none => .null

/-- A row to be added to others at a time, where only some columns are
given. -/
def newRow (l : Layout) (rows : List Row) (at_ : Instant) (given : List (String × Value)) : Row :=
  l.columns.map fun c => (c.name, (given.lookup c.name).getD (fill rows at_ c))

def column? (l : Layout) (name : String) : Option Column :=
  l.columns.find? fun c => c.name == name

/-- A value as the column with a name stores it. -/
def storeIn? (l : Layout) (name : String) (v : Value) : Except DatabaseError Value :=
  match l.column? name with
  | some c => c.store? l.table v
  | none =>
      .error (.refused ("column \"" ++ name ++ "\" of relation \"" ++ l.table
        ++ "\" does not exist"))

/-- Values as the columns they are for store them. -/
def store? (l : Layout) (r : Row) : Except DatabaseError Row :=
  r.mapM fun (name, v) => do return (name, ← l.storeIn? name v)

end Layout

/-- An index over columns of a table, perhaps of some rows only. -/
structure Index where
  name : String
  table : String
  columns : List String
  condition : Option Expr := none

def Index.toText (i : Index) : String :=
  "CREATE INDEX IF NOT EXISTS " ++ i.name ++ " ON " ++ i.table ++ "("
    ++ String.intercalate ", " i.columns ++ ")"
    ++ (match i.condition with
        | some e => " WHERE " ++ e.toText
        | none => "")

end GridQueue.Sql
