/-
# `GridQueue.Sql.Expression` — expressions of a query

An expression has a text, in which it is sent to the database, and a
value for given rows, parameters and time.  Parentheses are part of an
expression, so its text says how it is meant.  `placeholders` lists the
parameters an expression asks for.
-/
import GridQueue.Sql.Value

namespace GridQueue.Sql

/-- How two values are compared. -/
inductive Comparison
  | eq
  | ne
  | lt
  | le
  | gt
  deriving DecidableEq

namespace Comparison

def text : Comparison → String
  | eq => "="
  | ne => "<>"
  | lt => "<"
  | le => "<="
  | gt => ">"

/-- The comparison holds for values in this order. -/
def holds : Comparison → Ordering → Bool
  | eq, o => o == .eq
  | ne, o => o != .eq
  | lt, o => o == .lt
  | le, o => o != .gt
  | gt, o => o == .gt

end Comparison

/-- An expression. -/
inductive Expr
  /-- A column of a named source, or of the only one if the name is empty. -/
  | column (source name : String)
  /-- A parameter; the first has the number 1. -/
  | param (n : Nat)
  | text (s : String)
  | int (n : Int)
  | bool (b : Bool)
  /-- The time of the statement. -/
  | now
  | add (a b : Expr)
  | sub (a b : Expr)
  /-- So many seconds as a length of time. -/
  | seconds (e : Expr)
  | greatest (a b : Expr)
  /-- The first that is not null. -/
  | coalesce (a b : Expr)
  | cases (condition yes no : Expr)
  | cardinality (e : Expr)
  | compare (c : Comparison) (a b : Expr)
  /-- The value is one of an array. -/
  | anyOf (a array : Expr)
  | overlaps (a b : Expr)
  | within (a b : Expr)
  | and (a b : Expr)
  | or (a b : Expr)
  | not (e : Expr)
  | isNull (e : Expr)
  | paren (e : Expr)
  /-- A value from the first row of a table under a condition, null if
  there is none. -/
  | first (value : Expr) (table called : String) (condition : Expr)

/-- A text as it is written in a statement: between quotes, a quote in it
twice. -/
def quoteText (s : String) : String :=
  "'" ++ String.ofList (s.toList.flatMap fun c => if c = '\'' then ['\'', '\''] else [c]) ++ "'"

namespace Expr

/-! ## Writing -/

def isQuery : Expr → Bool
  | first .. => true
  | _ => false

mutual

def toText : Expr → String
  | column source name => if source = "" then name else source ++ "." ++ name
  | param n => "$" ++ toString n
  | text s => quoteText s
  | int n => toString n
  | bool b => if b then "TRUE" else "FALSE"
  | now => "NOW()"
  | add a b => a.toText ++ " + " ++ b.toText
  | sub a b => a.toText ++ " - " ++ b.toText
  | seconds e => "make_interval(secs => " ++ e.toText ++ "::double precision)"
  | greatest a b => "GREATEST(" ++ a.toText ++ ", " ++ b.toText ++ ")"
  | coalesce a b =>
      let choices := a.toText ++ ", " ++ b.choicesText
      if a.isQuery then "COALESCE( " ++ choices ++ " )" else "COALESCE(" ++ choices ++ ")"
  | cases c yes no =>
      "CASE WHEN " ++ c.toText ++ " THEN " ++ yes.toText ++ " ELSE " ++ no.toText ++ " END"
  | cardinality e => "cardinality(" ++ e.toText ++ ")"
  | compare c a b => a.toText ++ " " ++ c.text ++ " " ++ b.toText
  | anyOf a array => a.toText ++ " = ANY(" ++ array.toText ++ ")"
  | overlaps a b => a.toText ++ " && " ++ b.toText
  | within a b => a.toText ++ " <@ " ++ b.toText
  | and a b => a.toText ++ " AND " ++ b.toText
  | or a b => a.toText ++ " OR " ++ b.toText
  | not e => "NOT " ++ e.toText
  | isNull e => e.toText ++ " IS NULL"
  | paren e => "(" ++ e.toText ++ ")"
  | first value table name condition =>
      "(SELECT " ++ value.toText ++ " FROM " ++ table ++ " " ++ name ++ " WHERE "
        ++ condition.toText ++ ")"

/-- The text of what is left to choose from. -/
def choicesText : Expr → String
  | coalesce a b => a.toText ++ ", " ++ b.choicesText
  | e => e.toText

end

/-- The numbers of the parameters in an expression, in the order of its
text. -/
def placeholders : Expr → List Nat
  | param n => [n]
  | column _ _ | text _ | int _ | bool _ | now => []
  | seconds e | cardinality e | not e | isNull e | paren e => e.placeholders
  | add a b | sub a b | greatest a b | coalesce a b | compare _ a b | anyOf a b | overlaps a b
  | within a b | and a b | or a b => a.placeholders ++ b.placeholders
  | cases c yes no => c.placeholders ++ yes.placeholders ++ no.placeholders
  | first value _ _ condition => value.placeholders ++ condition.placeholders

def conj : List Expr → Expr
  | [] => bool true
  | [e] => e
  | e :: rest => and e (conj rest)

end Expr

/-! ## Value -/

/-- What a statement works with. -/
structure Surroundings where
  params : List Value
  now : Instant
  /-- The rows of a table, or of an earlier part of the statement. -/
  rowsOf : String → List Row

/-- The rows an expression can name, each under the name of its source. -/
abbrev Bindings := List (String × Row)

/-- The value of a column; without the name of a source it is that of the
first source that has the column. -/
def Bindings.column (b : Bindings) (source name : String) : Value :=
  if source = "" then ((b.find? fun s => Row.has s.2 name).map fun s => s.2.get name).getD .null
  else ((b.lookup source).map fun r => r.get name).getD .null

namespace Expr

def eval (w : Surroundings) (b : Bindings) : Expr → Value
  | column source name => b.column source name
  | param n => if n = 0 then .null else (w.params[n - 1]?).getD .null
  | text s => .text s
  | int n => .int n
  | bool v => .bool v
  | now => .time w.now
  | add x y => (x.eval w b).add (y.eval w b)
  | sub x y => (x.eval w b).sub (y.eval w b)
  | seconds e => (e.eval w b).seconds
  | greatest x y => (x.eval w b).greatest (y.eval w b)
  | coalesce x y => (x.eval w b).coalesce (y.eval w b)
  | cases c yes no => if (c.eval w b).isTrue then yes.eval w b else no.eval w b
  | cardinality e => (e.eval w b).cardinality
  | compare c x y => .ofTruth (((x.eval w b).order? (y.eval w b)).map c.holds)
  | anyOf x array => (x.eval w b).anyOf (array.eval w b)
  | overlaps x y => (x.eval w b).overlaps (y.eval w b)
  | within x y => (x.eval w b).within (y.eval w b)
  | and x y => (x.eval w b).conj (y.eval w b)
  | or x y => (x.eval w b).disj (y.eval w b)
  | not e => (e.eval w b).neg
  | isNull e =>
      match e.eval w b with
      | .null => .bool true
      | _ => .bool false
  | paren e => e.eval w b
  | first value table name condition =>
      match (w.rowsOf table).find? fun r => (condition.eval w ((name, r) :: b)).isTrue with
      | some r => value.eval w ((name, r) :: b)
      | none => .null

end Expr

end GridQueue.Sql
