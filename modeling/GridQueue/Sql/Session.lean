/-
# `GridQueue.Sql.Session` — programs that talk to a database

A program sends statements with their parameters and gets replies.  A
statement can be given a limit; an answer of `none` says that the limit
passed before the reply came.  Statements between `begin` and `commit`
take effect together, or with `rollback` not at all.
-/
import GridQueue.Program
import GridQueue.Sql.Execute

namespace GridQueue.Sql

/-- What a program asks of a database. -/
inductive Exchange
  | run (limit : Option Span) (s : Statement) (params : List Value)
  | begin
  | commit
  | rollback

def Exchange.Answer : Exchange → Type
  | run .. => Option (Except DatabaseError Reply)
  | begin | commit | rollback => Except DatabaseError Unit

/-- A program that talks to a database. -/
abbrev Talk := Program Exchange Exchange.Answer

/-- A program that talks to a database and may fail. -/
abbrev Attempt (ε : Type) := ExceptT ε Talk

namespace Attempt

variable {ε α : Type}

/-- Goes on with the value of an answer. -/
def ofExcept (toError : DatabaseError → ε) : Except DatabaseError α → Attempt ε α
  | .ok a => pure a
  | .error e => throw (toError e)

/-- Sends a statement and waits for the reply. -/
def send (toError : DatabaseError → ε) (s : Statement) (params : List Value) :
    Attempt ε Reply := do
  match ← ExceptT.lift (Program.perform (A := Exchange.Answer) (.run none s params)) with
  | some answer => ofExcept toError answer
  | none => throw (toError .poolTimedOut)

def begin (toError : DatabaseError → ε) : Attempt ε Unit := do
  ofExcept toError (← ExceptT.lift (Program.perform (A := Exchange.Answer) .begin))

def commit (toError : DatabaseError → ε) : Attempt ε Unit := do
  ofExcept toError (← ExceptT.lift (Program.perform (A := Exchange.Answer) .commit))

def rollback (toError : DatabaseError → ε) : Attempt ε Unit := do
  ofExcept toError (← ExceptT.lift (Program.perform (A := Exchange.Answer) .rollback))

end Attempt

/-- A connection to a database that nobody else uses: the database, and
what it was when the transaction began. -/
structure Connection where
  database : Database := {}
  before : Option Database := none

/-- Answers a call at a time.  A statement that is refused changes
nothing. -/
def Connection.answer (now : Instant) : Program.Answering Exchange Exchange.Answer Connection
  | .run _ s params, c =>
      match c.database.execute now s params with
      | .ok (reply, d) => (some (some (.ok reply)), { c with database := d })
      | .error e => (some (some (.error e)), c)
  | .begin, c => (some (.ok ()), { c with before := some c.database })
  | .commit, c => (some (.ok ()), { c with before := none })
  | .rollback, c => (some (.ok ()), { database := c.before.getD c.database, before := none })

end GridQueue.Sql
