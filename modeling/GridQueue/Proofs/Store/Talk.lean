/-
# `GridQueue.Proofs.Store.Talk` — programs that talk to a database alone

A program that nobody disturbs sends its statements one after another, and
what each of them does is a function of the database.  `Gives` says what a
program returns and leaves behind, and its rules follow the program: a
statement, what comes after it, and how rows are read.  `Ends` says the
same of a program that may fail.

    sent, bounded        a statement is executed, or refused
    allRows, firstRow    what came back is read, row by row
    bind, bind_error     one after another, up to the first failure

The time a statement may take plays no part here: nothing is slow in a
database that answers at once.
-/
import GridQueue.Proofs.Sql.Limits
import GridQueue.Store.Database

namespace GridQueue.Querying

open Sql

variable {α β : Type} {now : Instant} {d d' d'' : Database}

/-- Alone with a database, the program ends with a value or an error and
leaves another database behind. -/
def Ends (now : Instant) (p : Querying α) (d : Database) (r : Except StoreError α)
    (d' : Database) : Prop :=
  ∀ before, Program.run (Connection.answer now) p.run ⟨d, before⟩ = (some r, ⟨d', before⟩)

/-- Alone with a database, the program returns a value and leaves another
database behind. -/
def Gives (now : Instant) (p : Querying α) (d : Database) (a : α) (d' : Database) : Prop :=
  ∀ before, Program.run (Connection.answer now) p.run ⟨d, before⟩ =
    (some (.ok a), ⟨d', before⟩)

namespace Ends

theorem of_gives {p : Querying α} {a : α} (h : Gives now p d a d') : Ends now p d (.ok a) d' := h

theorem throw (e : StoreError) : Ends now (throwThe StoreError e : Querying α) d (.error e) d :=
  fun _ => rfl

theorem bind {p : Querying α} {f : α → Querying β} {a : α} {r : Except StoreError β}
    (hp : Gives now p d a d') (hf : Ends now (f a) d' r d'') : Ends now (p >>= f) d r d'' := by
  intro before
  rw [ExceptT.run_bind]
  refine (Program.run_bind ..).trans ?_
  rw [hp before]
  exact hf before

theorem bind_error {p : Querying α} {f : α → Querying β} {e : StoreError}
    (hp : Ends now p d (.error e) d') : Ends now (p >>= f) d (.error e) d' := by
  intro before
  rw [ExceptT.run_bind]
  refine (Program.run_bind ..).trans ?_
  rw [hp before]
  rfl

end Ends

namespace Gives

theorem pure (a : α) : Gives now (Pure.pure a) d a d := fun _ => rfl

theorem bind {p : Querying α} {f : α → Querying β} {a : α} {b : β} (hp : Gives now p d a d')
    (hf : Gives now (f a) d' b d'') : Gives now (p >>= f) d b d'' :=
  Ends.bind hp hf

theorem sent {limit : Span} {s : Statement} {params : List Value}
    (answer : Except DatabaseError Reply)
    (h : ∀ before, Connection.answer now (.run (some limit) s params) ⟨d, before⟩ =
      (some (some answer), ⟨d', before⟩)) :
    Gives now (ExceptT.lift (Program.perform (A := Exchange.Answer) (.run (some limit) s params)))
      d (some answer) d' := by
  intro before
  show Program.run _ (Program.call (A := Exchange.Answer) (.run (some limit) s params)
    fun answer => Program.done (Except.ok answer)) _ = _
  rw [Program.run, h before]
  rfl

theorem bounded {operation : String} {limit : Span} {s : Statement} {params : List Value}
    {reply : Reply} (h : d.execute now s params = .ok (reply, d')) :
    Gives now (Querying.bounded operation limit s params) d reply d' := by
  refine .bind (sent (.ok reply) fun before => ?_) (.pure reply)
  rw [Connection.answer, h]
  rfl

theorem allRows {reply : Reply} {read : Row → Except StoreError α} {f : α → Row} {l : List α}
    (hrows : reply.rows = l.map f) (hread : ∀ x ∈ l, read (f x) = .ok x) :
    Gives now (Querying.allRows reply read) d l d := by
  intro before
  rw [Querying.allRows, hrows, mapM_map_ok hread, List.map_id']
  rfl

theorem firstRow {reply : Reply} {read : Row → Except StoreError α} {f : α → Row} {o : Option α}
    (hrows : reply.rows = o.toList.map f) (hread : ∀ x ∈ o, read (f x) = .ok x) :
    Gives now (Querying.firstRow reply read) d o d := by
  intro before
  rw [Querying.firstRow, hrows]
  cases o with
  | none => rfl
  | some x =>
    show Program.run _ (ExceptT.run (some <$> ExceptT.mk (Pure.pure (read (f x))))) _ = _
    rw [hread x rfl]
    rfl

end Gives

theorem Ends.refused {operation : String} {limit : Span} {s : Statement} {params : List Value}
    {e : DatabaseError} (h : d.execute now s params = .error e) :
    Ends now (Querying.bounded operation limit s params) d (.error (.ofDatabase e)) d := by
  refine .bind (Gives.sent (.error e) fun before => ?_) (.throw _)
  rw [Connection.answer, h]
  rfl

end GridQueue.Querying
