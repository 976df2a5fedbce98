/-
# `GridQueue.Proofs.Schema.Runner` — what a call that applies the parts does

A call takes the parts one after another.  Where it stands with a part is
a `Phase`, and each phase asks for one exchange only:

    preparing   the table of parts in place
    resting     a transaction
    opened      the lock
    locked      whether the part is recorded
    applying    the next statement of the part, and in the end its record
    written     the commit
    present     to take the transaction back

Between two parts the call holds nothing.  A failure ends the call,
wherever it stands (`fail`), and what it returns says which part it failed
in, if it says one (`FailsWith`).
-/
import GridQueue.Proofs.Interleaving
import GridQueue.Proofs.Sql.Server
import GridQueue.Store.Migration

namespace GridQueue

open Sql

/-! ## Exchanges -/

theorem Sql.Exchange.ok_of_not_failed {limit : Option Span} {s : Statement} {params : List Value}
    {a : (Exchange.run limit s params).Answer} (h : ¬ (Exchange.run limit s params).Failed a) :
    ∃ reply, a = some (.ok reply) := by
  by_contra hnone
  exact h fun reply hreply => hnone ⟨reply, hreply⟩

namespace Migration

def lockParams : List Value := [.int lockKey]

/-- Where a call stands among the parts: what it has applied, the part it
is at, and what comes after it. -/
structure Place where
  got : List Migration
  part : Migration
  after : List Migration

/-- Where a call stands. -/
inductive Phase
  | preparing
  | resting (got rest : List Migration)
  | opened (p : Place)
  | locked (p : Place)
  | applying (p : Place) (sent todo : List Statement)
  | written (p : Place)
  | present (p : Place)
  | failed (got rest : List Migration)

namespace Phase

/-- The parts that the call has applied. -/
def got : Phase → List Migration
  | preparing => []
  | resting got _ | failed got _ => got
  | opened p | locked p | applying p _ _ | written p | present p => p.got

/-- The parts that the call has not got past. -/
def rest : Phase → List Migration
  | preparing => all
  | resting _ rest | failed _ rest => rest
  | opened p | locked p | applying p _ _ | written p | present p => p.part :: p.after

/-- The call hears of a failure. -/
def fail (p : Phase) : Phase := failed p.got p.rest

/-- The call goes on with an answer that is no failure. -/
inductive Goes : Phase → (c : Exchange) → c.Answer → Phase → Prop
  | prepared {reply} :
      Goes preparing (.run none (.createTable Schema.migrationRecord) []) (some (.ok reply))
        (resting [] all)
  | begun {got part after} :
      Goes (resting got (part :: after)) .begin (.ok ()) (opened ⟨got, part, after⟩)
  | locked {p reply} :
      Goes (opened p) (.run none .lock lockParams) (some (.ok reply)) (locked p)
  | missing {p : Place} {reply : Reply} : reply.rows.isEmpty = true →
      Goes (locked p) (.run none recorded [.text p.part.name]) (some (.ok reply))
        (applying p [] p.part.statements)
  | found {p : Place} {reply : Reply} : reply.rows.isEmpty = false →
      Goes (locked p) (.run none recorded [.text p.part.name]) (some (.ok reply)) (present p)
  | applied {p : Place} {sent s todo reply} : sent ++ s :: todo = p.part.statements →
      Goes (applying p sent (s :: todo)) (.run none s []) (some (.ok reply))
        (applying p (sent ++ [s]) todo)
  | recorded {p : Place} {sent reply} : sent = p.part.statements →
      Goes (applying p sent []) (.run none record [.text p.part.name]) (some (.ok reply))
        (written p)
  | committed {p} : Goes (written p) .commit (.ok ()) (resting (p.got ++ [p.part]) p.after)
  | passed {p} : Goes (present p) .rollback (.ok ()) (resting p.got p.after)

def Asks (p : Phase) (c : Exchange) : Prop := ∃ a p', p.Goes c a p'

/-- The call goes on, or it hears of a failure. -/
def Moves : Protocol Exchange Exchange.Answer Phase :=
  fun p c a p' => p.Goes c a p' ∨ p.Asks c ∧ c.Failed a ∧ p' = p.fail

variable {p p' : Phase} {c : Exchange} {a b : c.Answer}

theorem Moves.asks (h : p.Moves c a p') : p.Asks c := by
  rcases h with hgoes | ⟨hasks, -⟩
  · exact ⟨a, p', hgoes⟩
  · exact hasks

theorem Goes.not_failed (h : p.Goes c a p') : ¬ c.Failed a := by
  cases h with
  | prepared | locked | missing | found | applied | recorded => exact fun hfail => hfail _ rfl
  | begun | committed | passed => exact fun hfail => hfail rfl

/-- Every answer but a failure leads on. -/
theorem Asks.exists_goes (h : p.Asks c) (ha : ¬ c.Failed a) : ∃ p', p.Goes c a p' := by
  obtain ⟨b, p', hgoes⟩ := h
  cases hgoes with
  | prepared =>
      obtain ⟨reply, rfl⟩ := Exchange.ok_of_not_failed ha
      exact ⟨_, .prepared⟩
  | locked =>
      obtain ⟨reply, rfl⟩ := Exchange.ok_of_not_failed ha
      exact ⟨_, .locked⟩
  | missing | found =>
      obtain ⟨reply, rfl⟩ := Exchange.ok_of_not_failed ha
      cases hrows : reply.rows.isEmpty with
      | true => exact ⟨_, .missing hrows⟩
      | false => exact ⟨_, .found hrows⟩
  | applied hsent =>
      obtain ⟨reply, rfl⟩ := Exchange.ok_of_not_failed ha
      exact ⟨_, .applied hsent⟩
  | recorded hsent =>
      obtain ⟨reply, rfl⟩ := Exchange.ok_of_not_failed ha
      exact ⟨_, .recorded hsent⟩
  | begun =>
      obtain rfl : a = .ok () := not_not.mp ha
      exact ⟨_, .begun⟩
  | committed =>
      obtain rfl : a = .ok () := not_not.mp ha
      exact ⟨_, .committed⟩
  | passed =>
      obtain rfl : a = .ok () := not_not.mp ha
      exact ⟨_, .passed⟩

theorem Asks.ne_failed (h : p.Asks c) (got rest : List Migration) : p ≠ failed got rest := by
  rintro rfl
  obtain ⟨_, _, hgoes⟩ := h
  cases hgoes

theorem Goes.ne_failed (h : p.Goes c a p') (got rest : List Migration) : p' ≠ failed got rest := by
  rintro rfl
  cases h

theorem Goes.got_eq (h : p.Goes c a p') :
    p'.got = p.got ∨ c = .commit ∧ ∃ part after, p.rest = part :: after ∧
      p'.got = p.got ++ [part] := by
  cases h with
  | committed => exact .inr ⟨rfl, _, _, rfl, rfl⟩
  | prepared | begun | locked | missing | found | applied | recorded | passed => exact .inl rfl

/-! ## Where a call ends -/

/-- The call failed in a part, and the error names no other one. -/
def FailsWith : Phase → MigrationError → Prop
  | failed _ (part :: _), e => ∀ name detail, e = .failed name detail → name = part.name
  | _, _ => False

theorem failed_of_failsWith {e : MigrationError} (h : p.FailsWith e) :
    ∃ got rest, p = failed got rest := by
  cases p with
  | failed got rest => exact ⟨got, rest, rfl⟩
  | preparing | resting | opened | locked | applying | written | present => exact h.elim

/-- The call applied what it returns, and nothing is left, or it failed. -/
def Ends (p : Phase) : Except MigrationError (List String) → Prop
  | .ok names => ∃ got, p = resting got [] ∧ names = got.map (·.name)
  | .error e => p.FailsWith e

end Phase

/-! ## The programs -/

section Follows

variable {α β : Type} {P : Protocol Exchange Exchange.Answer Phase} {p : Phase}
  {ends : Phase → Except MigrationError β → Prop}

theorem follows_attempt_bind {x : Applying α} {f : α → Applying β} :
    (x >>= f).run.Follows P ends p ↔ x.run.Follows P (fun q r =>
      match r with
      | .ok a => (f a).run.Follows P ends q
      | .error e => ends q (.error e)) p := by
  rw [ExceptT.run_bind]
  refine Program.follows_bind.trans (iff_of_eq (congrArg (x.run.Follows P · p) ?_))
  funext q r
  cases r <;> rfl

theorem follows_send_bind {toError : DatabaseError → MigrationError} {s : Statement}
    {params : List Value} {f : Reply → Applying β} (hasks : p.Asks (.run none s params))
    (hgoes : ∀ reply q, p.Goes (.run none s params) (some (.ok reply)) q →
      (f reply).run.Follows Phase.Moves ends q)
    (hfail : ∀ e, ends p.fail (.error (toError e))) :
    (Attempt.send toError s params >>= f).run.Follows Phase.Moves ends p := by
  intro answer
  match answer with
  | some (.ok reply) =>
      obtain ⟨q, hq⟩ := hasks.exists_goes (c := .run none s params) fun hfailed => hfailed reply rfl
      exact ⟨q, .inl hq, hgoes reply q hq⟩
  | some (.error e) => exact ⟨p.fail, .inr ⟨hasks, nofun, rfl⟩, hfail e⟩
  | none => exact ⟨p.fail, .inr ⟨hasks, nofun, rfl⟩, hfail _⟩

variable {f : Unit → Applying β}

theorem follows_begin_bind (hasks : p.Asks .begin)
    (hgoes : ∀ q, p.Goes .begin (.ok ()) q → (f ()).run.Follows Phase.Moves ends q)
    (hfail : ∀ e, ends p.fail (.error (.database e))) :
    (Attempt.begin .database >>= f).run.Follows Phase.Moves ends p := by
  intro answer
  match answer with
  | .ok () =>
      obtain ⟨q, hq⟩ := hasks.exists_goes (c := .begin) fun hfailed => hfailed rfl
      exact ⟨q, .inl hq, hgoes q hq⟩
  | .error e => exact ⟨p.fail, .inr ⟨hasks, nofun, rfl⟩, hfail e⟩

theorem follows_commit_bind (hasks : p.Asks .commit)
    (hgoes : ∀ q, p.Goes .commit (.ok ()) q → (f ()).run.Follows Phase.Moves ends q)
    (hfail : ∀ e, ends p.fail (.error (.database e))) :
    (Attempt.commit .database >>= f).run.Follows Phase.Moves ends p := by
  intro answer
  match answer with
  | .ok () =>
      obtain ⟨q, hq⟩ := hasks.exists_goes (c := .commit) fun hfailed => hfailed rfl
      exact ⟨q, .inl hq, hgoes q hq⟩
  | .error e => exact ⟨p.fail, .inr ⟨hasks, nofun, rfl⟩, hfail e⟩

theorem follows_rollback_bind (hasks : p.Asks .rollback)
    (hgoes : ∀ q, p.Goes .rollback (.ok ()) q → (f ()).run.Follows Phase.Moves ends q)
    (hfail : ∀ e, ends p.fail (.error (.database e))) :
    (Attempt.rollback .database >>= f).run.Follows Phase.Moves ends p := by
  intro answer
  match answer with
  | .ok () =>
      obtain ⟨q, hq⟩ := hasks.exists_goes (c := .rollback) fun hfailed => hfailed rfl
      exact ⟨q, .inl hq, hgoes q hq⟩
  | .error e => exact ⟨p.fail, .inr ⟨hasks, nofun, rfl⟩, hfail e⟩

theorem follows_applyStatements (p : Place) {sent todo : List Statement}
    (h : sent ++ todo = p.part.statements) :
    (applyStatements p.part.name todo).run.Follows Phase.Moves (fun q r =>
      match r with
      | .ok () => q = .applying p p.part.statements []
      | .error e => q.FailsWith e) (.applying p sent todo) := by
  induction todo generalizing sent with
  | nil =>
      rw [← h, List.append_nil]
      rfl
  | cons s rest ih =>
      refine follows_send_bind ⟨some (.ok ⟨[], 0⟩), _, .applied h⟩ (fun reply q hgoes => ?_)
        fun e name detail hname => ?_
      · cases hgoes with
        | applied => exact ih (by rw [List.append_assoc]; exact h)
      · cases hname
        rfl

theorem follows_apply (got : List Migration) (m : Migration) (after : List Migration) :
    m.apply.run.Follows Phase.Moves (fun q r =>
      match r with
      | .ok isNew => q = .resting (if isNew then got ++ [m] else got) after
      | .error e => q.FailsWith e) (.resting got (m :: after)) := by
  unfold apply
  refine follows_begin_bind ⟨_, _, .begun⟩ (fun q hgoes => ?_) fun _ => nofun
  cases hgoes
  refine follows_send_bind ⟨some (.ok ⟨[], 0⟩), _, .locked⟩ (fun reply q hgoes => ?_) fun _ => nofun
  cases hgoes
  refine follows_send_bind ⟨some (.ok ⟨[], 0⟩), _, .missing rfl⟩ (fun reply q hgoes => ?_)
    fun _ => nofun
  cases hgoes with
  | found hrows =>
      rw [if_neg (by rw [hrows]; exact Bool.false_ne_true)]
      refine follows_rollback_bind ⟨_, _, .passed⟩ (fun q hgoes => ?_) fun _ => nofun
      cases hgoes
      rfl
  | missing hrows =>
      rw [if_pos hrows]
      refine follows_attempt_bind.mpr ((follows_applyStatements ⟨got, m, after⟩ rfl).mono ?_)
      rintro q (e | ⟨⟩) hq
      · exact hq
      · obtain rfl := hq
        refine follows_send_bind ⟨some (.ok ⟨[], 0⟩), _, .recorded rfl⟩ (fun reply q hgoes => ?_)
          fun _ => nofun
        cases hgoes
        refine follows_commit_bind ⟨_, _, .committed⟩ (fun q hgoes => ?_) fun _ => nofun
        cases hgoes
        rfl

theorem follows_applyAll (got rest : List Migration) :
    (applyAll rest).run.Follows Phase.Moves (fun q r =>
      match r with
      | .ok names => ∃ new, q = .resting (got ++ new) [] ∧ names = new.map (·.name)
      | .error e => q.FailsWith e) (.resting got rest) := by
  induction rest generalizing got with
  | nil => exact ⟨[], by rw [List.append_nil], rfl⟩
  | cons m after ih =>
      refine follows_attempt_bind.mpr ((follows_apply got m after).mono ?_)
      rintro q (e | isNew) hq
      · exact hq
      · obtain rfl := hq
        refine follows_attempt_bind.mpr ((ih _).mono ?_)
        rintro q (e | names) hq
        · exact hq
        · obtain ⟨new, rfl, rfl⟩ := hq
          cases isNew with
          | true => exact ⟨m :: new, by simp, rfl⟩
          | false => exact ⟨new, rfl, rfl⟩

theorem follows_run : run.run.Follows Phase.Moves Phase.Ends .preparing := by
  refine follows_attempt_bind.mpr (follows_send_bind ⟨some (.ok ⟨[], 0⟩), _, .prepared⟩
    (fun reply q hgoes => ?_) fun _ => nofun)
  cases hgoes
  refine (follows_applyAll [] all).mono ?_
  rintro q (e | names) hq
  · exact hq
  · obtain ⟨new, rfl, rfl⟩ := hq
    exact ⟨new, rfl, rfl⟩

end Follows

end Migration

end GridQueue
