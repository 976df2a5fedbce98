/-
# `GridQueue.Proofs.Sql.Server` — a database that many calls share

A server has one database, and each call has a connection of its own.
Outside a transaction a statement takes effect at once.  Inside one it is
carried out on what is committed by then, after the earlier statements of
the transaction; nobody else sees any of them until all take effect in the
end, or none.

    Entry     a statement that was carried out, at its time
    replay    entries one after another, all of them or none
    Carries   the server does what it was asked for
    world     it does, or the call hears of a failure
    Drops     a connection is lost while its transaction is open

A lock is held from the statement that takes it until the transaction
ends, in whatever way.  Nothing else is said of who comes next, so a
statement that waits for a lock is one that is answered later.

A call that hears of a failure has had no effect, unless answers may get
lost on their way (`unheard`).
-/
import GridQueue.Proofs.Interleaving
import GridQueue.Proofs.Sql.Rows
import GridQueue.Sql.Session

namespace GridQueue

/-! ## Programs on behalf of someone -/

section OnBehalf

variable {ι C M α β : Type} {A : C → Type}

/-- The program, with every call marked as one of `i`. -/
def Program.onBehalf (i : ι) (p : Program C A α) : Program (ι × C) (fun c => A c.2) α :=
  p.interpret fun c => .perform (A := fun c : ι × C => A c.2) (i, c)

/-- The protocol, for calls that are marked as those of `i`. -/
def Protocol.onBehalf (i : ι) (P : Protocol C A M) : Protocol (ι × C) (fun c => A c.2) M :=
  fun m c a m' => c.1 = i ∧ P m c.2 a m'

theorem Program.Follows.onBehalf {P : Protocol C A M} {p : Program C A α} {ends : M → α → Prop}
    {m : M} (h : p.Follows P ends m) (i : ι) :
    (p.onBehalf i).Follows (Protocol.onBehalf i P) ends m := by
  induction p generalizing m with
  | done a => exact h
  | call c next ih =>
      intro answer
      obtain ⟨m', hmove, hnext⟩ := h answer
      exact ⟨m', ⟨rfl, hmove⟩, ih answer hnext⟩

end OnBehalf

namespace Sql

/-! ## Replaying -/

/-- A statement that was carried out. -/
structure Entry where
  now : Instant
  statement : Statement
  params : List Value

def Entry.sent (e : Entry) : Statement × List Value := (e.statement, e.params)

namespace Database

variable {d d' : Database} {e : Entry} {es : List Entry} {name : String} {l : Layout}
  {now : Instant} {s : Statement} {params : List Value}

/-- The database after entries, unless one of them is refused. -/
def replay : Database → List Entry → Except DatabaseError Database
  | d, [] => .ok d
  | d, e :: rest =>
      match d.execute e.now e.statement e.params with
      | .ok (_, d') => d'.replay rest
      | .error error => .error error

theorem replay_concat {reply : Reply} {d'' : Database} (h : d.replay es = .ok d')
    (he : d'.execute e.now e.statement e.params = .ok (reply, d'')) :
    d.replay (es ++ [e]) = .ok d'' := by
  induction es generalizing d with
  | nil =>
      cases h
      simp only [List.nil_append, replay, he]
  | cons e' rest ih =>
      simp only [List.cons_append, replay] at h ⊢
      split at h
      · exact ih h
      · cases h

/-! ## Statements that leave the tables alone -/

theorem table?_create (d : Database) (l : Layout) (name : String) :
    (d.create l).table? name =
      (d.table? name).or (if l.table = name then some { layout := l } else none) := by
  unfold create
  split
  · next hl =>
    by_cases hname : l.table = name
    · subst hname
      obtain ⟨t, ht⟩ := Option.isSome_iff_exists.mp hl
      rw [ht]
      rfl
    · rw [if_neg hname, Option.or_none]
  · rw [table?, List.find?_append, List.find?_singleton, table?]
    simp only [beq_iff_eq]

end Database

/-- A statement that leaves alone what stands in a table. -/
def Statement.IsQuiet : Statement → Prop
  | .lock | .createTable _ | .createIndex _ => True
  | .query q => q.parts = [] ∧ ∃ s, q.last = .select s

namespace Database

variable {d d' : Database} {es : List Entry} {now : Instant} {s : Statement} {params : List Value}

/-- It is carried out, and the tables that are there stay as they are. -/
theorem execute_of_isQuiet (d : Database) (now : Instant) (params : List Value) (h : s.IsQuiet) :
    ∃ reply d', d.execute now s params = .ok (reply, d') ∧
      ∀ name t, d.table? name = some t → d'.table? name = some t := by
  cases s with
  | lock => exact ⟨_, d, rfl, fun _ _ ht => ht⟩
  | createTable l =>
      refine ⟨_, d.create l, rfl, fun name t ht => ?_⟩
      rw [table?_create, ht]
      rfl
  | createIndex i =>
      refine ⟨_, _, rfl, fun name t ht => ?_⟩
      split
      · exact ht
      · exact ht
  | query q =>
      obtain ⟨hparts, select, hlast⟩ := h
      obtain ⟨parts, last⟩ := q
      obtain rfl : parts = [] := hparts
      obtain rfl : last = .select select := hlast
      exact ⟨_, d, rfl, fun _ _ ht => ht⟩

theorem replay_of_isQuiet (d : Database) (h : ∀ e ∈ es, e.statement.IsQuiet) :
    ∃ d', d.replay es = .ok d' ∧ ∀ name t, d.table? name = some t → d'.table? name = some t := by
  induction es generalizing d with
  | nil => exact ⟨d, rfl, fun _ _ ht => ht⟩
  | cons e rest ih =>
      obtain ⟨he, hrest⟩ := List.forall_mem_cons.mp h
      obtain ⟨reply, d₁, hexecute, hkeeps⟩ := d.execute_of_isQuiet e.now e.params he
      obtain ⟨d', hreplay, hkeeps'⟩ := ih d₁ hrest
      refine ⟨d', ?_, fun name t ht => hkeeps' name t (hkeeps name t ht)⟩
      rw [replay, hexecute]
      exact hreplay

end Database

/-! ## Servers -/

/-- Where a call stands with the server. -/
inductive Session
  /-- no transaction is open -/
  | idle
  /-- a transaction is open, in which these statements were carried out -/
  | within (pending : List Entry)
  /-- the connection was lost while a transaction was open -/
  | lost

/-- A server. -/
structure Server (ι : Type) where
  database : Database
  /-- What was committed, and for whom, oldest first. -/
  log : List (ι × Entry) := []
  session : ι → Session := fun _ => .idle

namespace Server

variable {ι : Type}

/-- A call holds the lock that these parameters name. -/
def Holds (v : Server ι) (i : ι) (key : List Value) : Prop :=
  ∃ pending, v.session i = .within pending ∧ (Statement.lock, key) ∈ pending.map Entry.sent

variable [DecidableEq ι]

/-- A call stands elsewhere with the server. -/
def setSession (v : Server ι) (i : ι) (session : Session) : Server ι :=
  { v with session := Function.update v.session i session }

/-- A statement takes effect at once. -/
def autocommit (v : Server ι) (i : ι) (e : Entry) (d : Database) : Server ι :=
  { v with database := d, log := v.log ++ [(i, e)] }

def commit (v : Server ι) (i : ι) (pending : List Entry) (d : Database) : Server ι :=
  { database := d
    log := v.log ++ pending.map (i, ·)
    session := Function.update v.session i .idle }

/-- A lock can be had if nobody else holds it. -/
def Grants (v : Server ι) (i : ι) (s : Statement) (params : List Value) : Prop :=
  s = .lock → ∀ j, j ≠ i → ¬ v.Holds j params

/-- The server does what a call asks for, and tells it so. -/
inductive Carries (v : Server ι) (i : ι) : (c : Exchange) → c.Answer → Server ι → Prop
  | run {limit s params now reply d} :
      v.session i = .idle → v.Grants i s params →
      v.database.execute now s params = .ok (reply, d) →
      Carries v i (.run limit s params) (some (.ok reply)) (v.autocommit i ⟨now, s, params⟩ d)
  | runWithin {pending d limit s params now reply d'} :
      v.session i = .within pending → v.Grants i s params → v.database.replay pending = .ok d →
      d.execute now s params = .ok (reply, d') →
      Carries v i (.run limit s params) (some (.ok reply))
        (v.setSession i (.within (pending ++ [⟨now, s, params⟩])))
  | begin : v.session i = .idle → Carries v i .begin (.ok ()) (v.setSession i (.within []))
  | commit {pending d} :
      v.session i = .within pending → v.database.replay pending = .ok d →
      Carries v i .commit (.ok ()) (v.commit i pending d)
  | rollback {pending} :
      v.session i = .within pending → Carries v i .rollback (.ok ()) (v.setSession i .idle)

end Server

/-- The answer says that the exchange failed. -/
def Exchange.Failed : (c : Exchange) → c.Answer → Prop
  | .run .., a => ∀ reply, a ≠ some (.ok reply)
  | .begin, a | .commit, a | .rollback, a => a ≠ .ok ()

namespace Server

variable {ι : Type} [DecidableEq ι] {v v' : Server ι} {i j : ι} {c : Exchange} {a : c.Answer}
  {key : List Value}

/-- The world of a server that does what it is asked for. -/
def faultless : World (ι × Exchange) (fun c => c.2.Answer) (Server ι) :=
  fun c v a v' => v.Carries c.1 c.2 a v'

/-- The world of a server that may fail at any exchange, without an effect
unless answers may get lost. -/
def world (unheard : Prop) : World (ι × Exchange) (fun c => c.2.Answer) (Server ι) :=
  fun c v a v' => v.Carries c.1 c.2 a v' ∨
    c.2.Failed a ∧ (v' = v ∨ unheard ∧ ∃ b, v.Carries c.1 c.2 b v')

/-- A connection is lost, and the transaction that was open on it. -/
def Drops (v v' : Server ι) : Prop :=
  ∃ i pending, v.session i = .within pending ∧ v' = v.setSession i .lost

theorem Carries.not_failed (h : v.Carries i c a v') : ¬ c.Failed a := by
  cases h with
  | run | runWithin => exact fun hfail => hfail _ rfl
  | begin | commit | rollback => exact fun hfail => hfail rfl

theorem Carries.session_other (h : v.Carries i c a v') (hj : j ≠ i) :
    v'.session j = v.session j := by
  cases h with
  | run => rfl
  | runWithin | begin | commit | rollback => exact Function.update_of_ne hj _ _

@[simp] theorem setSession_self (v : Server ι) (i : ι) (s : Session) :
    (v.setSession i s).session i = s := Function.update_self ..

@[simp] theorem commit_self (v : Server ι) (i : ι) (pending : List Entry) (d : Database) :
    (v.commit i pending d).session i = .idle := Function.update_self ..

theorem Carries.session_ne_lost (h : v.Carries i c a v') : v'.session i ≠ .lost := by
  cases h with
  | run hidle =>
      intro hlost
      cases hidle.symm.trans hlost
  | runWithin | begin | rollback =>
      rw [setSession_self]
      exact nofun
  | commit =>
      rw [commit_self]
      exact nofun

/-! ## Locks -/

omit [DecidableEq ι] in
theorem Holds.congr (h : v.Holds j key) (hj : v'.session j = v.session j) : v'.Holds j key := by
  obtain ⟨pending, hpending, hmem⟩ := h
  exact ⟨pending, hj.trans hpending, hmem⟩

omit [DecidableEq ι] in
theorem not_holds_of_idle (h : v.session i = .idle) : ¬ v.Holds i key := by
  rintro ⟨pending, hpending, -⟩
  cases h.symm.trans hpending

omit [DecidableEq ι] in
theorem not_holds_of_lost (h : v.session i = .lost) : ¬ v.Holds i key := by
  rintro ⟨pending, hpending, -⟩
  cases h.symm.trans hpending

/-- At most one call holds the lock. -/
def Exclusive (v : Server ι) (key : List Value) : Prop :=
  ∀ i j, v.Holds i key → v.Holds j key → i = j

/-- One call moves, and if it takes the lock then nobody else holds it. -/
theorem Exclusive.step (h : v.Exclusive key) (hother : ∀ j, j ≠ i → v'.session j = v.session j)
    (hi : v'.Holds i key → v.Holds i key ∨ ∀ j, j ≠ i → ¬ v.Holds j key) :
    v'.Exclusive key := by
  have hback : ∀ j, j ≠ i → v'.Holds j key → v.Holds j key := fun j hj hholds =>
    hholds.congr (hother j hj).symm
  have hpair : ∀ j, j ≠ i → v'.Holds i key → ¬ v'.Holds j key := by
    intro j hj hholds hholds'
    rcases hi hholds with hown | hnone
    · exact hj (h j i (hback j hj hholds') hown)
    · exact hnone j hj (hback j hj hholds')
  intro j k hholds hholds'
  by_cases hj : j = i
  · subst hj
    by_contra hk
    exact hpair k (Ne.symm hk) hholds hholds'
  · by_cases hk : k = i
    · subst hk
      exact absurd hholds (hpair j hj hholds')
    · exact h j k (hback j hj hholds) (hback k hk hholds')

/-- Exclusion is kept whatever the server carries out. -/
theorem Carries.exclusive (h : v.Carries i c a v') (hexclusive : v.Exclusive key) :
    v'.Exclusive key := by
  refine hexclusive.step (fun j hj => h.session_other hj) fun hholds => ?_
  cases h with
  | run => exact .inl hholds
  | @runWithin pending d limit s params now reply d' hwithin hgrants =>
      obtain ⟨pending', hpending', hmem⟩ := hholds
      obtain rfl : pending ++ [⟨now, s, params⟩] = pending' :=
        Session.within.inj ((setSession_self v i _).symm.trans hpending')
      rw [List.map_append, List.mem_append] at hmem
      rcases hmem with hmem | hmem
      · exact .inl ⟨pending, hwithin, hmem⟩
      · obtain ⟨rfl, rfl⟩ := Prod.mk.inj (List.mem_singleton.mp hmem)
        exact .inr (hgrants rfl)
  | begin =>
      obtain ⟨pending', hpending', hmem⟩ := hholds
      obtain rfl : [] = pending' :=
        Session.within.inj ((setSession_self v i _).symm.trans hpending')
      cases hmem
  | commit => exact absurd hholds (not_holds_of_idle (commit_self ..))
  | rollback => exact absurd hholds (not_holds_of_idle (setSession_self ..))

theorem Drops.exclusive (h : v.Drops v') (hexclusive : v.Exclusive key) : v'.Exclusive key := by
  obtain ⟨i, pending, -, rfl⟩ := h
  refine hexclusive.step (fun j hj => Function.update_of_ne hj _ _) fun hholds => ?_
  exact absurd hholds (not_holds_of_lost (setSession_self ..))

/-! ## A server that can be run -/

def takesLock : Statement → Bool
  | .lock => true
  | .query _ | .createTable _ | .createIndex _ => false

/-- A lock was taken in the transaction. -/
def isLocking : Session → Bool
  | .within pending => pending.any fun e => takesLock e.statement
  | .idle | .lost => false

/-- The connection of a call is lost if a transaction is open on it. -/
def lose (v : Server ι) (i : ι) : Server ι :=
  match v.session i with
  | .within _ => v.setSession i .lost
  | .idle | .lost => v

/-- A server that does what it is asked for at a time, except for the
statements it refuses.  It knows of the calls `callers` only, and nobody
waits there for a lock. -/
def serve (callers : List ι) (now : Instant) (refuses : ι → Statement → Bool) :
    (c : ι × Exchange) → Server ι → c.2.Answer × Server ι
  | (i, .run _ s params), v =>
      if refuses i s then (some (.error (.refused "out of space")), v)
      else if takesLock s && callers.any fun j => decide (j ≠ i) && isLocking (v.session j) then
        (none, v)
      else
        match v.session i with
        | .idle =>
            match v.database.execute now s params with
            | .ok (reply, d) => (some (.ok reply), v.autocommit i ⟨now, s, params⟩ d)
            | .error e => (some (.error e), v)
        | .within pending =>
            match v.database.replay pending with
            | .ok d =>
                match d.execute now s params with
                | .ok (reply, _) =>
                    (some (.ok reply), v.setSession i (.within (pending ++ [⟨now, s, params⟩])))
                | .error e => (some (.error e), v)
            | .error e => (some (.error e), v)
        | .lost => (none, v)
  | (i, .begin), v =>
      match v.session i with
      | .idle => (.ok (), v.setSession i (.within []))
      | .within _ | .lost => (.error .poolClosed, v)
  | (i, .commit), v =>
      match v.session i with
      | .within pending =>
          match v.database.replay pending with
          | .ok d => (.ok (), v.commit i pending d)
          | .error e => (.error e, v)
      | .idle | .lost => (.error .poolClosed, v)
  | (i, .rollback), v =>
      match v.session i with
      | .within _ => (.ok (), v.setSession i .idle)
      | .idle | .lost => (.error .poolClosed, v)

section Serve

variable {callers : List ι} {now : Instant} {refuses : ι → Statement → Bool} {unheard : Prop}

omit [DecidableEq ι] in
theorem isLocking_of_holds (h : v.Holds i key) : isLocking (v.session i) = true := by
  obtain ⟨pending, hwithin, hmem⟩ := h
  obtain ⟨e, he, hsent⟩ := List.mem_map.mp hmem
  have hlock : e.statement = .lock := congrArg Prod.fst hsent
  rw [hwithin]
  exact List.any_eq_true.mpr ⟨e, he, by rw [hlock]; rfl⟩

theorem lose_drops (v : Server ι) (i : ι) : Relation.ReflTransGen Drops v (v.lose i) := by
  unfold lose
  split
  · next pending hwithin => exact .single ⟨i, pending, hwithin, rfl⟩
  · exact .refl
  · exact .refl

theorem world_serve (hcallers : ∀ i, i ∈ callers) (c : ι × Exchange) (v : Server ι) :
    world unheard c v (serve callers now refuses c v).1 (serve callers now refuses c v).2 := by
  have hfail : ∀ {c : ι × Exchange} {a : c.2.Answer}, c.2.Failed a → world unheard c v a v :=
    fun h => .inr ⟨h, .inl rfl⟩
  obtain ⟨i, c⟩ := c
  cases c with
  | run limit s params =>
      simp only [serve]
      split
      · exact hfail nofun
      · split
        · exact hfail nofun
        · next hlock =>
          have hgrants : v.Grants i s params := by
            rintro rfl j hj hholds
            refine hlock (List.any_eq_true.mpr ⟨j, hcallers j, ?_⟩)
            rw [decide_eq_true hj, isLocking_of_holds hholds]
            rfl
          split
          · next hidle =>
            split
            · next hexecute => exact .inl (.run hidle hgrants hexecute)
            · exact hfail nofun
          · next hwithin =>
            split
            · next hreplay =>
              split
              · next hexecute => exact .inl (.runWithin hwithin hgrants hreplay hexecute)
              · exact hfail nofun
            · exact hfail nofun
          · exact hfail nofun
  | begin =>
      simp only [serve]
      split
      · next hidle => exact .inl (.begin hidle)
      · exact hfail nofun
      · exact hfail nofun
  | commit =>
      simp only [serve]
      split
      · next hwithin =>
        split
        · next hreplay => exact .inl (.commit hwithin hreplay)
        · exact hfail nofun
      · exact hfail nofun
      · exact hfail nofun
  | rollback =>
      simp only [serve]
      split
      · next hwithin => exact .inl (.rollback hwithin)
      · exact hfail nofun
      · exact hfail nofun

end Serve

end Server

end Sql

end GridQueue
