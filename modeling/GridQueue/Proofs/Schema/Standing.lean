/-
# `GridQueue.Proofs.Schema.Standing` — what calls know of each other

Calls that apply the parts share a server, and each of its answers moves
one of them.  `owners` lists the parts that are in place, each with the
call that committed it; it is what all of them know, and it only grows.

    Standing   the server agrees with `owners`: what was committed, what
               is recorded, and that one call at most holds the lock
    Fits       a call agrees with `owners`: how far it is, what it has
               applied itself, and what its transaction has done

The lock decides who may add to `owners`.  A call that found its part
missing holds it until the commit, so the parts that it got past are all
there are (`Stands`).  A call without the lock learns at its next look at
the record what others have added.

`Kept.step` says that every answer keeps this, failures included, and
`Kept.drop` that lost connections do.
-/
import GridQueue.Proofs.Schema.Record
import GridQueue.Proofs.Schema.Runner

namespace GridQueue

open Sql

namespace Migration

variable {ι : Type}

/-! ## What was committed -/

/-- The statements of the schema that were committed, and for whom, oldest
first. -/
def committed (log : List (ι × Entry)) : List (ι × Statement) :=
  (log.map fun e => (e.1, e.2.statement)).filter fun s => isSchema s.2

theorem committed_append (log log' : List (ι × Entry)) :
    committed (log ++ log') = committed log ++ committed log' := by
  rw [committed, List.map_append, List.filter_append, committed, committed]

/-- The statements of a part, for the call that committed them. -/
def statementsFor (o : ι × Migration) : List (ι × Statement) := o.2.statements.map (o.1, ·)

/-- What a transaction sends that applies a part. -/
def transaction (m : Migration) : List (Statement × List Value) :=
  (.lock, lockParams) :: (recorded, [.text m.name]) :: m.statements.map (·, [])
    ++ [(record, [.text m.name])]

theorem committed_pending (i : ι) (pending : List Entry) : committed (pending.map (i, ·)) =
    (((pending.map Entry.sent).map Prod.fst).filter isSchema).map (i, ·) := by
  simp only [committed, List.map_map, List.filter_map]
  rfl

theorem committed_transaction {m : Migration} {pending : List Entry} (i : ι) (hm : m ∈ all)
    (h : pending.map Entry.sent = m.transaction) :
    committed (pending.map (i, ·)) = statementsFor (i, m) := by
  have hsent : m.transaction.map Prod.fst = .lock :: recorded :: m.statements ++ [record] := by
    simp only [transaction, List.map_append, List.map_cons, List.map_map, List.map_nil]
    exact congrArg (fun l => Statement.lock :: recorded :: l ++ [record]) (List.map_id m.statements)
  have hpart : m.statements.filter isSchema = m.statements :=
    List.filter_eq_self.mpr fun s hs => isSchema_of_mem hm hs
  rw [committed_pending, h, hsent, List.cons_append, List.cons_append,
    List.filter_cons_of_neg Bool.false_ne_true, List.filter_cons_of_neg Bool.false_ne_true,
    List.filter_append, hpart]
  rw [List.filter_cons_of_neg Bool.false_ne_true, List.filter_nil, List.append_nil, statementsFor]

/-! ## What is recorded -/

/-- The parts that are recorded can be looked up. -/
def Prepared (v : Server ι) : Prop := v.database.table? Schema.migrationRecord.table ≠ none

section Replay

theorem Records.prepared {v : Server ι} {names : List String} (h : Records v.database names) :
    Prepared v := by
  obtain ⟨-, l, -, ht⟩ := h
  rw [Prepared, ht]
  exact Option.some_ne_none _

variable {d : Database} {names : List String} {pending : List Entry}
  {sent : List (Statement × List Value)} {m : Migration}

theorem Records.replay_sent (h : Records d names) (hpending : pending.map Entry.sent = sent)
    (hquiet : ∀ s ∈ sent, s.1.IsQuiet) : ∃ d', d.replay pending = .ok d' ∧ Records d' names := by
  refine h.replay fun e he => hquiet e.sent ?_
  rw [← hpending]
  exact List.mem_map_of_mem he

/-- What is sent before a part is recorded leaves the records alone. -/
theorem isQuiet_applying {name : String} {statements : List Statement}
    (h : ∀ s ∈ statements, s.IsQuiet) : ∀ s ∈ ((.lock, lockParams) ::
      (recorded, [.text name]) :: statements.map (·, []) : List (Statement × List Value)),
      s.1.IsQuiet := by
  refine List.forall_mem_cons.mpr ⟨trivial, List.forall_mem_cons.mpr ⟨isQuiet_recorded, ?_⟩⟩
  exact List.forall_mem_map.mpr h

/-- The whole transaction can be carried out if the part is not recorded,
and then it is recorded after the others. -/
theorem Records.replay_transaction (h : Records d names) (hm : m ∈ all) (hname : m.name ∉ names)
    (hpending : pending.map Entry.sent = m.transaction) :
    ∃ d', d.replay pending = .ok d' ∧ Records d' (names ++ [m.name]) := by
  obtain ⟨before, last, rfl, hbefore, hlast⟩ := List.map_eq_append_iff.mp hpending
  obtain ⟨e, rfl, he⟩ := List.map_eq_singleton_iff.mp hlast
  obtain ⟨hstatement, hparams⟩ := Prod.mk.inj he
  obtain ⟨d₁, hreplay, hd₁⟩ := h.replay_sent hbefore
    (isQuiet_applying fun s hs => isQuiet_of_mem hm hs)
  obtain ⟨reply, d', hexecute, hd'⟩ := hd₁.record hname (name_fits m hm) e.now
  exact ⟨d', Database.replay_concat hreplay (by rw [hstatement, hparams, hexecute]), hd'⟩

end Replay

/-! ## The state of the server -/

/-- The server agrees with what is in place. -/
structure Standing (owners : List (ι × Migration)) (v : Server ι) : Prop where
  parts : owners.map (·.2) = all.take owners.length
  committed : committed v.log = owners.flatMap statementsFor
  records : ¬ Prepared v ∧ owners = [] ∨ Records v.database (owners.map (·.2.name))
  exclusive : v.Exclusive lockParams

namespace Standing

variable {owners : List (ι × Migration)} {v v' : Server ι}

theorem names_eq (h : Standing owners v) :
    owners.map (·.2.name) = (all.take owners.length).map (·.name) := by
  rw [← h.parts, List.map_map]
  rfl

/-- The parts that a call got past are recorded, and the one it is at only
if others have added it. -/
theorem name_mem_iff (h : Standing owners v) {n : Nat} {m : Migration} {after : List Migration}
    (hrest : all.drop n = m :: after) :
    m.name ∈ owners.map (·.2.name) ↔ n < owners.length := by
  rw [h.names_eq]
  exact name_mem_take_iff hrest _

/-- The part that a call is at is missing if no others are in place than
those it got past. -/
theorem name_not_mem (h : Standing owners v) {n : Nat} {m : Migration} {after : List Migration}
    (hrest : all.drop n = m :: after) (hcount : owners.length = n) :
    m.name ∉ owners.map (·.2.name) := by
  rw [h.name_mem_iff hrest, hcount]
  exact Nat.lt_irrefl n

theorem names_nodup (h : Standing owners v) : (owners.map (·.2.name)).Nodup := by
  rw [h.names_eq]
  exact Migration.names_nodup.sublist ((List.take_sublist _ _).map _)

theorem records_of_prepared (h : Standing owners v) (hv : Prepared v) :
    Records v.database (owners.map (·.2.name)) :=
  h.records.resolve_left fun hnone => hnone.1 hv

/-- What a call does in a transaction nobody notices but for the lock. -/
theorem of_same (h : Standing owners v) (hexclusive : v'.Exclusive lockParams)
    (hdatabase : v'.database = v.database) (hlog : v'.log = v.log) : Standing owners v' where
  parts := h.parts
  committed := by rw [hlog, h.committed]
  records := by
    unfold Prepared
    rw [hdatabase]
    exact h.records
  exclusive := hexclusive

end Standing

variable [DecidableEq ι]

/-- The parts that a call has put in place. -/
def share (owners : List (ι × Migration)) (i : ι) : List Migration :=
  (owners.filter (·.1 = i)).map (·.2)

section Share

variable {owners : List (ι × Migration)} {i j : ι} {m : Migration}

omit [DecidableEq ι] in
theorem map_snd_map (i : ι) (new : List Migration) : (new.map (i, ·)).map (·.2) = new := by
  rw [List.map_map]
  exact List.map_id' new

theorem share_append_own (new : List Migration) :
    share (owners ++ new.map (i, ·)) i = share owners i ++ new := by
  have hnew : (new.map (i, ·)).filter (·.1 = i) = new.map (i, ·) :=
    List.filter_eq_self.mpr fun o ho => by
      obtain ⟨m, -, rfl⟩ := List.mem_map.mp ho
      exact decide_eq_true rfl
  rw [share, List.filter_append, hnew, List.map_append, map_snd_map, share]

theorem share_append_other (new : List Migration) (h : j ≠ i) :
    share (owners ++ new.map (i, ·)) j = share owners j := by
  have hnew : (new.map (i, ·)).filter (·.1 = j) = [] :=
    List.filter_eq_nil_iff.mpr fun o ho => by
      obtain ⟨m, -, rfl⟩ := List.mem_map.mp ho
      exact fun heq => h (of_decide_eq_true heq).symm
  rw [share, List.filter_append, hnew, List.append_nil, share]

end Share

/-! ## The state of a call -/

/-- A transaction is open in which this was sent, unless the connection is
lost. -/
def IsOpen (session : Session) (sent : List (Statement × List Value)) : Prop :=
  session = .lost ∨ ∃ pending, session = .within pending ∧ pending.map Entry.sent = sent

/-- Where a call stands with the server, if it got past `n` of the `k`
parts that are in place. -/
def Phase.Stands (session : Session) (n k : Nat) : Phase → Prop
  | .preparing | .resting _ _ => session = .idle
  | .opened _ => IsOpen session []
  | .locked _ => IsOpen session [(.lock, lockParams)]
  | .applying p sent todo =>
      IsOpen session ((.lock, lockParams) :: (recorded, [.text p.part.name]) :: sent.map (·, [])) ∧
        sent ++ todo = p.part.statements ∧ (session = .lost ∨ k = n)
  | .written p => IsOpen session p.part.transaction ∧ (session = .lost ∨ k = n)
  | .present p => IsOpen session [(.lock, lockParams), (recorded, [.text p.part.name])] ∧ n < k
  | .failed _ _ => True

/-- The call has seen to it that parts can be recorded, and goes on. -/
def Phase.IsUnderWay : Phase → Prop
  | .preparing | .failed _ _ => False
  | .resting _ _ | .opened _ | .locked _ | .applying _ _ _ | .written _ | .present _ => True

/-- The exchange ends a transaction as the call wants it. -/
def closing : (c : ι × Exchange) → c.2.Answer → Option Unit
  | (_, .commit), .ok () | (_, .rollback), .ok () => some ()
  | _, _ => none

/-- The exchange is a commit of which the call hears that it failed. -/
def refusedCommit : (c : ι × Exchange) → c.2.Answer → Option DatabaseError
  | (_, .commit), .error e => some e
  | _, _ => none

/-- What calls asked of the server, and what they were told. -/
abbrev History (ι : Type) := List (Event ι (ι × Exchange) (fun c => c.2.Answer) (Server ι))

/-- The number of parts that a call got past. -/
def passed (i : ι) (es : History ι) : Nat := (Event.gather closing i es).length

/-- A call agrees with what is in place.  A part that it does not know to
have applied is one whose commit took effect unheard. -/
structure Fits (unheard : Prop) (owners : List (ι × Migration)) (v : Server ι) (es : History ι)
    (i : ι) (p : Phase) : Prop where
  rest : p.rest = all.drop (passed i es)
  seen : passed i es ≤ owners.length
  got : p.got.Sublist (all.take (passed i es))
  made : share owners i = p.got ∨ (∃ got rest, p = .failed got rest) ∧ unheard ∧
    Event.gather refusedCommit i es ≠ [] ∧
    ∃ part after, p.rest = part :: after ∧ share owners i = p.got ++ [part]
  stands : p.Stands (v.session i) (passed i es) owners.length
  prepared : p.IsUnderWay → Prepared v

/-! ## One call moves -/

section Step

variable {unheard : Prop} {owners : List (ι × Migration)} {v v' s t : Server ι} {es : History ι}
  {i j : ι} {p p' : Phase} {c : Exchange} {a b : c.Answer} {new : List Migration}
  {sent : List (Statement × List Value)} {limit : Option Span} {st : Statement}
  {params : List Value} {n k k' : Nat} {session : Session}

theorem passed_own :
    passed i (es ++ [⟨i, (i, c), a, s, t⟩]) = passed i es + (closing (i, c) a).toList.length := by
  rw [passed, Event.gather_own, List.length_append, passed]

omit [DecidableEq ι] in
theorem closing_of_failed (h : c.Failed a) : closing (i, c) a = none := by
  cases c with
  | run | begin => rfl
  | commit | rollback =>
      cases a with
      | ok u => exact absurd rfl h
      | error e => rfl

theorem passed_other {c : ι × Exchange} {a : c.2.Answer} (h : j ≠ i) :
    passed j (es ++ [⟨i, c, a, s, t⟩]) = passed j es := by
  rw [passed, Event.gather_other (Ne.symm h), passed]

/-- In its transaction a call sees one statement carried out after the
others. -/
theorem IsOpen.carries_run {a : (Exchange.run limit st params).Answer}
    (h : IsOpen (v.session i) sent) (hc : v.Carries i (.run limit st params) a v') :
    ∃ pending now reply d d', v.session i = .within pending ∧ pending.map Entry.sent = sent ∧
      v.database.replay pending = .ok d ∧ d.execute now st params = .ok (reply, d') ∧
      a = some (.ok reply) ∧ v' = v.setSession i (.within (pending ++ [⟨now, st, params⟩])) := by
  cases hc with
  | run hidle =>
      rcases h with hlost | ⟨_, hwithin, -⟩
      · cases hidle.symm.trans hlost
      · cases hidle.symm.trans hwithin
  | @runWithin pending d _ _ _ now reply d' hwithin _ hreplay hexecute =>
      rcases h with hlost | ⟨_, hwithin', hsent⟩
      · cases hwithin.symm.trans hlost
      · cases hwithin.symm.trans hwithin'
        exact ⟨pending, now, reply, d, d', hwithin, hsent, hreplay, hexecute, rfl, rfl⟩

theorem isOpen_concat {pending : List Entry} {now : Instant} (h : pending.map Entry.sent = sent) :
    IsOpen ((v.setSession i (.within (pending ++ [⟨now, st, params⟩]))).session i)
      (sent ++ [(st, params)]) := by
  refine .inr ⟨_, Server.setSession_self .., ?_⟩
  rw [List.map_append, h]
  rfl

/-- A call that does not hold the lock does not mind that others add
parts. -/
theorem Phase.Stands.frame (h : p.Stands session n k) (hk : k ≤ k')
    (hlock : k' = k ∨ ∀ pending, session = .within pending →
      (Statement.lock, lockParams) ∉ pending.map Entry.sent) : p.Stands session n k' := by
  have hcount : ∀ {rest : List (Statement × List Value)},
      IsOpen session ((.lock, lockParams) :: rest) → (session = .lost ∨ k = n) →
      (session = .lost ∨ k' = n) := by
    rintro rest hopen (hlost | rfl)
    · exact .inl hlost
    · rcases hopen with hlost | ⟨pending, hwithin, hsent⟩
      · exact .inl hlost
      · refine .inr (hlock.resolve_right fun hno => hno pending hwithin ?_)
        rw [hsent]
        exact List.mem_cons_self ..
  cases p with
  | preparing | resting | opened | locked | failed => exact h
  | applying => exact ⟨h.1, h.2.1, hcount h.1 h.2.2⟩
  | written => exact ⟨h.1, hcount h.1 h.2⟩
  | present => exact ⟨h.1, Nat.lt_of_lt_of_le h.2 hk⟩

theorem Phase.Stands.drop {pending : List Entry} (h : p.Stands (.within pending) n k) :
    p.Stands .lost n k := by
  cases p with
  | preparing | resting => cases h
  | opened | locked => exact .inl rfl
  | applying => exact ⟨.inl rfl, h.2.1, .inl rfl⟩
  | written => exact ⟨.inl rfl, .inl rfl⟩
  | present => exact ⟨.inl rfl, h.2⟩
  | failed => trivial

theorem Standing.drop (h : Standing owners v) (hd : v.Drops v') : Standing owners v' := by
  have hexclusive := hd.exclusive h.exclusive
  obtain ⟨i, pending, -, rfl⟩ := hd
  exact h.of_same hexclusive rfl rfl

namespace Fits

theorem share_eq (h : Fits unheard owners v es i p) (hp : ∀ got rest, p ≠ .failed got rest) :
    share owners i = p.got := by
  refine h.made.resolve_right fun hfailed => ?_
  obtain ⟨⟨got, rest, hphase⟩, -⟩ := hfailed
  exact hp got rest hphase

theorem part_mem (h : Fits unheard owners v es i p) {m : Migration} {after : List Migration}
    (hrest : p.rest = m :: after) : m ∈ all := by
  refine List.drop_subset (passed i es) _ ?_
  rw [← h.rest, hrest]
  exact List.mem_cons_self ..

theorem frame {c : ι × Exchange} {a : c.2.Answer} (h : Fits unheard owners v es j p) (hj : j ≠ i)
    (hsession : v'.session j = v.session j) (hnew : new = [] ∨ ¬ v.Holds j lockParams)
    (hprepared : Prepared v → Prepared v') :
    Fits unheard (owners ++ new.map (i, ·)) v' (es ++ [⟨i, c, a, s, t⟩]) j p := by
  have hpassed : passed j (es ++ [⟨i, c, a, s, t⟩]) = passed j es := passed_other hj
  have hlength : (owners ++ new.map (i, ·)).length = owners.length + new.length := by
    rw [List.length_append, List.length_map]
  constructor
  case rest => rw [hpassed, h.rest]
  case seen =>
    rw [hpassed, hlength]
    exact Nat.le_add_right_of_le h.seen
  case got =>
    rw [hpassed]
    exact h.got
  case made =>
    rw [share_append_other new hj, Event.gather_other (Ne.symm hj)]
    exact h.made
  case stands =>
    rw [hpassed, hlength, hsession]
    refine h.stands.frame (Nat.le_add_right ..) ?_
    rcases hnew with rfl | hno
    · exact .inl rfl
    · exact .inr fun pending hwithin hmem => hno ⟨pending, hwithin, hmem⟩
  case prepared => exact fun hp => hprepared (h.prepared hp)

theorem drop (h : Fits unheard owners v es i p) (hd : v.Drops v') :
    Fits unheard owners v' es i p := by
  obtain ⟨j, pending, hwithin, rfl⟩ := hd
  refine ⟨h.rest, h.seen, h.got, h.made, ?_, h.prepared⟩
  have hstands := h.stands
  by_cases hj : i = j
  · subst hj
    rw [hwithin] at hstands
    rw [Server.setSession_self]
    exact hstands.drop
  · rwa [show (v.setSession j .lost).session i = v.session i from Function.update_of_ne hj ..]

theorem stay (h : Fits unheard owners v es i p) (hgoes : p.Goes c a p')
    (hclosing : closing (i, c) a = none) (hrest : p'.rest = p.rest) (hgot : p'.got = p.got)
    (hstands : p'.Stands (v'.session i) (passed i es) owners.length)
    (hprepared : p'.IsUnderWay → Prepared v') :
    Fits unheard owners v' (es ++ [⟨i, (i, c), a, s, t⟩]) i p' := by
  have hpassed : passed i (es ++ [⟨i, (i, c), a, s, t⟩]) = passed i es := by
    rw [passed_own, hclosing]
    rfl
  have hshare : share owners i = p.got := h.share_eq (Phase.Asks.ne_failed ⟨a, p', hgoes⟩)
  exact ⟨by rw [hpassed, hrest, h.rest], by rw [hpassed]; exact h.seen,
    by rw [hpassed, hgot]; exact h.got, .inl (hshare.trans hgot.symm),
    by rw [hpassed]; exact hstands, hprepared⟩

theorem fail (h : Fits unheard owners v es i p) (hasks : p.Asks c) (hfailed : c.Failed a) :
    Fits unheard owners v (es ++ [⟨i, (i, c), a, s, t⟩]) i p.fail := by
  have hpassed : passed i (es ++ [⟨i, (i, c), a, s, t⟩]) = passed i es := by
    rw [passed_own, closing_of_failed hfailed]
    rfl
  exact ⟨by rw [hpassed]; exact h.rest, by rw [hpassed]; exact h.seen,
    by rw [hpassed]; exact h.got, .inl (h.share_eq hasks.ne_failed), trivial, nofun⟩

/-- A call hears of a failure, but what it asked for has happened. -/
theorem fail_unheard (h : Fits unheard owners v es i p) (hgoes : p.Goes c b p')
    (h' : Fits unheard (owners ++ new.map (i, ·)) v' (es ++ [⟨i, (i, c), b, s, t⟩]) i p')
    (hfailed : c.Failed a) (hunheard : unheard) :
    Fits unheard (owners ++ new.map (i, ·)) v' (es ++ [⟨i, (i, c), a, s, t⟩]) i p.fail := by
  have hpassed : passed i (es ++ [⟨i, (i, c), a, s, t⟩]) = passed i es := by
    rw [passed_own, closing_of_failed hfailed]
    rfl
  have hshare : share (owners ++ new.map (i, ·)) i = p'.got := h'.share_eq hgoes.ne_failed
  constructor
  case rest => rw [hpassed]; exact h.rest
  case seen =>
    rw [hpassed, List.length_append]
    exact Nat.le_add_right_of_le h.seen
  case got => rw [hpassed]; exact h.got
  case made =>
    rcases hgoes.got_eq with hgot | ⟨rfl, part, after, hrest, hgot⟩
    · exact .inl (hshare.trans hgot)
    · refine .inr ⟨⟨_, _, rfl⟩, hunheard, ?_, part, after, hrest, hshare.trans hgot⟩
      cases a with
      | ok u => exact absurd rfl hfailed
      | error e =>
          exact List.ne_nil_of_mem (Event.mem_gather_own (f := refusedCommit) rfl)
  case stands => trivial
  case prepared => exact nofun

end Fits

/-- What one call does when the server carries out what it asks for: parts
are added by a call that holds the lock only. -/
structure Advance (unheard : Prop) (owners : List (ι × Migration)) (v : Server ι) (es : History ι)
    (i : ι) (new : List Migration) (v' : Server ι) (p' : Phase) : Prop where
  standing : Standing (owners ++ new.map (i, ·)) v'
  fits : Fits unheard (owners ++ new.map (i, ·)) v' es i p'
  holds : new = [] ∨ v.Holds i lockParams
  prepared : Prepared v → Prepared v'

theorem Advance.still (hs : Standing owners v') (hp : Fits unheard owners v' es i p')
    (hprepared : Prepared v → Prepared v') : Advance unheard owners v es i [] v' p' := by
  refine ⟨?_, ?_, .inl rfl, hprepared⟩
  · simpa only [List.map_nil, List.append_nil] using hs
  · simpa only [List.map_nil, List.append_nil] using hp

theorem Advance.within {pending : List Entry} {now : Instant} {reply : Reply}
    (hs : Standing owners v) (hp : Fits unheard owners v es i p)
    (hgoes : p.Goes (.run limit st params) (some (.ok reply)) p')
    (hc : v.Carries i (.run limit st params) (some (.ok reply))
      (v.setSession i (.within (pending ++ [⟨now, st, params⟩]))))
    (hopen : pending.map Entry.sent = sent) (hway : p.IsUnderWay) (hrest : p'.rest = p.rest)
    (hgot : p'.got = p.got)
    (hstands : ∀ session, IsOpen session (sent ++ [(st, params)]) →
      p'.Stands session (passed i es) owners.length) :
    Advance unheard owners v (es ++ [⟨i, (i, .run limit st params), some (.ok reply), s, t⟩]) i []
      (v.setSession i (.within (pending ++ [⟨now, st, params⟩]))) p' :=
  .still (hs.of_same (hc.exclusive hs.exclusive) rfl rfl)
    (hp.stay hgoes rfl hrest hgot (hstands _ (isOpen_concat hopen)) fun _ => hp.prepared hway)
    id

/-- Under the lock a call finds its part missing if and only if there are
no more parts than it got past. -/
theorem Fits.isEmpty_iff {place : Place} {pending : List Entry} {now : Instant} {reply : Reply}
    {d d' : Database} (hp : Fits unheard owners v es i (.locked place)) (hs : Standing owners v)
    (hsent : pending.map Entry.sent = [(.lock, lockParams)])
    (hreplay : v.database.replay pending = .ok d)
    (hexecute : d.execute now recorded [.text place.part.name] = .ok (reply, d')) :
    reply.rows.isEmpty = true ↔ owners.length = passed i es := by
  obtain ⟨d₁, hreplay₁, hd₁⟩ := (hs.records_of_prepared (hp.prepared trivial)).replay_sent hsent
    (List.forall_mem_singleton.mpr trivial)
  obtain rfl : d₁ = d := Except.ok.inj (hreplay₁.symm.trans hreplay)
  obtain ⟨reply₁, hexecute₁, hrows⟩ := hd₁.recorded now place.part.name
  obtain ⟨rfl, -⟩ := Prod.mk.inj (Except.ok.inj (hexecute₁.symm.trans hexecute))
  rw [hrows, hs.name_mem_iff hp.rest.symm]
  have := hp.seen
  omega

theorem Advance.commit {place : Place} {pending : List Entry} {d : Database}
    (hs : Standing owners v) (hp : Fits unheard owners v es i (.written place))
    (hc : v.Carries i .commit (.ok ()) (v.commit i pending d))
    (hwithin : v.session i = .within pending) (hreplay : v.database.replay pending = .ok d) :
    Advance unheard owners v (es ++ [⟨i, (i, .commit), .ok (), s, t⟩]) i [place.part]
      (v.commit i pending d) (.resting (place.got ++ [place.part]) place.after) := by
  obtain ⟨hopen, hcount⟩ := hp.stands
  have hsent : pending.map Entry.sent = place.part.transaction := by
    rcases hopen with hlost | ⟨_, hwithin', hsent⟩
    · cases hwithin.symm.trans hlost
    · cases hwithin.symm.trans hwithin'
      exact hsent
  have hcount : owners.length = passed i es := by
    refine hcount.resolve_left fun hlost => ?_
    cases hwithin.symm.trans hlost
  have hrest : all.drop (passed i es) = place.part :: place.after := hp.rest.symm
  have hm : place.part ∈ all := hp.part_mem rfl
  have htake : all.take (passed i es + 1) = all.take (passed i es) ++ [place.part] := by
    rw [List.take_add, hrest]
    rfl
  have hafter : all.drop (passed i es + 1) = place.after := by
    rw [← List.drop_drop, hrest]
    rfl
  have hpassed : passed i (es ++ [⟨i, (i, .commit), .ok (), s, t⟩]) = passed i es + 1 := passed_own
  have hlength : (owners ++ [place.part].map (i, ·)).length = passed i es + 1 := by
    rw [List.length_append, hcount]
    rfl
  obtain ⟨d₁, hreplay₁, hd₁⟩ := (hs.records_of_prepared (hp.prepared trivial)).replay_transaction hm
    (hs.name_not_mem hrest hcount) hsent
  obtain rfl : d₁ = d := Except.ok.inj (hreplay₁.symm.trans hreplay)
  have hprepared : Prepared (v.commit i pending d₁) := hd₁.prepared
  constructor
  case standing =>
    refine ⟨?_, ?_, .inr ?_, hc.exclusive hs.exclusive⟩
    · rw [hlength, htake, List.map_append, hs.parts, hcount]
      rfl
    · rw [show (v.commit i pending d₁).log = v.log ++ pending.map (i, ·) from rfl, committed_append,
        hs.committed, committed_transaction i hm hsent, List.flatMap_append]
      exact congrArg _ (List.append_nil _).symm
    · rw [List.map_append]
      exact hd₁
  case fits =>
    constructor
    case rest => rw [hpassed, hafter]; rfl
    case seen => rw [hpassed, hlength]
    case got =>
      rw [hpassed, htake]
      exact hp.got.append (List.Sublist.refl _)
    case made =>
      left
      rw [share_append_own, hp.share_eq nofun]
      rfl
    case stands => exact Server.commit_self ..
    case prepared => exact fun _ => hprepared
  case holds =>
    refine .inr ⟨pending, hwithin, ?_⟩
    rw [hsent]
    exact List.mem_cons_self ..
  case prepared => exact fun _ => hprepared

theorem Fits.advance (hp : Fits unheard owners v es i p) (hs : Standing owners v)
    (hgoes : p.Goes c a p') (hc : v.Carries i c a v') :
    ∃ new, Advance unheard owners v (es ++ [⟨i, (i, c), a, s, t⟩]) i new v' p' := by
  have hstands := hp.stands
  cases hgoes with
  | prepared =>
      have hserved := hc
      cases hc with
      | runWithin hwithin => cases hstands.symm.trans hwithin
      | @run _ _ _ now reply d hidle hgrants hexecute =>
          obtain ⟨rfl, rfl⟩ := Prod.mk.inj (Except.ok.inj hexecute)
          have hrecords : Records (v.database.create Schema.migrationRecord)
              (owners.map (·.2.name)) := by
            rcases hs.records with ⟨hnone, rfl⟩ | hrecords
            · exact Records.prepare_of_none (not_not.mp hnone)
            · exact hrecords.prepare
          refine ⟨[], .still ?_ (hp.stay .prepared rfl rfl rfl hidle fun _ => hrecords.prepared)
            fun _ => hrecords.prepared⟩
          refine ⟨hs.parts, ?_, .inr hrecords, hserved.exclusive hs.exclusive⟩
          exact (committed_append _ _).trans ((List.append_nil _).trans hs.committed)
  | begun =>
      have hexclusive := hc.exclusive hs.exclusive
      cases hc
      exact ⟨[], .still (hs.of_same hexclusive rfl rfl)
        (hp.stay .begun rfl rfl rfl (.inr ⟨[], Server.setSession_self .., rfl⟩)
          fun _ => hp.prepared trivial) id⟩
  | locked =>
      obtain ⟨pending, now, reply, d, d', hwithin, hsent, -, -, ⟨⟩, rfl⟩ :=
        IsOpen.carries_run hstands hc
      exact ⟨[], .within hs hp .locked hc hsent trivial rfl rfl fun _ hopen => hopen⟩
  | missing hrows =>
      obtain ⟨pending, now, reply, d, d', hwithin, hsent, hreplay, hexecute, ⟨⟩, rfl⟩ :=
        IsOpen.carries_run hstands hc
      exact ⟨[], .within hs hp (.missing hrows) hc hsent trivial rfl rfl fun _ hopen =>
        ⟨hopen, rfl, .inr ((hp.isEmpty_iff hs hsent hreplay hexecute).mp hrows)⟩⟩
  | found hrows =>
      obtain ⟨pending, now, reply, d, d', hwithin, hsent, hreplay, hexecute, ⟨⟩, rfl⟩ :=
        IsOpen.carries_run hstands hc
      refine ⟨[], .within hs hp (.found hrows) hc hsent trivial rfl rfl fun _ hopen =>
        ⟨hopen, Nat.lt_of_le_of_ne hp.seen fun heq => ?_⟩⟩
      cases hrows.symm.trans ((hp.isEmpty_iff hs hsent hreplay hexecute).mpr heq.symm)
  | applied hstatements =>
      obtain ⟨hopen, hsplit, hcount⟩ := hstands
      obtain ⟨pending, now, reply, d, d', hwithin, hsent, -, -, ⟨⟩, rfl⟩ :=
        IsOpen.carries_run hopen hc
      refine ⟨[], .within hs hp (.applied hstatements) hc hsent trivial rfl rfl
        fun _ hopen' => ⟨?_, ?_, ?_⟩⟩
      · simpa using hopen'
      · simpa using hsplit
      · exact .inr (hcount.resolve_left fun hlost => nomatch hwithin.symm.trans hlost)
  | recorded hstatements =>
      obtain ⟨hopen, -, hcount⟩ := hstands
      obtain ⟨pending, now, reply, d, d', hwithin, hsent, -, -, ⟨⟩, rfl⟩ :=
        IsOpen.carries_run hopen hc
      subst hstatements
      exact ⟨[], .within hs hp (.recorded rfl) hc hsent trivial rfl rfl fun _ hopen' =>
        ⟨hopen', .inr (hcount.resolve_left fun hlost => nomatch hwithin.symm.trans hlost)⟩⟩
  | @committed place =>
      have hc' := hc
      cases hc with
      | commit hwithin hreplay =>
          exact ⟨[place.part], .commit hs hp hc' hwithin hreplay⟩
  | @passed place =>
      have hexclusive := hc.exclusive hs.exclusive
      cases hc with
      | rollback hwithin =>
          have hpassed : passed i (es ++ [⟨i, (i, .rollback), .ok (), s, t⟩]) = passed i es + 1 :=
            passed_own
          refine ⟨[], .still (hs.of_same hexclusive rfl rfl) ?_ id⟩
          constructor
          case rest =>
            rw [hpassed, ← List.drop_drop, ← hp.rest]
            rfl
          case seen =>
            rw [hpassed]
            exact hstands.2
          case got =>
            rw [hpassed]
            exact hp.got.trans (List.take_sublist_take_left (Nat.le_succ _))
          case made => exact .inl (hp.share_eq nofun)
          case stands => exact Server.setSession_self ..
          case prepared => exact fun _ => hp.prepared trivial

theorem IsOpen.exists_pending (h : IsOpen session sent) (hlost : session ≠ .lost) :
    ∃ pending, session = .within pending ∧ pending.map Entry.sent = sent :=
  h.resolve_left hlost

/-- A call that has not lost its connection can be served if nobody else
holds the lock. -/
theorem Fits.exists_carries (hp : Fits unheard owners v es i p) (hs : Standing owners v)
    (hasks : p.Asks c) (hlost : v.session i ≠ .lost)
    (hfree : ∀ j, j ≠ i → ¬ v.Holds j lockParams) : ∃ a v', v.Carries i c a v' := by
  obtain ⟨a, p', hgoes⟩ := hasks
  have hstands := hp.stands
  let now : Instant := ⟨0, false⟩
  cases hgoes with
  | prepared =>
      obtain ⟨reply, d', hexecute, -⟩ := v.database.execute_of_isQuiet now []
        (s := .createTable Schema.migrationRecord) trivial
      exact ⟨_, _, .run hstands nofun hexecute⟩
  | begun => exact ⟨_, _, .begin hstands⟩
  | locked =>
      obtain ⟨pending, hwithin, hsent⟩ := IsOpen.exists_pending hstands hlost
      obtain ⟨d, hreplay, -⟩ := (hs.records_of_prepared (hp.prepared trivial)).replay_sent hsent
        (List.forall_mem_nil _)
      obtain ⟨reply, d', hexecute, -⟩ := d.execute_of_isQuiet now lockParams (s := .lock) trivial
      exact ⟨_, _, .runWithin hwithin (fun _ => hfree) hreplay hexecute⟩
  | @missing place | @found place =>
      obtain ⟨pending, hwithin, hsent⟩ := IsOpen.exists_pending hstands hlost
      obtain ⟨d, hreplay, hd⟩ := (hs.records_of_prepared (hp.prepared trivial)).replay_sent hsent
        (List.forall_mem_singleton.mpr trivial)
      obtain ⟨reply, hexecute, -⟩ := hd.recorded now place.part.name
      exact ⟨_, _, .runWithin hwithin nofun hreplay hexecute⟩
  | @applied place sent st todo _ hstatements =>
      have hm : place.part ∈ all := hp.part_mem rfl
      have hquiet : ∀ st ∈ place.part.statements, st.IsQuiet := fun st hst =>
        isQuiet_of_mem hm hst
      rw [← hstatements] at hquiet
      obtain ⟨hbefore, hrest⟩ := List.forall_mem_append.mp hquiet
      obtain ⟨pending, hwithin, hsent⟩ := hstands.1.exists_pending hlost
      obtain ⟨d, hreplay, -⟩ := (hs.records_of_prepared (hp.prepared trivial)).replay_sent hsent
        (isQuiet_applying hbefore)
      obtain ⟨reply, d', hexecute, -⟩ :=
        d.execute_of_isQuiet now [] (hrest st (List.mem_cons_self ..))
      refine ⟨_, _, .runWithin hwithin (fun hst => ?_) hreplay hexecute⟩
      have hschema : isSchema st = true := isSchema_of_mem hm (hstatements ▸ by simp)
      rw [hst] at hschema
      cases hschema
  | @recorded place sent _ hstatements =>
      have hquiet : ∀ st ∈ sent, st.IsQuiet := fun st hst =>
        isQuiet_of_mem (hp.part_mem rfl) (hstatements ▸ hst)
      obtain ⟨hopen, -, hcount⟩ := hstands
      obtain ⟨pending, hwithin, hsent⟩ := hopen.exists_pending hlost
      obtain ⟨d, hreplay, hd⟩ := (hs.records_of_prepared (hp.prepared trivial)).replay_sent hsent
        (isQuiet_applying hquiet)
      have hname := hs.name_not_mem hp.rest.symm (hcount.resolve_left hlost)
      obtain ⟨reply, d', hexecute, -⟩ := hd.record hname (name_fits _ (hp.part_mem rfl)) now
      exact ⟨_, _, .runWithin hwithin nofun hreplay hexecute⟩
  | @committed place =>
      have hm : place.part ∈ all := hp.part_mem rfl
      obtain ⟨hopen, hcount⟩ := hstands
      obtain ⟨pending, hwithin, hsent⟩ := hopen.exists_pending hlost
      have hname := hs.name_not_mem hp.rest.symm (hcount.resolve_left hlost)
      obtain ⟨d, hreplay, -⟩ :=
        (hs.records_of_prepared (hp.prepared trivial)).replay_transaction hm hname hsent
      exact ⟨_, _, .commit hwithin hreplay⟩
  | passed =>
      obtain ⟨pending, hwithin, -⟩ := hstands.1.exists_pending hlost
      exact ⟨_, _, .rollback hwithin⟩

end Step

end Migration

end GridQueue
