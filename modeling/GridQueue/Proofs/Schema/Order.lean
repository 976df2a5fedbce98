/-
# `GridQueue.Proofs.Schema.Order` — the parts are put in place once and in order

Any number of calls apply the parts of the schema to one database, taking
turns in any order; each may fail at any exchange, and may lose its
connection between two of them.  At any time

    the parts that are recorded are the first ones, in order,
    a part is recorded if and only if all its statements are committed,
    the statements were committed part by part, each of them once,
    and each part was put in place by one call (`AppliedInOrder`).

A call that succeeds returns the parts it has put in place itself.  One
that fails leaves nothing of the part it failed in, except if answers may
get lost: then its commit may have taken effect, and all of the part is
there.  A call that is served without failures afterwards puts in place
what is missing (`Completes`).
-/
import GridQueue.Proofs.Schema.Standing
import GridQueue.Proofs.Yield

namespace GridQueue

open Sql

namespace Migration

variable {ι : Type} [DecidableEq ι]

/-! ## All calls -/

/-- The server and all calls agree with what is in place, and a call that
was not served yet has not begun. -/
structure Kept (unheard : Prop) (owners : List (ι × Migration)) (es : History ι)
    (modes : ι → Phase) (v : Server ι) : Prop where
  standing : Standing owners v
  fits : ∀ i, Fits unheard owners v es i (modes i)
  untouched : ∀ i, (∀ e ∈ es, e.thread ≠ i) → modes i = .preparing

namespace Kept

variable {unheard : Prop} {owners : List (ι × Migration)} {es : History ι} {modes : ι → Phase}
  {v v' s t : Server ι} {i j : ι} {p p' : Phase} {c : Exchange} {a : c.Answer}
  {new : List Migration}

theorem start {d : Database} (hd : d.table? Schema.migrationRecord.table = none) :
    Kept unheard ([] : List (ι × Migration)) [] (fun _ => .preparing) { database := d } where
  standing := ⟨rfl, rfl, .inl ⟨not_not.mpr hd, rfl⟩, fun _ _ hholds =>
    absurd hholds (Server.not_holds_of_idle rfl)⟩
  fits _ := ⟨rfl, Nat.zero_le _, .slnil, .inl rfl, rfl, nofun⟩
  untouched _ _ := rfl

theorem drops (h : Kept unheard owners es modes v)
    (hdrops : Relation.ReflTransGen Server.Drops v v') : Kept unheard owners es modes v' := by
  induction hdrops with
  | refl => exact h
  | tail _ hd ih => exact ⟨ih.standing.drop hd, fun i => (ih.fits i).drop hd, ih.untouched⟩

theorem of_own (h : Kept unheard owners es modes v)
    (hstanding : Standing (owners ++ new.map (i, ·)) v')
    (hfits : Fits unheard (owners ++ new.map (i, ·)) v' (es ++ [⟨i, (i, c), a, s, t⟩]) i p')
    (hholds : new = [] ∨ v.Holds i lockParams) (hprepared : Prepared v → Prepared v')
    (hsession : ∀ j, j ≠ i → v'.session j = v.session j) :
    Kept unheard (owners ++ new.map (i, ·)) (es ++ [⟨i, (i, c), a, s, t⟩])
      (Function.update modes i p') v' where
  standing := hstanding
  fits j := by
    by_cases hj : j = i
    · subst hj
      rwa [Function.update_self]
    · rw [Function.update_of_ne hj]
      refine (h.fits j).frame hj (hsession j hj) ?_ hprepared
      exact hholds.imp_right fun hi hholds => hj (h.standing.exclusive _ _ hholds hi)
  untouched j hj := by
    have hne : i ≠ j := hj _ (List.mem_append_right _ (List.mem_singleton_self _))
    rw [Function.update_of_ne hne.symm]
    exact h.untouched j fun e he => hj e (List.mem_append_left _ he)

theorem carries (h : Kept unheard owners es modes v) (hgoes : (modes i).Goes c a p')
    (hc : v.Carries i c a v') :
    ∃ new : List Migration, Kept unheard (owners ++ new.map (i, ·)) (es ++ [⟨i, (i, c), a, s, t⟩])
      (Function.update modes i p') v' := by
  obtain ⟨new, hstanding, hfits, hholds, hprepared⟩ := (h.fits i).advance h.standing hgoes hc
  exact ⟨new, h.of_own hstanding hfits hholds hprepared fun j hj => hc.session_other hj⟩

theorem step (h : Kept unheard owners es modes v) (hmove : (modes i).Moves c a p')
    (hW : Server.world unheard (i, c) v a v') :
    ∃ new : List Migration, Kept unheard (owners ++ new.map (i, ·)) (es ++ [⟨i, (i, c), a, s, t⟩])
      (Function.update modes i p') v' := by
  rcases hW with hc | ⟨hfailed, hdone⟩
  · exact h.carries (hmove.resolve_right fun hfail => hc.not_failed hfail.2.1) hc
  · obtain ⟨hasks, -, rfl⟩ := hmove.resolve_left fun hgoes => hgoes.not_failed hfailed
    rcases hdone with rfl | ⟨hunheard, b, hc⟩
    · -- nothing has happened
      refine ⟨[], h.of_own ?_ ?_ (.inl rfl) id fun _ _ => rfl⟩
      · simpa only [List.map_nil, List.append_nil] using h.standing
      · simpa only [List.map_nil, List.append_nil] using (h.fits i).fail hasks hfailed
    · -- it has happened unheard
      obtain ⟨q, hgoes⟩ := hasks.exists_goes hc.not_failed
      obtain ⟨new, hstanding, hfits, hholds, hprepared⟩ :=
        (h.fits i).advance h.standing hgoes hc (s := s) (t := t)
      exact ⟨new, h.of_own hstanding ((h.fits i).fail_unheard hgoes hfits hfailed hunheard) hholds
        hprepared fun j hj => hc.session_other hj⟩

theorem all_of_resting {got : List Migration} (h : Kept unheard owners es modes v)
    (hi : modes i = .resting got []) : owners.map (·.2) = all ∧ share owners i = got := by
  have hfits := h.fits i
  rw [hi] at hfits
  have hpassed : all.length ≤ passed i es := List.drop_eq_nil_iff.mp hfits.rest.symm
  refine ⟨?_, ?_⟩
  · rw [h.standing.parts]
    exact List.take_of_length_le (Nat.le_trans hpassed hfits.seen)
  · exact hfits.share_eq nofun

theorem committed_eq (h : Kept unheard owners es modes v) :
    (committed v.log).map (·.2) = (owners.map (·.2)).flatMap (·.statements) := by
  rw [h.standing.committed, List.map_flatMap, List.flatMap_map]
  refine List.flatMap_congr fun o _ => ?_
  rw [statementsFor, List.map_map]
  exact List.map_id _

theorem recordedNames_eq (h : Kept unheard owners es modes v) :
    recordedNames v.database = owners.map (·.2.name) := by
  rcases h.standing.records with ⟨hnone, rfl⟩ | hrecords
  · exact recordedNames_of_none (not_not.mp hnone)
  · exact hrecords.recordedNames_eq

theorem mem_committed_iff (h : Kept unheard owners es modes v) {st : Statement} :
    (i, st) ∈ committed v.log ↔ ∃ m ∈ share owners i, st ∈ m.statements := by
  rw [h.standing.committed, List.mem_flatMap]
  constructor
  · rintro ⟨⟨j, m⟩, ho, hst⟩
    obtain ⟨st', hst', heq⟩ := List.mem_map.mp hst
    obtain ⟨rfl, rfl⟩ := Prod.mk.inj heq
    exact ⟨m, List.mem_map.mpr ⟨(j, m), List.mem_filter.mpr ⟨ho, decide_eq_true rfl⟩, rfl⟩, hst'⟩
  · rintro ⟨m, hm, hst⟩
    obtain ⟨⟨j, m⟩, hfilter, rfl⟩ := List.mem_map.mp hm
    obtain ⟨ho, hj⟩ := List.mem_filter.mp hfilter
    obtain rfl : j = i := of_decide_eq_true hj
    exact ⟨(j, m), ho, List.mem_map_of_mem hst⟩

theorem mem_all_of_mem (h : Kept unheard owners es modes v) {o : ι × Migration} (ho : o ∈ owners) :
    o.2 ∈ all := by
  refine List.take_subset owners.length _ ?_
  rw [← h.standing.parts]
  exact List.mem_map_of_mem ho

theorem name_mem_iff (h : Kept unheard owners es modes v) {m : Migration} (hm : m ∈ all) :
    m.name ∈ owners.map (·.2.name) ↔ m ∈ owners.map (·.2) := by
  constructor
  · intro hname
    obtain ⟨o, ho, heq⟩ := List.mem_map.mp hname
    rw [← List.inj_on_of_nodup_map names_nodup (h.mem_all_of_mem ho) hm heq]
    exact List.mem_map_of_mem ho
  · intro hmem
    obtain ⟨o, ho, rfl⟩ := List.mem_map.mp hmem
    exact List.mem_map_of_mem ho

/-- A part is recorded if and only if its statements are committed. -/
theorem recorded_iff (h : Kept unheard owners es modes v) {m : Migration} (hm : m ∈ all) :
    m.name ∈ recordedNames v.database ↔
      ∀ st ∈ m.statements, st ∈ (committed v.log).map (·.2) := by
  rw [h.recordedNames_eq, h.name_mem_iff hm, h.committed_eq]
  constructor
  · exact fun hmem st hst => List.mem_flatMap.mpr ⟨m, hmem, hst⟩
  · intro hall
    obtain ⟨st, hst⟩ := List.exists_mem_of_ne_nil _ (statements_ne_nil m hm)
    obtain ⟨m', hm', hst'⟩ := List.mem_flatMap.mp (hall st hst)
    obtain ⟨o, ho, rfl⟩ := List.mem_map.mp hm'
    rwa [eq_of_mem_statements hm (h.mem_all_of_mem ho) hst hst']

theorem committed_nodup (h : Kept unheard owners es modes v) :
    ((committed v.log).map (·.2)).Nodup := by
  have hall := statements_nodup
  rw [← List.take_append_drop owners.length all, List.flatMap_append] at hall
  rw [h.committed_eq, h.standing.parts]
  exact hall.of_append_left

theorem exists_owner (h : Kept unheard owners es modes v) {name : String}
    (hname : name ∈ recordedNames v.database) :
    ∃ i, ((share owners i).map (·.name)).count name = 1 ∧
      ∀ j, j ≠ i → name ∉ (share owners j).map (·.name) := by
  have hnames : ∀ i, (share owners i).map (·.name) =
      (owners.filter (·.1 = i)).map (·.2.name) := fun i => List.map_map
  rw [h.recordedNames_eq] at hname
  obtain ⟨o, ho, rfl⟩ := List.mem_map.mp hname
  refine ⟨o.1, ?_, fun j hj hmem => ?_⟩
  · rw [hnames]
    refine List.count_eq_one_of_mem (h.standing.names_nodup.sublist (List.filter_sublist.map _)) ?_
    exact List.mem_map_of_mem (List.mem_filter.mpr ⟨ho, decide_eq_true rfl⟩)
  · rw [hnames] at hmem
    obtain ⟨o', hfilter, heq⟩ := List.mem_map.mp hmem
    obtain ⟨ho', hj'⟩ := List.mem_filter.mp hfilter
    obtain rfl := List.inj_on_of_nodup_map h.standing.names_nodup ho' ho heq
    exact hj (of_decide_eq_true hj').symm

/-- A call that failed has left nothing of the part it failed in, or the
whole part if its commit took effect unheard. -/
theorem failed_part (h : Kept unheard owners es modes v) {e : MigrationError}
    (hfails : (modes i).FailsWith e) :
    ∃ m, all[passed i es]? = some m ∧ (∀ name detail, e = .failed name detail → name = m.name) ∧
      ((∀ st ∈ m.statements, (i, st) ∉ committed v.log) ∨
        unheard ∧ Event.gather refusedCommit i es ≠ [] ∧
          ∀ st ∈ m.statements, (i, st) ∈ committed v.log) := by
  obtain ⟨got, rest, hmode⟩ := Phase.failed_of_failsWith hfails
  have hfits := h.fits i
  rw [hmode] at hfits hfails
  cases rest with
  | nil => exact hfails.elim
  | cons m after =>
      have hrest : all.drop (passed i es) = m :: after := hfits.rest.symm
      refine ⟨m, by rw [← List.head?_drop, hrest]; rfl, hfails, ?_⟩
      rcases hfits.made with hshare | ⟨-, hunheard, hrefused, m', after', hrest', hshare⟩
      · left
        intro st hst hmem
        obtain ⟨m', hm', hst'⟩ := h.mem_committed_iff.mp hmem
        rw [hshare] at hm'
        have htake : m' ∈ all.take (passed i es) := hfits.got.subset hm'
        obtain rfl : m' = m :=
          eq_of_mem_statements (List.take_subset _ _ htake) (hfits.part_mem rfl) hst' hst
        exact Nat.lt_irrefl _ ((name_mem_take_iff hrest _).mp (List.mem_map_of_mem htake))
      · right
        obtain ⟨rfl, rfl⟩ := List.cons.inj hrest'
        refine ⟨hunheard, hrefused, fun st hst => h.mem_committed_iff.mpr ⟨m, ?_, hst⟩⟩
        rw [hshare]
        exact List.mem_append_right _ (List.mem_singleton_self m)

end Kept

/-! ## A later call -/

section Later

variable {unheard : Prop} {owners : List (ι × Migration)} {es : History ι} {modes : ι → Phase}
  {v v' : Server ι} {j : ι} {p p' : Phase} {c : Exchange} {a : c.Answer} {new : List Migration}

/-- What is known while one call is served without failures and alone. -/
structure Alone (unheard : Prop) (owners : List (ι × Migration)) (modes : ι → Phase) (j : ι)
    (p : Phase) (v : Server ι) (es : History ι) (new : List Migration) : Prop where
  kept : Kept unheard (owners ++ new.map (j, ·)) es (Function.update modes j p) v
  not_failed : ∀ got rest, p ≠ .failed got rest
  not_lost : v.session j ≠ .lost
  free : ∀ i, i ≠ j → ¬ v.Holds i lockParams

theorem Kept.alone (h : Kept unheard owners es modes v) (hj : ∀ e ∈ es, e.thread ≠ j)
    (hfree : ∀ i, ¬ v.Holds i lockParams) : Alone unheard owners modes j .preparing v es [] := by
  have hmode : modes j = .preparing := h.untouched j hj
  have hidle : v.session j = .idle := by
    have hstands := (h.fits j).stands
    rwa [hmode] at hstands
  refine ⟨?_, nofun, by rw [hidle]; exact nofun, fun i _ => hfree i⟩
  rw [← hmode, Function.update_eq_self, List.map_nil, List.append_nil]
  exact h

namespace Alone

theorem step (h : Alone unheard owners modes j p v es new) (hmove : p.Moves c a p')
    (hc : v.Carries j c a v') : ∃ es' new', Alone unheard owners modes j p' v' es' new' := by
  have hgoes := hmove.resolve_right fun hfail => hc.not_failed hfail.2.1
  obtain ⟨more, hkept⟩ := h.kept.carries (i := j) (s := v) (t := v')
    (by rwa [Function.update_self]) hc
  rw [Function.update_idem, List.append_assoc, ← List.map_append] at hkept
  exact ⟨_, _, hkept, hgoes.ne_failed, hc.session_ne_lost, fun i hi hholds =>
    h.free i hi (hholds.congr (hc.session_other hi).symm)⟩

theorem exists_carries (h : Alone unheard owners modes j p v es new) (hasks : p.Asks c) :
    ∃ a v', v.Carries j c a v' := by
  have hfits := h.kept.fits j
  rw [Function.update_self] at hfits
  exact hfits.exists_carries h.kept.standing hasks h.not_lost h.free

theorem new_eq {got : List Migration}
    (h : Alone unheard owners modes j (.resting got []) v' es new)
    (hparts : owners.map (·.2) = all.take owners.length) (hshare : share owners j = []) :
    got = all.drop owners.length ∧ new = all.drop owners.length := by
  obtain ⟨hall, hgot⟩ := h.kept.all_of_resting (Function.update_self ..)
  rw [share_append_own, hshare, List.nil_append] at hgot
  rw [List.map_append, hparts, map_snd_map] at hall
  have hnew := List.append_cancel_left (hall.trans (List.take_append_drop ..).symm)
  exact ⟨hgot.symm.trans hnew, hnew⟩

end Alone

/-- What a later call does that is served without failures and alone: it
comes to its end, and what it puts in place and returns is what was
missing. -/
structure Completes (v : Server ι) (j : ι) (missing : List Migration) : Prop where
  ends : ∃ r v', (run.run.onBehalf j).Yields Server.faultless v r v'
  result : ∀ r v', (run.run.onBehalf j).Yields Server.faultless v r v' →
    r = .ok (missing.map (·.name)) ∧ recordedNames v'.database = all.map (·.name) ∧
      committed v'.log = committed v.log ++ missing.flatMap fun m => statementsFor (j, m)

theorem Kept.completes (h : Kept unheard owners es modes v) (hj : ∀ e ∈ es, e.thread ≠ j)
    (hfree : ∀ i, ¬ v.Holds i lockParams) : Completes v j (all.drop owners.length) := by
  have hfollows := follows_run.onBehalf j
  have hstart : ∃ es new, Alone unheard owners modes j .preparing v es new :=
    ⟨es, [], h.alone hj hfree⟩
  have hmove : ∀ p v (c : ι × Exchange) a v' p',
      (∃ es new, Alone unheard owners modes j p v es new) →
      Protocol.onBehalf j Phase.Moves p c a p' → Server.faultless c v a v' →
      ∃ es new, Alone unheard owners modes j p' v' es new := by
    rintro p v ⟨_, c⟩ a v' p' ⟨es, new, halone⟩ ⟨rfl, hmove⟩ hc
    exact halone.step hmove hc
  have hshare : share owners j = [] := by
    have hfits := h.fits j
    rw [h.untouched j hj] at hfits
    exact hfits.share_eq nofun
  constructor
  case ends =>
    refine Program.exists_yields hfollows hstart hmove ?_
    rintro p v ⟨i, c⟩ ⟨es, new, halone⟩ hasks
    have hanswer : Nonempty c.Answer := by
      cases c with
      | run => exact ⟨none⟩
      | begin | commit | rollback => exact ⟨.ok ()⟩
    obtain ⟨p', rfl, hnext⟩ := hasks hanswer.some
    exact halone.exists_carries (Phase.Moves.asks hnext)
  case result =>
    intro r v' hyields
    obtain ⟨p, ⟨es', new, halone⟩, hends⟩ := hyields.invariant hfollows hstart hmove
    cases r with
    | error e =>
        obtain ⟨got, rest, rfl⟩ := Phase.failed_of_failsWith hends
        exact absurd rfl (halone.not_failed got rest)
    | ok names =>
        obtain ⟨got, rfl, rfl⟩ := hends
        obtain ⟨hgot, hnew⟩ := halone.new_eq h.standing.parts hshare
        obtain ⟨hall, -⟩ := halone.kept.all_of_resting (Function.update_self ..)
        refine ⟨by rw [hgot], ?_, ?_⟩
        · rw [halone.kept.recordedNames_eq, ← hall, List.map_map]
          rfl
        · rw [halone.kept.standing.committed, List.flatMap_append, h.standing.committed, hnew,
            List.flatMap_map]

end Later

/-! ## Runs -/

/-- Calls that apply the parts of the schema to one database. -/
def calls (ι : Type) (d : Database) : Threads ι (ι × Exchange) (fun c => c.2.Answer)
    (fun _ => Except MigrationError (List String)) (Server ι) :=
  ⟨{ database := d }, fun i => run.run.onBehalf i⟩

section Runs

variable {unheard : Prop} {d : Database} {es : History ι} {t : Threads ι (ι × Exchange)
  (fun c => c.2.Answer) (fun _ => Except MigrationError (List String)) (Server ι)}

/-- In every run, whatever fails and whoever comes next, all agree with
what is in place. -/
theorem kept_of_run (hd : d.table? Schema.migrationRecord.table = none)
    (h : Run ((Server.world unheard).amid Server.Drops) (calls ι d) es t) :
    ∃ owners modes, Kept unheard owners es modes t.state ∧
      ∀ i, (t.rest i).Follows (Protocol.onBehalf i Phase.Moves) Phase.Ends (modes i) := by
  obtain ⟨modes, ⟨owners, hkept⟩, hfollows⟩ := h.invariant
    (fun i => Protocol.onBehalf i Phase.Moves) (fun _ => Phase.Ends) (fun _ => .preparing)
    (fun i => follows_run.onBehalf i)
    (fun es modes v => ∃ owners, Kept unheard owners es modes v) ⟨[], .start hd⟩ (by
      rintro es modes s i ⟨_, c⟩ a s' p' ⟨owners, hkept⟩ ⟨rfl, hmove⟩ ⟨s₁, hdrops, hW⟩
      obtain ⟨new, hkept⟩ := (hkept.drops hdrops).step hmove hW
      exact ⟨_, hkept⟩)
  exact ⟨owners, modes, hkept, hfollows⟩

/-- What can be said of the schema and of all calls at any time.  `owners`
are the parts in place, each with the call that committed it, and
`missing` are the others. -/
structure AppliedInOrder (unheard : Prop) (es : History ι) (t : Threads ι (ι × Exchange)
    (fun c => c.2.Answer) (fun _ => Except MigrationError (List String)) (Server ι))
    (owners : List (ι × Migration)) (missing : List Migration) : Prop where
  /-- The parts in place are the first ones. -/
  parts : owners.map (·.2) ++ missing = all
  recorded : recordedNames t.state.database = owners.map (·.2.name)
  /-- A part is there as a whole or not at all. -/
  recorded_iff : ∀ m ∈ all, m.name ∈ recordedNames t.state.database ↔
    ∀ st ∈ m.statements, st ∈ (committed t.state.log).map (·.2)
  /-- The statements were committed part by part, and none of them twice. -/
  committed : committed t.state.log = owners.flatMap statementsFor
  once : ((Migration.committed t.state.log).map (·.2)).Nodup
  /-- Every part that is recorded is the doing of one call. -/
  owner : ∀ name ∈ recordedNames t.state.database,
    ∃ i, ((share owners i).map (·.name)).count name = 1 ∧
      ∀ j, j ≠ i → name ∉ (share owners j).map (·.name)
  /-- A call that succeeds returns what it has put in place. -/
  succeeded : ∀ i names, t.Finished i (.ok names) → names = (share owners i).map (·.name) ∧
    recordedNames t.state.database = all.map (·.name)
  /-- A call that fails leaves nothing of the part it fails in, or all of it
  if its commit took effect and the answer got lost. -/
  failed : ∀ i e, t.Finished i (.error e) →
    ∃ m, all[passed i es]? = some m ∧ (∀ name detail, e = .failed name detail → name = m.name) ∧
      ((∀ st ∈ m.statements, (i, st) ∉ Migration.committed t.state.log) ∨
        unheard ∧ Event.gather refusedCommit i es ≠ [] ∧
          ∀ st ∈ m.statements, (i, st) ∈ Migration.committed t.state.log)
  /-- A call that has not begun puts in place what is missing, if it is
  served without failures. -/
  later : ∀ j, (∀ e ∈ es, e.thread ≠ j) → (∀ i, ¬ t.state.Holds i lockParams) →
    Completes t.state j missing

/-- Calls that apply the parts of the schema take turns in any order, and
any of them may fail at any exchange or lose its connection.  The parts
are put in place in order, each as a whole and by one call, which knows
unless the answer to its commit got lost. -/
theorem applied_in_order (hd : d.table? Schema.migrationRecord.table = none)
    (h : Run ((Server.world unheard).amid Server.Drops) (calls ι d) es t) :
    ∃ owners missing, AppliedInOrder unheard es t owners missing := by
  obtain ⟨owners, modes, hkept, hfollows⟩ := kept_of_run hd h
  have hends : ∀ i r, t.Finished i r → (modes i).Ends r := fun i r hr => by
    have hrest := hfollows i
    rwa [show t.rest i = .done r from hr] at hrest
  refine ⟨owners, all.drop owners.length, ?_⟩
  constructor
  case parts => rw [hkept.standing.parts, List.take_append_drop]
  case recorded => exact hkept.recordedNames_eq
  case recorded_iff => exact fun m hm => hkept.recorded_iff hm
  case committed => exact hkept.standing.committed
  case once => exact hkept.committed_nodup
  case owner => exact fun name hname => hkept.exists_owner hname
  case succeeded =>
    intro i names hi
    obtain ⟨got, hmode, rfl⟩ := hends i _ hi
    obtain ⟨hall, hshare⟩ := hkept.all_of_resting hmode
    refine ⟨by rw [hshare], ?_⟩
    rw [hkept.recordedNames_eq, ← hall, List.map_map]
    rfl
  case failed => exact fun i e hi => hkept.failed_part (hends i _ hi)
  case later => exact fun j hj hfree => hkept.completes hj hfree

end Runs

/-! ### An interruption -/

/-- Two calls, of which one is interrupted. -/
inductive Caller
  | first
  | second
  deriving DecidableEq

/-- There is no space for a table of the first call. -/
def isOutOfSpace : Caller → Statement → Bool
  | .first, .createTable l => l.table == Schema.waitingAggregate.table
  | _, _ => false

/-- A server with too little space. -/
def serveFull : (c : Caller × Exchange) → Server Caller → c.2.Answer × Server Caller :=
  Server.serve [.first, .second] ⟨0, false⟩ isOutOfSpace

/-- What becomes of the calls until the first fails in the third part; the
second has begun with the first part. -/
def interrupted :=
  (calls Caller {}).play serveFull
    ([.first, .second] ++ List.replicate 10 .first ++ [.second] ++ List.replicate 10 .first)

/-- The first call has lost its connection, and the second is served. -/
def resumed :=
  interrupted.play (fun c v => serveFull c (v.lose .first)) (List.replicate 52 .second)

theorem applied_in_order_of_interruption :
    recordedNames interrupted.state.database = ["0001_queue", "0002_queue_heartbeat"] ∧
      resumed.Finished .first (.error (.failed "0003_waiting_aggregate"
        "error returned from database: out of space")) ∧
      resumed.Finished .second (.ok ["0003_waiting_aggregate", "0004_priority_quota",
        "0005_site_queue", "0006_job_trace", "0007_task_markers", "0008_indexes"]) ∧
      ∃ es owners missing, AppliedInOrder False es resumed owners missing := by
  have hcallers : ∀ i : Caller, i ∈ [Caller.first, .second] := fun i => by cases i <;> decide
  obtain ⟨es, hrun⟩ : ∃ es, Run ((Server.world False).amid Server.Drops) (calls Caller {}) es
      interrupted :=
    Run.exists_play (fun c v => ⟨v, .refl, Server.world_serve hcallers c v⟩) _ _
  obtain ⟨es', hrun'⟩ : ∃ es, Run ((Server.world False).amid Server.Drops) interrupted es resumed :=
    Run.exists_play (fun c v => ⟨v.lose .first, Server.lose_drops v .first,
      Server.world_serve hcallers c (v.lose .first)⟩) _ _
  exact ⟨by decide +kernel, Threads.finished_of_result? (by decide +kernel),
    Threads.finished_of_result? (by decide +kernel), _, applied_in_order rfl (hrun.trans hrun')⟩

/-! ### A commit whose answer gets lost -/

/-- A server that carries out commits and cannot say so. -/
def serveUnheard : (c : Caller × Exchange) → Server Caller → c.2.Answer × Server Caller
  | (i, .commit), v => (.error (.io "connection reset"), (serveFull (i, .commit) v).2)
  | c, v => serveFull c v

theorem world_serveUnheard (c : Caller × Exchange) (v : Server Caller) :
    Server.world True c v (serveUnheard c v).1 (serveUnheard c v).2 := by
  have hserve : ∀ c, Server.world True c v (serveFull c v).1 (serveFull c v).2 :=
    fun c => Server.world_serve (fun i => by cases i <;> decide) c v
  obtain ⟨i, c⟩ := c
  cases c with
  | run limit s params => exact hserve (i, .run limit s params)
  | begin => exact hserve (i, .begin)
  | rollback => exact hserve (i, .rollback)
  | commit =>
      refine .inr ⟨nofun, ?_⟩
      rcases hserve (i, .commit) with hcarries | ⟨-, hsame | hunheard⟩
      · exact .inr ⟨trivial, _, hcarries⟩
      · exact .inl hsame
      · exact .inr hunheard

/-- The first call, up to its first commit. -/
def committing : List Caller := List.replicate 7 .first

/-- What has become of it then. -/
def uninformed := (calls Caller {}).play serveUnheard committing

/-- A call has failed in a part and left all of it: the part is committed,
and recorded. -/
theorem unheard_commit_leaves_part :
    ∃ es, Run ((Server.world True).amid Server.Drops) (calls Caller {}) es uninformed ∧
      uninformed.Finished .first (.error (.database (.io "connection reset"))) ∧
      ∃ m, all[passed .first es]? = some m ∧
        committed uninformed.state.log = statementsFor (.first, m) ∧
        recordedNames uninformed.state.database = [m.name] := by
  refine ⟨(calls Caller {}).log serveUnheard committing,
    Run.play (fun c v => ⟨v, .refl, world_serveUnheard c v⟩) _ _,
    Threads.finished_of_result? (by decide +kernel), all.head (by decide), ?_, ?_, ?_⟩
  · have hpassed : passed .first ((calls Caller {}).log serveUnheard committing) = 0 := by
      decide +kernel
    rw [hpassed]
    rfl
  · with_unfolding_all rfl
  · decide +kernel

end Migration

end GridQueue
