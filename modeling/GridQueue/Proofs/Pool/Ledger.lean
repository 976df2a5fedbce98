/-
# `GridQueue.Proofs.Pool.Ledger` — where the commands of a pool are

At any time a ticket is in one of four places: it waits, a worker holds
it, its command has ended, or it was turned away.  The log shows two of
them, since what was taken is held or has ended.  A `Ledger` says so with
permutations, so that what moves a ticket is a count; `Hands` says that
each command in hand is held by one worker.  `Ledger.step` is the step of
both.

The answers are those of the commands that ended and the refusals of those
that were turned away, and no command ends in a refusal by itself
(`Command.dispatch_endsIn`).

The step goes by the kinds of events: those that move no ticket
(`Ledger.quiet`, `Ledger.submit`), those that turn tickets away
(`Ledger.turnAway`), and a take and an end, each of which moves one ticket
from one place to the next (`Ledger.take`, `Ledger.finish`).
-/
import GridQueue.Proofs.Pool.Workshop
import Mathlib.Data.List.Count

namespace GridQueue

/-! ## How commands end -/

namespace Program

variable {C α β : Type} {A : C → Type} {good : α → Prop} {good' : β → Prop}

/-- Whatever is answered to its calls, the program ends in such a value. -/
def EndsIn (good : α → Prop) : Program C A α → Prop
  | done a => good a
  | call _ next => ∀ answer, (next answer).EndsIn good

theorem EndsIn.bind {p : Program C A α} {f : α → Program C A β} (hp : p.EndsIn good)
    (hf : ∀ a, good a → (f a).EndsIn good') : (p >>= f).EndsIn good' := by
  change (p.bind f).EndsIn good'
  induction p with
  | done a => exact hf a hp
  | call c next ih => exact fun answer => ih answer (hp answer)

theorem endsIn_true (p : Program C A α) : p.EndsIn fun _ => True := by
  induction p with
  | done a => trivial
  | call c next ih => exact ih

theorem endsIn_bind {p : Program C A α} {f : α → Program C A β} (hf : ∀ a, (f a).EndsIn good') :
    (p >>= f).EndsIn good' :=
  p.endsIn_true.bind fun a _ => hf a

end Program

namespace Command

/-- The command was not refused by a pool that is shut down. -/
def Ran (result : Result) : Prop := result ≠ .error .shuttingDown

theorem ran_respond {α : Type} {result : Except StoreError α} {f : α → Response} :
    Ran (respond result f) := by
  cases result <;> nofun

theorem ran_error {e : CommandError} (h : e ≠ .shuttingDown) : Ran (.error e) :=
  fun he => h (Except.error.inj he)

theorem runGetJobs_endsIn (ids : List Int) : (runGetJobs ids).EndsIn Ran := by
  unfold runGetJobs
  split
  · exact Program.endsIn_bind fun _ => ran_respond
  · exact ran_error nofun

theorem runAppendTrace_endsIn (jobId : Int) (tag message : String) :
    (runAppendTrace jobId tag message).EndsIn Ran := by
  unfold runAppendTrace
  split
  · exact ran_error nofun
  · exact Program.endsIn_bind fun _ => ran_respond

theorem runForce_endsIn (jobId : Int) (status : Status) : (runForce jobId status).EndsIn Ran := by
  unfold runForce
  split
  · refine Program.endsIn_bind fun result => ?_
    cases result with
    | error e => exact ran_error nofun
    | ok update =>
        dsimp only
        split
        · exact Program.endsIn_bind fun _ => nofun
        · exact nofun
  · exact ran_error nofun

theorem runMatch_endsIn (settings : BrokerSettings) (request : Matching.Request) :
    (runMatch settings request).EndsIn Ran := by
  refine Program.endsIn_bind fun result => ?_
  cases result with
  | ok outcome => exact nofun
  | error e => exact ran_error nofun

theorem execute_endsIn (settings : BrokerSettings) (c : Command) :
    (c.execute settings).EndsIn Ran := by
  cases c with
  | getJobs ids => exact runGetJobs_endsIn ids
  | appendTrace jobId tag message => exact runAppendTrace_endsIn jobId tag message
  | matchJob request => exact runMatch_endsIn settings request
  | forceJobStatus jobId status => exact runForce_endsIn jobId status
  | setJobStatus | heartbeat => exact Program.endsIn_bind fun _ => ran_respond

theorem dispatch_endsIn (settings : BrokerSettings) (c : Command) :
    (c.dispatch settings).EndsIn Ran :=
  (c.execute_endsIn settings).bind fun _ hran => Program.endsIn_bind fun _ => hran

end Command

namespace Workshop

/-! ## What a log shows -/

def Event.taken? : Event → Option ℕ
  | took _ t => some t
  | _ => none

def Event.finished? : Event → Option (ℕ × Command.Result)
  | finished _ t result => some (t, result)
  | _ => none

/-- The commands that workers took, oldest first. -/
def takes (log : List Event) : List ℕ := log.filterMap Event.taken?

/-- The commands that ended, with their results. -/
def finishes (log : List Event) : List (ℕ × Command.Result) := log.filterMap Event.finished?

/-- The tickets of the commands that ended. -/
def ends (log : List Event) : List ℕ := (finishes log).map (·.1)

variable {σ : Type}

/-- The tickets of the commands in hand. -/
def held (h : Workshop σ) : List ℕ := h.pool.busy.map (·.1)

section Log

variable {log : List Event} {e : Event}

theorem takes_append : takes (log ++ [e]) = takes log ++ e.taken?.toList := by
  rw [takes, List.filterMap_append, ← takes]
  cases h : e.taken? <;> simp [h]

theorem finishes_append : finishes (log ++ [e]) = finishes log ++ e.finished?.toList := by
  rw [finishes, List.filterMap_append, ← finishes]
  cases h : e.finished? <;> simp [h]

theorem mem_append_event {d : Event} : d ∈ log ++ [e] ↔ d ∈ log ∨ d = e := by
  rw [List.mem_append, List.mem_singleton]

end Log

/-! ## Where the tickets are -/

/-- What the log and the answers say of the tickets.  Some were turned
away. -/
structure Ledger (log : List Event) (turned : List ℕ) (h : Workshop σ) : Prop where
  /-- each ticket is in one place -/
  place : (h.pool.refused ++ h.held ++ ends log ++ turned).Perm (List.range h.tickets)
  taken : (takes log).Perm (h.held ++ ends log)
  answers : h.answers.Perm (finishes log ++ turned.map fun t => (t, .error .shuttingDown))
  ran : ∀ t r, (t, r) ∈ finishes log → Command.Ran r
  counted : h.pool.completed + h.pool.failed = (finishes log).length
  called : ∀ i t c a, Event.called i t c a ∈ log → t ∈ takes log
  submitted : ∀ t c, Event.submitted t c ∈ log → t < h.tickets

/-- Each command in hand is held by one worker, and will end in a result
of its own. -/
structure Hands (h : Workshop σ) : Prop where
  held : ∀ i t p, h.workers i = .holding t p → t ∈ h.held ∧ p.EndsIn Command.Ran
  alone : ∀ i j t p q, h.workers i = .holding t p → h.workers j = .holding t q → i = j
  manned : ∀ t ∈ h.held, ∃ i p, h.workers i = .holding t p
  /-- nothing is in hand before the workers come in -/
  unstarted : h.pool.phase = .created → h.held = [] ∧ ∀ i, h.workers i = .absent

section Steps

variable {settings : BrokerSettings} {W : World Call Call.Answer σ} {first h h' : Workshop σ}
  {e : Event} {log : List Event} {turned : List ℕ} {i t : ℕ} {c : Command}

theorem Ledger.opening {ps : PoolSettings} {s : σ} : Ledger [] [] (Workshop.opening ps s) where
  place := List.Perm.nil
  taken := List.Perm.nil
  answers := List.Perm.nil
  ran _ _ hmem := absurd hmem List.not_mem_nil
  counted := rfl
  called _ _ _ _ hmem := absurd hmem List.not_mem_nil
  submitted _ _ hmem := absurd hmem List.not_mem_nil

theorem Ledger.nodup (hl : Ledger log turned h) :
    (h.pool.refused ++ h.held ++ ends log ++ turned).Nodup :=
  hl.place.nodup_iff.mpr List.nodup_range

theorem Ledger.nodup_unfinished (hl : Ledger log turned h) :
    (h.pool.refused ++ h.held).Nodup :=
  (List.nodup_append.mp (List.nodup_append.mp hl.nodup).1).1

theorem Ledger.nodup_held (hl : Ledger log turned h) : h.held.Nodup :=
  (List.nodup_append.mp hl.nodup_unfinished).2.1

theorem Ledger.fresh (hl : Ledger log turned h) (ht : t ∈ h.pool.refused) : t ∉ h.held :=
  fun hheld => (List.nodup_append.mp hl.nodup_unfinished).2.2 t ht t hheld rfl

theorem Ledger.called_append (hl : Ledger log turned h)
    (he : ∀ i t c a, e = .called i t c a → t ∈ takes log) :
    ∀ i t c a, .called i t c a ∈ log ++ [e] → t ∈ takes (log ++ [e]) := by
  intro i t c a hmem
  rw [takes_append]
  rcases mem_append_event.mp hmem with hmem | hlast
  · exact List.mem_append_left _ (hl.called i t c a hmem)
  · exact List.mem_append_left _ (he i t c a hlast.symm)

theorem Ledger.submitted_append {n : ℕ} (hl : Ledger log turned h) (hn : h.tickets ≤ n)
    (he : ∀ t c, e = .submitted t c → t < n) : ∀ t c, .submitted t c ∈ log ++ [e] → t < n := by
  intro t c hmem
  rcases mem_append_event.mp hmem with hmem | hlast
  · exact (hl.submitted t c hmem).trans_le hn
  · exact he t c hlast.symm

/-- A step that takes nothing and ends nothing, but may give out tickets
and turn some away. -/
theorem Ledger.advance {turned' : List ℕ} (hl : Ledger log turned h) (htaken : e.taken? = none)
    (hfinished : e.finished? = none) (hcalled : ∀ i t c a, e = .called i t c a → t ∈ takes log)
    (hsubmitted : ∀ t c, e = .submitted t c → t < h'.tickets)
    (hplace : (h'.pool.refused ++ h'.held ++ ends log ++ turned').Perm (List.range h'.tickets))
    (hheld : h'.held = h.held)
    (hanswers : h'.answers.Perm (finishes log ++ turned'.map fun t => (t, .error .shuttingDown)))
    (htickets : h.tickets ≤ h'.tickets)
    (hcounts : h'.pool.completed + h'.pool.failed = h.pool.completed + h.pool.failed) :
    Ledger (log ++ [e]) turned' h' := by
  have htakes : takes (log ++ [e]) = takes log := by simp [takes_append, htaken]
  have hfinishes : finishes (log ++ [e]) = finishes log := by simp [finishes_append, hfinished]
  have hends : ends (log ++ [e]) = ends log := by rw [ends, hfinishes, ends]
  constructor
  · rwa [hends]
  · rw [htakes, hheld, hends]
    exact hl.taken
  · rwa [hfinishes]
  · rw [hfinishes]
    exact hl.ran
  · rw [hcounts, hfinishes]
    exact hl.counted
  · exact hl.called_append hcalled
  · exact hl.submitted_append htickets hsubmitted

theorem Ledger.quiet (hl : Ledger log turned h) (htaken : e.taken? = none)
    (hfinished : e.finished? = none) (hcalled : ∀ i t c a, e = .called i t c a → t ∈ takes log)
    (hsubmitted : ∀ t c, e ≠ .submitted t c) (hrefused : h'.pool.refused = h.pool.refused)
    (hheld : h'.held = h.held) (hanswers : h'.answers = h.answers)
    (htickets : h'.tickets = h.tickets)
    (hcounts : h'.pool.completed + h'.pool.failed = h.pool.completed + h.pool.failed) :
    Ledger (log ++ [e]) turned h' := by
  refine hl.advance htaken hfinished hcalled (fun t c he => absurd he (hsubmitted t c)) ?_ hheld
    ?_ htickets.ge hcounts
  · rw [hrefused, hheld, htickets]
    exact hl.place
  · rw [hanswers]
    exact hl.answers

theorem Ledger.submit (hl : Ledger log turned h) :
    Ledger (log ++ [.submitted h.tickets c]) turned
      { h with pool := h.pool.submit h.tickets c, tickets := h.tickets + 1 } := by
  have hheld : ({ h with pool := h.pool.submit h.tickets c, tickets := h.tickets + 1 } :
      Workshop σ).held = h.held := by
    simp only [held, Pool.busy_submit]
  refine hl.advance rfl rfl (by simp) ?_ ?_ hheld hl.answers (Nat.le_succ _) ?_
  · intro t d he
    cases he
    exact Nat.lt_succ_self _
  · rw [hheld, List.range_succ, List.perm_iff_count]
    intro u
    have hrefused := (Pool.refused_submit (p := h.pool) (t := h.tickets) (c := c)).count_eq u
    have hplace := hl.place.count_eq u
    simp only [List.count_append] at hrefused hplace ⊢
    omega
  · simp only [Pool.counts_submit]

theorem Ledger.turnAway (hl : Ledger log turned h) :
    Ledger (log ++ [.submitted h.tickets c]) (turned ++ [h.tickets])
      { h.answer h.tickets (.error .shuttingDown) with tickets := h.tickets + 1 } := by
  refine hl.advance rfl rfl (by simp) ?_ ?_ rfl ?_ (Nat.le_succ _) rfl
  · intro t d he
    cases he
    exact Nat.lt_succ_self _
  · rw [List.range_succ, ← List.append_assoc]
    exact hl.place.append_right _
  · rw [List.map_append, ← List.append_assoc]
    exact hl.answers.append_right _

theorem Ledger.close {result : Except PoolError Unit} (hl : Ledger log turned h) :
    Ledger (log ++ [.closed result]) (turned ++ h.pool.refused) h.close := by
  have hrefused : h.close.pool.refused = [] := rfl
  have hheld : h.close.held = h.held := rfl
  refine hl.advance rfl rfl (by simp) (by simp) ?_ hheld ?_ le_rfl rfl
  · refine .trans ?_ hl.place
    rw [hrefused, hheld, List.perm_iff_count]
    intro u
    simp only [List.count_append, List.count_nil]
    omega
  · rw [List.map_append, ← List.append_assoc]
    exact hl.answers.append_right _

theorem Ledger.take {pool : Pool Command} {w : Worker} (hl : Ledger log turned h)
    (htake : h.pool.receive = some ((t, c), pool)) :
    Ledger (log ++ [.took i t]) turned ({ h with pool }.setWorker i w) := by
  have htaken := Pool.receive_eq_some htake
  have htakes : takes (log ++ [.took i t]) = takes log ++ [t] := takes_append
  have hfinishes : finishes (log ++ [.took i t]) = finishes log := by
    rw [finishes_append]
    exact List.append_nil _
  have hends : ends (log ++ [.took i t]) = ends log := by rw [ends, hfinishes, ends]
  have hheld : ({ h with pool }.setWorker i w).held = h.held ++ [t] := by
    simp only [held, setWorker, htaken.busy, List.map_append, List.map_cons, List.map_nil]
  constructor
  · refine .trans ?_ hl.place
    rw [hheld, hends, htaken.refused, List.perm_iff_count]
    intro u
    simp only [setWorker, List.count_append, List.count_cons, List.count_nil]
    omega
  · rw [htakes, hheld, hends, List.perm_iff_count]
    intro u
    have htaken := hl.taken.count_eq u
    simp only [List.count_append] at htaken ⊢
    omega
  · rw [hfinishes]
    exact hl.answers
  · rw [hfinishes]
    exact hl.ran
  · rw [hfinishes]
    simp only [setWorker, htaken.completed, htaken.failed]
    exact hl.counted
  · exact hl.called_append (by simp)
  · exact hl.submitted_append le_rfl (by simp)

theorem Ledger.held_finish {success : Bool} (hl : Ledger log turned h) :
    (h.pool.finish t success).busy.map (·.1) = h.held.erase t := by
  rw [hl.nodup_held.erase_eq_filter, held, List.filter_map]
  rfl

theorem Ledger.finish {result : Command.Result} (hl : Ledger log turned h) (ht : t ∈ h.held)
    (hran : Command.Ran result) :
    Ledger (log ++ [.finished i t result]) turned
      (({ h with pool := h.pool.finish t (Command.succeeded result) }.setWorker i .idle).answer
        t result) := by
  have htakes : takes (log ++ [.finished i t result]) = takes log := by
    rw [takes_append]
    exact List.append_nil _
  have hfinishes : finishes (log ++ [.finished i t result]) = finishes log ++ [(t, result)] :=
    finishes_append
  have hends : ends (log ++ [.finished i t result]) = ends log ++ [t] := by
    rw [ends, hfinishes, List.map_append, ← ends]
    rfl
  have hheld : (({ h with pool := h.pool.finish t (Command.succeeded result) }.setWorker i
      .idle).answer t result).held = h.held.erase t := hl.held_finish
  have hmoved : h.held.Perm (t :: h.held.erase t) := List.perm_cons_erase ht
  constructor
  · refine .trans ?_ hl.place
    rw [hheld, hends, List.perm_iff_count]
    intro u
    have hmoved := hmoved.count_eq u
    simp only [answer, setWorker, Pool.finish, Pool.refused, List.count_append, List.count_cons,
      List.count_nil] at hmoved ⊢
    omega
  · rw [htakes, hheld, hends, List.perm_iff_count]
    intro u
    have htaken := hl.taken.count_eq u
    have hmoved := hmoved.count_eq u
    simp only [List.count_append, List.count_cons, List.count_nil] at htaken hmoved ⊢
    omega
  · -- the refusals stay behind the results
    refine (hl.answers.append_right _).trans ?_
    rw [hfinishes, List.append_assoc, List.append_assoc]
    exact List.perm_append_comm.append_left _
  · intro u r hmem
    rw [hfinishes, List.mem_append, List.mem_singleton] at hmem
    rcases hmem with hmem | hlast
    · exact hl.ran u r hmem
    · cases hlast
      exact hran
  · rw [hfinishes, List.length_append, ← hl.counted]
    change h.pool.completed + _ + (h.pool.failed + _) = h.pool.completed + h.pool.failed + 1
    cases Command.succeeded result with
    | true => exact Nat.add_right_comm ..
    | false => exact (Nat.add_assoc ..).symm
  · exact hl.called_append (by simp)
  · exact hl.submitted_append le_rfl (by simp)

theorem Hands.opening {ps : PoolSettings} {s : σ} : Hands (Workshop.opening ps s) where
  held _ _ _ hi := by cases hi
  alone _ _ _ _ _ hi := by cases hi
  manned _ hmem := absurd hmem List.not_mem_nil
  unstarted _ := ⟨rfl, fun _ => rfl⟩

theorem Hands.created_ne {x : Worker} (hh : Hands h) (hi : h.workers i = x) (hx : x ≠ .absent) :
    h.pool.phase ≠ .created :=
  fun hcreated => hx (hi.symm.trans ((hh.unstarted hcreated).2 i))

/-- A step that leaves the workers as they are, and what they hold. -/
theorem Hands.keep (hh : Hands h) (hworkers : h'.workers = h.workers) (hheld : h'.held = h.held)
    (hphase : h'.pool.phase = .created → h.pool.phase = .created) : Hands h' where
  held := by simpa only [hworkers, hheld] using hh.held
  alone := by simpa only [hworkers] using hh.alone
  manned := by simpa only [hworkers, hheld] using hh.manned
  unstarted hcreated := by
    rw [hheld, hworkers]
    exact hh.unstarted (hphase hcreated)

/-- A worker that holds a ticket nobody else holds is alone with it. -/
theorem Hands.alone_setWorker {p : Action Command.Result} (hh : Hands h)
    (hown : ∀ j q, h.workers j = .holding t q → j = i) {j k u : ℕ}
    {q q' : Action Command.Result} (hj : (h.setWorker i (.holding t p)).workers j = .holding u q)
    (hk : (h.setWorker i (.holding t p)).workers k = .holding u q') : j = k := by
  rcases workers_setWorker hj with ⟨hji, heq⟩ | ⟨-, hj⟩ <;>
    rcases workers_setWorker hk with ⟨hki, heq'⟩ | ⟨-, hk⟩
  · exact hji.trans hki.symm
  · cases heq
    exact hji.trans (hown k _ hk).symm
  · cases heq'
    exact (hown j _ hj).trans hki.symm
  · exact hh.alone j k u q q' hj hk

theorem Hands.take {pool : Pool Command} {p : Action Command.Result} (hh : Hands h)
    (hlooked : h.workers i = .looked) (htake : h.pool.receive = some ((t, c), pool))
    (hfresh : t ∉ h.held) (hends : p.EndsIn Command.Ran) :
    Hands ({ h with pool }.setWorker i (.holding t p)) := by
  have htaken := Pool.receive_eq_some htake
  have hheld : ({ h with pool }.setWorker i (.holding t p)).held = h.held ++ [t] := by
    simp only [Workshop.held, setWorker, htaken.busy, List.map_append, List.map_cons, List.map_nil]
  constructor
  · intro j u q hj
    rw [hheld]
    rcases workers_setWorker hj with ⟨-, heq⟩ | ⟨-, hj⟩
    · cases heq
      exact ⟨List.mem_append_right _ (List.mem_singleton_self _), hends⟩
    · obtain ⟨hmem, hq⟩ := hh.held j u q hj
      exact ⟨List.mem_append_left _ hmem, hq⟩
  · intro j k u q q' hj hk
    exact hh.alone_setWorker (fun l r hl => absurd (hh.held l _ r hl).1 hfresh) hj hk
  · intro u hu
    rw [hheld, List.mem_append, List.mem_singleton] at hu
    rcases hu with hu | rfl
    · obtain ⟨j, q, hj⟩ := hh.manned u hu
      have hji : j ≠ i := by
        rintro rfl
        rw [hlooked] at hj
        cases hj
      exact ⟨j, q, (Function.update_of_ne hji ..).trans hj⟩
    · exact ⟨i, p, Function.update_self ..⟩
  · exact fun hcreated =>
      absurd (htaken.phase_eq.symm.trans hcreated) (hh.created_ne hlooked nofun)

theorem Hands.call {d : Call} {next : d.Answer → Action Command.Result} {a : d.Answer} {s : σ}
    (hh : Hands h) (hi : h.workers i = .holding t (.call d next)) :
    Hands ({ h with state := s }.setWorker i (.holding t (next a))) := by
  obtain ⟨hmem, hends⟩ := hh.held i t _ hi
  constructor
  · intro j u q hj
    rcases workers_setWorker hj with ⟨-, heq⟩ | ⟨-, hj⟩
    · cases heq
      exact ⟨hmem, hends a⟩
    · exact hh.held j u q hj
  · intro j k u q q' hj hk
    exact hh.alone_setWorker (fun l r hl => hh.alone l i t r _ hl hi) hj hk
  · intro u hu
    obtain ⟨j, q, hj⟩ := hh.manned u hu
    by_cases hji : j = i
    · subst hji
      cases hi.symm.trans hj
      exact ⟨j, next a, Function.update_self ..⟩
    · exact ⟨j, q, (Function.update_of_ne hji ..).trans hj⟩
  · exact fun hcreated => absurd hcreated (hh.created_ne hi nofun)

theorem Hands.release {w : Worker} (hh : Hands h) (hhere : h.workers i ≠ .absent)
    (hfree : ∀ u q, w ≠ .holding u q)
    (hworkers : h'.workers = Function.update h.workers i w)
    (hheld : ∀ u, u ∈ h'.held ↔ u ∈ h.held ∧ ∀ q, h.workers i ≠ .holding u q)
    (hphase : h'.pool.phase = h.pool.phase) : Hands h' := by
  have hother : ∀ {j u q}, h'.workers j = .holding u q → j ≠ i ∧ h.workers j = .holding u q := by
    intro j u q hj
    rw [hworkers] at hj
    rcases workers_setWorker (h := h) hj with ⟨-, heq⟩ | hj
    · exact absurd heq (hfree u q)
    · exact hj
  constructor
  · intro j u q hj
    obtain ⟨hji, hj⟩ := hother hj
    obtain ⟨hmem, hends⟩ := hh.held j u q hj
    exact ⟨(hheld u).mpr ⟨hmem, fun q' hi => hji (hh.alone j i u q q' hj hi)⟩, hends⟩
  · intro j k u q q' hj hk
    exact hh.alone j k u q q' (hother hj).2 (hother hk).2
  · intro u hu
    obtain ⟨hu, hnot⟩ := (hheld u).mp hu
    obtain ⟨j, q, hj⟩ := hh.manned u hu
    have hji : j ≠ i := by
      rintro rfl
      exact hnot q hj
    exact ⟨j, q, by rw [hworkers, Function.update_of_ne hji, hj]⟩
  · exact fun hcreated => absurd (hphase.symm.trans hcreated) (hh.created_ne rfl hhere)

theorem Hands.turn {w : Worker} (hh : Hands h) (hhere : h.workers i ≠ .absent)
    (hempty : ∀ u q, h.workers i ≠ .holding u q) (hfree : ∀ u q, w ≠ .holding u q) :
    Hands (h.setWorker i w) :=
  hh.release hhere hfree rfl (fun u => (and_iff_left fun q => hempty u q).symm) rfl

theorem Hands.start {pool : Pool Command} (hh : Hands h) (hstart : h.pool.start = .ok pool) :
    Hands { h with pool, workers := crew h.pool.settings } := by
  obtain ⟨hcreated, rfl⟩ := Pool.start_eq_ok hstart
  have hnobody : ∀ {j u q}, crew h.pool.settings j ≠ .holding u q := by
    intro j u q
    unfold crew
    split <;> nofun
  constructor
  · exact fun j u q hj => absurd hj hnobody
  · exact fun j k u q q' hj _ => absurd hj hnobody
  · intro u hu
    have hnone : h.held = [] := (hh.unstarted hcreated).1
    exact absurd (hnone ▸ hu) List.not_mem_nil
  · nofun

theorem Ledger.step (hl : Ledger log turned h) (hh : Hands h) (hstep : Step settings W h e h') :
    (∃ turned', Ledger (log ++ [e]) turned' h') ∧ Hands h' := by
  cases hstep with
  | submit =>
      exact ⟨⟨_, hl.submit⟩, hh.keep rfl (by simp only [held, Pool.busy_submit])
        (by simp only [Pool.phase_submit, imp_self])⟩
  | turnAway => exact ⟨⟨_, hl.turnAway⟩, hh.keep rfl rfl id⟩
  | start hstart =>
      refine ⟨⟨turned, ?_⟩, hh.start hstart⟩
      obtain ⟨-, rfl⟩ := Pool.start_eq_ok hstart
      exact hl.quiet rfl rfl (by simp) (by simp) rfl rfl rfl rfl rfl
  | startFails | signalFails =>
      exact ⟨⟨turned, hl.quiet rfl rfl (by simp) (by simp) rfl rfl rfl rfl rfl⟩, hh⟩
  | @look i hi _ =>
      exact ⟨⟨turned, hl.quiet rfl rfl (by simp) (by simp) rfl rfl rfl rfl rfl⟩,
        hh.turn (by rw [hi]; nofun) (by rw [hi]; nofun) nofun⟩
  | @take i t c _ hlooked htake =>
      have hwaits : t ∈ h.pool.refused := by
        rw [(Pool.receive_eq_some htake).refused]
        exact List.mem_cons_self ..
      exact ⟨⟨turned, hl.take htake⟩,
        hh.take hlooked htake (hl.fresh hwaits) (c.dispatch_endsIn settings)⟩
  | @pass i hi =>
      exact ⟨⟨turned, hl.quiet rfl rfl (by simp) (by simp) rfl rfl rfl rfl rfl⟩,
        hh.turn (by rw [hi]; nofun) (by rw [hi]; nofun) nofun⟩
  | @call i t _ _ _ _ hi hW =>
      refine ⟨⟨turned, hl.quiet rfl rfl ?_ (by simp) rfl rfl rfl rfl rfl⟩, hh.call hi⟩
      intro j u d b he
      cases he
      exact hl.taken.mem_iff.mpr (List.mem_append_left _ (hh.held i t _ hi).1)
  | @finish i t _ hi =>
      obtain ⟨ht, hran⟩ := hh.held i t _ hi
      refine ⟨⟨turned, hl.finish ht hran⟩,
        hh.release (i := i) (w := .idle) (by rw [hi]; nofun) nofun rfl ?_ rfl⟩
      intro u
      have hheld : u ∈ h.held.erase t ↔ u ≠ t ∧ u ∈ h.held := hl.nodup_held.mem_erase_iff
      have hother : u ≠ t ↔ ∀ q, h.workers i ≠ .holding u q := by
        simp only [hi, ne_eq, Worker.holding.injEq, not_and, eq_comm]
        exact ⟨fun hne q heq => absurd heq hne, fun hall heq => hall _ heq rfl⟩
      rw [← hother, and_comm, ← hheld, ← hl.held_finish]
      rfl
  | @leave i hi _ | @hangUp i hi _ =>
      exact ⟨⟨turned, hl.quiet rfl rfl (by simp) (by simp) rfl rfl rfl rfl rfl⟩,
        hh.turn (by rw [hi]; nofun) (by rw [hi]; nofun) nofun⟩
  | signal hstop =>
      obtain ⟨-, rfl⟩ := Pool.stop_eq_ok hstop
      exact ⟨⟨turned, hl.quiet rfl rfl (by simp) (by simp) rfl rfl rfl rfl rfl⟩,
        hh.keep rfl rfl nofun⟩
  | join | timeout => exact ⟨⟨_, hl.close⟩, hh.keep rfl rfl nofun⟩

end Steps

end Workshop

end GridQueue
