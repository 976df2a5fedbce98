/-
# `GridQueue.Proofs.Counter.Shared` — counters of a store that tasks share

Tasks take turns at the calls of a store.  Between the claim of a job and
the call that counts it other tasks may claim, count, sweep or force; so a
counter may exceed the jobs that wait.  It never falls short of them:

    jobs that wait + claims that are not counted ≤ counter

A waiting job is therefore never hidden from look-ups by a counter at zero.
The claims are read off the log (`owing`); `Ledger` ties what the log holds
of a task to its stage, so that `Task.Moves.balance` applies.

`Covered` is the invariant of a run: each task is at a stage that its part
of the log accounts for, and the sum above holds for every aggregate.  The
step is the balance of one task, added to the claims of all the others,
which do not move (`Covered.length_owing`).
-/
import GridQueue.Proofs.Counter.Balance

namespace GridQueue

open Matching

/-! ## Claims in the log -/

section Log

variable {ι : Type} [DecidableEq ι] {es : List (Event ι Call Call.Answer Store)}
  {i : ι} {id : Int} {c : Call} {a : c.Answer} {s s' : Store}

/-- The claims of an aggregate in a log that are not counted: the task that
made the claim did not count one of the aggregate. -/
def owing (es : List (Event ι Call Call.Answer Store)) (id : Int) :
    List (Event ι Call Call.Answer Store) :=
  es.filter fun e => claimOf e.call e.answer = some id ∧ id ∉ Event.gather countOf e.thread es

theorem length_owing_own :
    ((owing es id).filter (·.thread = i)).length =
      if id ∈ Event.gather countOf i es then 0 else (Event.gather claimOf i es).count id := by
  have hown : (owing es id).filter (·.thread = i) =
      (es.filter (·.thread = i)).filter fun e =>
        claimOf e.call e.answer = some id ∧ id ∉ Event.gather countOf i es := by
    rw [owing, List.filter_filter, List.filter_filter]
    refine List.filter_congr ?_
    intro e _
    by_cases he : e.thread = i
    · simp [he]
    · simp [he]
  rw [hown]
  split
  · next hmem => simp [hmem]
  · next hmem =>
    simp only [hmem, not_false_eq_true, and_true]
    rw [Event.gather, List.count, List.countP_filterMap, List.countP_eq_length_filter]
    congr 1
    refine List.filter_congr ?_
    intro e _
    cases claimOf e.call e.answer with
    | none => simp
    | some k => simp [beq_eq_decide]

theorem owing_others :
    (owing (es ++ [⟨i, c, a, s, s'⟩]) id).filter (·.thread ≠ i) =
      (owing es id).filter (·.thread ≠ i) := by
  have hlast : ([⟨i, c, a, s, s'⟩] : List (Event ι Call Call.Answer Store)).filter
      (·.thread ≠ i) = [] := by simp
  -- the filters in the other order, so that the last event goes first
  rw [owing, List.filter_comm, List.filter_append, hlast, List.append_nil, owing]
  refine (List.filter_congr ?_).trans (List.filter_comm ..)
  intro e he
  have hne : e.thread ≠ i := by simpa using (List.mem_filter.mp he).2
  rw [Event.gather_other hne.symm]

theorem length_owing (i : ι) :
    (owing es id).length = ((owing es id).filter (·.thread = i)).length +
      ((owing es id).filter (·.thread ≠ i)).length := by
  rw [List.length_eq_length_filter_add (fun e : Event ι Call Call.Answer Store => e.thread = i)]
  congr 2
  refine List.filter_congr ?_
  intro e _
  simp

end Log

/-! ## Claims at a stage -/

/-- What a log holds of a task at a stage: it claimed nothing, or it owes
its claim, or it counted it.  The lists are the aggregates of its claims
and those it counted for. -/
inductive Ledger : List Int → List Int → Stage → Prop
  | unclaimed {m} : m.claimed? = none → Ledger [] [] m
  | owed {id tier job} : Ledger [id] [] (.holding id tier job)
  | counted {id m} : (∀ id, m.owed id = 0) → m.claimed? ≠ none → Ledger [id] [id] m

namespace Ledger

variable {claims counts : List Int} {m m' : Stage} {c : Call} {a : c.Answer}

theorem first (t : Task) : Ledger [] [] t.first := .unclaimed t.claimed?_first

theorem owed_eq (h : Ledger claims counts m) (id : Int) :
    (if id ∈ counts then 0 else claims.count id) = m.owed id := by
  cases h with
  | unclaimed hnone => exact (Stage.owed_of_unclaimed hnone id).symm
  | @owed aggregateId => simp [Stage.owed, List.count_singleton, beq_eq_decide]
  | @counted aggregateId _ hzero =>
      rw [hzero]
      by_cases hid : id = aggregateId
      · simp [hid]
      · simp [hid, Ne.symm hid]

theorem own_of_moves {settings : BrokerSettings} {request : Request}
    (h : Ledger claims counts m) (hm : Stage.Moves settings request m c a m') :
    Ledger (claims ++ (claimOf c a).toList) (counts ++ (countOf c a).toList) m' := by
  cases hm with
  | won =>
      cases h with
      | unclaimed => exact .owed
      | counted _ hsome => exact absurd rfl hsome
  | @count aggregateId =>
      cases h with
      | unclaimed hnone => cases hnone
      | owed => exact .counted (fun _ => rfl) (Option.some_ne_none _)
      | counted hzero => simpa [Stage.owed] using hzero aggregateId
  | stopwatch | now | note => simpa [claimOf, countOf] using h
  | issue | refuse | trace | adjust | withdraw | revoke | traceRefusal =>
      cases h with
      | unclaimed hnone => cases hnone
      | counted => simpa [claimOf, countOf] using .counted (fun _ => rfl) (Option.some_ne_none _)
  | _ =>
      cases h with
      | unclaimed => simpa [claimOf, countOf] using .unclaimed rfl
      | counted _ hsome => exact absurd rfl hsome

theorem own {t : Task} (h : Ledger claims counts m) (hm : t.Moves m c a m') :
    Ledger (claims ++ (claimOf c a).toList) (counts ++ (countOf c a).toList) m' := by
  rcases hm.stage_or_stays with ⟨settings, r, hm⟩ | ⟨hcalls, rfl⟩
  · exact h.own_of_moves hm
  · obtain ⟨hclaim, hcount⟩ := hcalls.no_claim (a := a)
    simpa [hclaim, hcount] using h

end Ledger

/-! ## Runs -/

section Runs

variable {ι : Type} [DecidableEq ι] {w : Surroundings} {tasks : ι → Task} {s : Store}
  {es : List (Event ι Call Call.Answer Store)} {m : ι → Stage}

/-- What is kept of the counters: of each task the log holds what its
stage says, and each counter covers the jobs that wait and the claims that
are owed; every decrement so far found the counter above zero. -/
structure Covered (es : List (Event ι Call Call.Answer Store)) (m : ι → Stage) (s : Store) :
    Prop where
  ledger : ∀ i, Ledger (Event.gather claimOf i es) (Event.gather countOf i es) (m i)
  counter : ∀ id n, s.counter? id = some n →
    ((s.waitingIds id).length + (owing es id).length : Int) ≤ n
  counts : ∀ e ∈ es, ∀ id n, countOf e.call e.answer = some id → e.before.counter? id = some n →
    0 < n ∧ e.after.counter? id = some (n - 1)

theorem Covered.start (h : s.Covers) : Covered [] (fun i => (tasks i).first) s where
  ledger i := Ledger.first (tasks i)
  counter id n hn := by simpa [owing] using h id n hn
  counts e he := nomatch he

theorem Covered.length_owing (h : Covered es m s) (i : ι) (id : Int) :
    (owing es id).length =
      (m i).owed id + ((owing es id).filter (·.thread ≠ i)).length := by
  rw [GridQueue.length_owing i, length_owing_own, (h.ledger i).owed_eq]

theorem Covered.step {i : ι} {c : Call} {a : c.Answer} {s' : Store} {m' : Stage}
    (hcount : ∀ id isLocal, ¬ w.mayFail (.decrement id isLocal)) (h : Covered es m s)
    (hm : (tasks i).Moves (m i) c a m') (hW : w.world c s a s') :
    Covered (es ++ [⟨i, c, a, s, s'⟩]) (Function.update m i m') s' := by
  have hledger : ∀ j, Ledger (Event.gather claimOf j (es ++ [⟨i, c, a, s, s'⟩]))
      (Event.gather countOf j (es ++ [⟨i, c, a, s, s'⟩])) (Function.update m i m' j) := by
    intro j
    by_cases hj : j = i
    · subst hj
      rw [Function.update_self, Event.gather_own, Event.gather_own]
      exact (h.ledger j).own hm
    · rw [Function.update_of_ne hj, Event.gather_other (Ne.symm hj),
        Event.gather_other (Ne.symm hj)]
      exact h.ledger j
  have hafter := Surroundings.world_counter hW hcount
  refine ⟨hledger, ?_, ?_⟩
  · intro id n' hn'
    obtain ⟨n, hn⟩ : ∃ n, s.counter? id = some n := by
      rw [hafter] at hn'
      cases hs : s.counter? id with
      | some n => exact ⟨n, rfl⟩
      | none => simp [hs] at hn'
    have hcover := h.counter id n hn
    rw [h.length_owing i] at hcover
    -- the excess is what the other tasks owe, and what was forced out
    have hbalance := hm.balance hW hcount id
      (n - (s.waitingIds id).length - (m i).owed id) (by omega)
      (fun k hk => by
        cases hn.symm.trans hk
        omega) n' hn'
    rw [GridQueue.length_owing i, owing_others, length_owing_own,
      (hledger i).owed_eq, Function.update_self]
    omega
  · intro e he id n hid hn
    rcases List.mem_append.mp he with he | he
    · exact h.counts e he id n hid hn
    · cases List.mem_singleton.mp he
      have hcover := h.counter id n hn
      rw [h.length_owing i, (hm.owed id).2 hid] at hcover
      have hpos : 0 < n := by omega
      refine ⟨hpos, ?_⟩
      rw [hafter, if_pos hid, hn, Option.map_some, max_eq_left (by omega)]

variable {t : Threads ι Call Call.Answer (fun i => (tasks i).Result) Store}

/-- Tasks that share a store whose counters cover the jobs that wait, in
any order of their calls; decrements do not fail.  In every state that is
reached each counter covers the jobs that wait and the claims that are not
counted, so it is positive as long as a job waits; and no decrement found
a counter that it could not count down. -/
theorem counters_cover_waiting_jobs (hcovers : s.Covers)
    (hcount : ∀ id isLocal, ¬ w.mayFail (.decrement id isLocal))
    (h : Run w.world (Task.threads tasks s) es t) :
    (∀ id n, t.state.counter? id = some n →
      ((t.state.waitingIds id).length + (owing es id).length : Int) ≤ n ∧
        (t.state.waitingIds id ≠ [] → 0 < n)) ∧
    ∀ e ∈ es, ∀ id isLocal n, e.call = .store (.decrement id isLocal) →
      e.before.counter? id = some n → 0 < n ∧ e.after.counter? id = some (n - 1) := by
  obtain ⟨m, hcovered, -⟩ := h.invariant (fun i => (tasks i).Moves) (fun i => (tasks i).Ends)
    (fun i => (tasks i).first) (fun i => (tasks i).follows) Covered (Covered.start hcovers)
    (fun _ _ _ i _ _ _ _ hcovered hm hW => hcovered.step hcount hm hW)
  refine ⟨?_, ?_⟩
  · intro id n hn
    have hle := hcovered.counter id n hn
    refine ⟨hle, ?_⟩
    intro hne
    have hpos := List.length_pos_of_ne_nil hne
    omega
  · intro e he id isLocal n hcall hn
    refine hcovered.counts e he id n ?_ hn
    obtain ⟨i, c, a, b, b'⟩ := e
    cases hcall
    rfl

end Runs

/-- A request for work, and an operator who kills a job. -/
def requestAndKill : Bool → Task
  | false => .request {} agentRequest
  | true => .command {} (.forceJobStatus 8 .killed)

/-- Two of three jobs stop waiting, one claimed and one killed.  The claim
is not counted yet, and the counter still stands for all three. -/
theorem counters_cover_waiting_jobs_of_claim_and_kill :
    let s := ((({} : Store).insertJob (waitingJob 7 1)).insertJob (waitingJob 8 1)).insertJob
      (waitingJob 9 1) |>.insertAggregate (openAggregate 1 3)
    let t := (Task.threads requestAndKill s).play generousPartners.reply
      [false, false, false, false, false, true, true]
    s.Covers ∧ t.state.counter? 1 = some 3 ∧ t.state.waitingIds 1 = [9] ∧
      ∃ es, Run Surroundings.steady.world (Task.threads requestAndKill s) es t ∧
        ∀ id n, t.state.counter? id = some n →
          ((t.state.waitingIds id).length + (owing es id).length : Int) ≤ n ∧
            (t.state.waitingIds id ≠ [] → 0 < n) := by
  intro s t
  have hcovers : s.Covers := by decide +kernel
  obtain ⟨es, h⟩ := Run.exists_play (Surroundings.steady_reply generousPartners)
    (Task.threads requestAndKill s) _
  exact ⟨hcovers, by decide +kernel, by decide +kernel, es, h,
    (counters_cover_waiting_jobs hcovers (fun _ _ => id) h).1⟩

end GridQueue
