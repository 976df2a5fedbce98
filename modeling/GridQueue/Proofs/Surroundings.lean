/-
# `GridQueue.Proofs.Surroundings` — the world in which tasks take turns

Tasks share a store in memory.  Each call of it is one step, at whatever
time the clock shows then: nothing is assumed of clocks, which may jump
and go backwards.  What the other collaborators may answer, and which
calls of the store may fail instead, is said by the `Surroundings`.  A
call that fails has no effect.  Traces may be kept somewhere else, so that
nothing is known of what becomes of them.

    hostile     everything may be answered, and every call may fail
    steady      no call of the store fails
    reliable    nor does the directory or the token service, and only
                the traces are kept elsewhere or not at all

A run of tasks is then a list of events (`GridQueue.Proofs.Interleaving`).
What an event tells of the store is `world_ok` for a call that succeeded,
and `world_job` and `world_same` for what the call leaves alone.
-/
import GridQueue.Proofs.Partners
import GridQueue.Proofs.Store.Effect
import GridQueue.Proofs.Task

namespace GridQueue

def Call.writes : Call → Option Part
  | .store c => c.writes
  | .lookup _ _ | .issue _ | .revoke _ | .now | .stopwatch | .note _ => none

/-- What the collaborators of the broker may do. -/
structure Surroundings where
  /-- The calls of the store that may fail. -/
  mayFail : StoreCall → Prop
  /-- Nothing is known of what becomes of a trace. -/
  foreignTraces : Prop
  lookup : String → String → Except DirectoryError Site.Requirements → Prop
  issue : TokenRequest → Except CredentialError Token → Prop
  revoke : TokenRequest → Except CredentialError Unit → Prop

namespace Surroundings

/-- Everything may fail at any call. -/
def hostile : Surroundings where
  mayFail _ := True
  foreignTraces := True
  lookup _ _ _ := True
  issue _ _ := True
  revoke _ _ := True

/-- The store never fails; the other collaborators may do as they like. -/
def steady : Surroundings where
  mayFail _ := False
  foreignTraces := False
  lookup _ _ _ := True
  issue _ _ := True
  revoke _ _ := True

/-- A token is issued for every request, and but for traces the store and
the directory that `requirements` describes never fail. -/
def reliable (requirements : String → String → Site.Requirements) : Surroundings where
  mayFail c := c.writes = some .traces
  foreignTraces := True
  lookup ce site answer := answer = .ok (requirements ce site)
  issue _ answer := ∃ token, answer = .ok token
  revoke _ _ := True

/-- The world of a store in memory in these surroundings. -/
def world (w : Surroundings) : World Call Call.Answer Store
  | .store c, s, a, s' =>
      (∃ now, s.perform now c = (a, s'))
        ∨ (w.mayFail c ∧ (∃ e, a = .error e) ∧ s' = s)
        ∨ (w.foreignTraces ∧ c.writes = some .traces ∧ ∃ traces, s' = { s with traces })
  | .lookup ce site, s, a, s' => w.lookup ce site a ∧ s' = s
  | .issue request, s, a, s' => w.issue request a ∧ s' = s
  | .revoke request, s, a, s' => w.revoke request a ∧ s' = s
  | .now, s, _, s' | .stopwatch, s, _, s' | .note _, s, _, s' => s' = s

variable {w : Surroundings} {s s' : Store}

/-- Partners that always answer as they do are among the surroundings in
which everything may happen. -/
theorem hostile_reply (p : Partners) (c : Call) (s : Store) :
    hostile.world c s (p.reply c s).1 (p.reply c s).2 := by
  cases c with
  | store c => exact .inl ⟨p.now, rfl⟩
  | lookup | issue | revoke => exact ⟨trivial, rfl⟩
  | now | stopwatch | note => exact rfl

theorem steady_reply (p : Partners) (c : Call) (s : Store) :
    steady.world c s (p.reply c s).1 (p.reply c s).2 := by
  cases c with
  | store c => exact .inl ⟨p.now, rfl⟩
  | lookup | issue | revoke => exact ⟨trivial, rfl⟩
  | now | stopwatch | note => exact rfl

/-- What a steady store ensures holds of a program that is served alone. -/
theorem serve_of_ensures {α : Type} {program : Action α} {good : α → Prop}
    (h : program.Ensures steady.world good) (p : Partners) (s : Store) :
    good (p.serve program s).1 := by
  induction program generalizing s with
  | done a => exact h
  | call c next ih => exact ih _ (h s _ _ (steady_reply p c s)) _

theorem reliable_reply (p : Partners) (htoken : ∀ request, ∃ token, p.issue request = .ok token)
    (c : Call) (s : Store) :
    (reliable p.requirements).world c s (p.reply c s).1 (p.reply c s).2 := by
  cases c with
  | store c => exact .inl ⟨p.now, rfl⟩
  | issue request => exact ⟨htoken request, rfl⟩
  | lookup => exact ⟨rfl, rfl⟩
  | revoke => exact ⟨trivial, rfl⟩
  | now | stopwatch | note => exact rfl

theorem exists_answer (hlookup : ∀ ce site, ∃ a, w.lookup ce site a)
    (hissue : ∀ request, ∃ a, w.issue request a) (hrevoke : ∀ request, ∃ a, w.revoke request a)
    (c : Call) (s : Store) : ∃ a s', w.world c s a s' := by
  cases c with
  | store c => exact ⟨_, _, .inl ⟨⟨0, false⟩, rfl⟩⟩
  | lookup ce site =>
      obtain ⟨a, ha⟩ := hlookup ce site
      exact ⟨a, s, ha, rfl⟩
  | issue request =>
      obtain ⟨a, ha⟩ := hissue request
      exact ⟨a, s, ha, rfl⟩
  | revoke request =>
      obtain ⟨a, ha⟩ := hrevoke request
      exact ⟨a, s, ha, rfl⟩
  | now => exact ⟨⟨0, false⟩, s, rfl⟩
  | stopwatch => exact ⟨⟨0⟩, s, rfl⟩
  | note event => exact ⟨(), s, rfl⟩

/-- Then no run is stuck: wherever finitely many programs stand, they can
all be brought to their ends. -/
theorem exists_finished {ι : Type} {α : ι → Type} [Fintype ι] [DecidableEq ι]
    (hlookup : ∀ ce site, ∃ a, w.lookup ce site a) (hissue : ∀ request, ∃ a, w.issue request a)
    (hrevoke : ∀ request, ∃ a, w.revoke request a) (t : Threads ι Call Call.Answer α Store) :
    ∃ es u, Run w.world t es u ∧ ∀ i, ∃ a, u.Finished i a :=
  Run.exists_finished (exists_answer hlookup hissue hrevoke) t

/-- Whatever is answered, a table that a call does not write stays as it
is. -/
theorem world_same {q : Part} {c : Call} {a : c.Answer} (h : w.world c s a s')
    (hc : c.writes ≠ some q) : Store.Same q s s' := by
  cases c with
  | store c =>
      rcases h with ⟨now, h⟩ | ⟨-, -, rfl⟩ | ⟨-, htraces, traces, rfl⟩
      · obtain rfl : (s.perform now c).2 = s' := by rw [h]
        exact Store.perform_same hc
      · exact .refl q _
      · refine (Store.sameBut_traces s traces).same q fun hq => hc ?_
        rw [hq]
        exact htraces
  | lookup | issue | revoke => rw [h.2]; exact .refl q s
  | now | stopwatch | note => rw [show s' = s from h]; exact .refl q s

theorem world_jobs {c : Call} {a : c.Answer} (h : w.world c s a s')
    (hc : c.writes ≠ some .jobs) : s'.jobs = s.jobs :=
  world_same h hc

theorem world_isBlocked {c : Call} {a : c.Answer} (h : w.world c s a s')
    (hc : ∀ ce blocked, c ≠ .store (.setQueueBlocked ce blocked)) (ce : String) :
    s'.isBlocked ce = s.isBlocked ce := by
  cases c with
  | store c =>
      rcases h with ⟨now, h⟩ | ⟨-, -, rfl⟩ | ⟨-, -, traces, rfl⟩
      · obtain rfl : (s.perform now c).2 = s' := by rw [h]
        exact Store.perform_isBlocked (fun ce blocked hc' => hc ce blocked (hc' ▸ rfl)) ce
      · rfl
      · rfl
  | lookup | issue | revoke => rw [h.2]
  | now | stopwatch | note => rw [show s' = s from h]

/-- What is no error the store answered itself, but for traces. -/
theorem world_ok {c : StoreCall} {v : c.Value} (h : w.world (.store c) s (.ok v) s')
    (hc : c.writes ≠ some .traces := by simp [StoreCall.writes]) :
    ∃ now, s.perform now c = (.ok v, s') := by
  rcases h with h | ⟨-, ⟨e, he⟩, -⟩ | ⟨-, htraces, -⟩
  · exact h
  · cases he
  · exact absurd htraces hc

theorem steady_store {c : StoreCall} {a : Except StoreError c.Value}
    (h : steady.world (.store c) s a s') : ∃ now, s.perform now c = (a, s') := by
  rcases h with h | ⟨hfail, -⟩ | ⟨hforeign, -⟩
  · exact h
  · exact hfail.elim
  · exact hforeign.elim

/-- So does a reliable one, but for traces. -/
theorem reliable_store {requirements : String → String → Site.Requirements} {c : StoreCall}
    {a : Except StoreError c.Value} (h : (reliable requirements).world (.store c) s a s')
    (hc : c.writes ≠ some .traces := by simp [StoreCall.writes]) :
    ∃ now, s.perform now c = (a, s') := by
  rcases h with h | ⟨hfail, -⟩ | ⟨-, hforeign, -⟩
  · exact h
  · exact absurd hfail hc
  · exact absurd hforeign hc

/-- Whatever is called, a job is as it was, or changed by a call of the
store in the way of that call. -/
theorem world_job {c : Call} {a : c.Answer} (h : w.world c s a s') (id : Int) :
    s'.jobs.get? id = s.jobs.get? id ∨
      ∃ now sc j j', c = .store sc ∧ s.jobs.get? id = some j ∧ s'.jobs.get? id = some j' ∧
        Store.JobChange now sc j j' := by
  cases c with
  | store c =>
      rcases h with ⟨now, h⟩ | ⟨-, -, rfl⟩ | ⟨-, -, traces, rfl⟩
      · rcases Store.perform_job s now c id with hsame | ⟨j, j', hj, hj', hchange⟩
        · exact .inl (by rw [← hsame, h])
        · exact .inr ⟨now, c, j, j', rfl, hj, by rw [← hj', h], hchange⟩
      · exact .inl rfl
      · exact .inl rfl
  | lookup | issue | revoke => exact .inl (by rw [h.2])
  | now | stopwatch | note => exact .inl (by rw [show s' = s from h])

theorem world_keeps_job {c : Call} {a : c.Answer} (h : w.world c s a s') {id : Int} {j : Job}
    (hj : s.jobs.get? id = some j) : ∃ j', s'.jobs.get? id = some j' := by
  rcases world_job h id with hsame | ⟨_, _, _, j', _, _, hj', _⟩
  · exact ⟨j, hsame.trans hj⟩
  · exact ⟨j', hj'⟩

end Surroundings

end GridQueue
