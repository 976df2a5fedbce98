/-
# `GridQueue.Proofs.Pool.Answers` — each command is answered once

Whatever submitters, workers and the owner of a pool do, and in whatever
order, a command is taken once at most and answered once at most, and it
is not lost.  A command that is answered with `shuttingDown` was not
taken, so no call was made for it, and calls are all that changes the
state (`Effect`).

What happens after a signal, or after a shutdown returned, is read off the
rest of the log: `Run.split` leads to the workshop in which the rest
began, and its phase says what may still happen.

The signal does not stop a worker that has just looked at it:

    worker   looked ............................ took
    owner             signalled ..............

It goes on to the queue and takes a command, which is served like any other
(`command_is_taken_after_signal`).  It is the only one of that worker, whose
next look finds the signal.  So `Orderly.signalled` says of a command that is
taken after the signal that its worker had looked before, and did nothing
since.
-/
import GridQueue.Proofs.Pool.Ledger
import GridQueue.Proofs.Surroundings

namespace GridQueue

namespace Workshop

variable {σ : Type}

/-- The state after the calls of a log.  Nothing else changes the state. -/
inductive Effect (W : World Call Call.Answer σ) (s : σ) : List Event → σ → Prop
  | start : Effect W s [] s
  | called {log s₁ i t c a s₂} : Effect W s log s₁ → W c s₁ a s₂ →
      Effect W s (log ++ [.called i t c a]) s₂
  | other {log s₁ e} : Effect W s log s₁ → (∀ i t c a, e ≠ .called i t c a) →
      Effect W s (log ++ [e]) s₁

/-- The worker that takes a command. -/
def Event.taker? : Event → Option ℕ
  | took i _ => some i
  | _ => none

/-- The workers that took commands, one for each command. -/
def takers (log : List Event) : List ℕ := log.filterMap Event.taker?

/-- A log after which each command has at most one answer, and the right
one. -/
structure Orderly (settings : BrokerSettings) (W : World Call Call.Answer σ) (s : σ)
    (log : List Event) (h : Workshop σ) : Prop where
  taken : (takes log).Nodup
  answered : (h.answers.map (·.1)).Nodup
  /-- a command that was refused did nothing -/
  refused : ∀ t, (t, .error .shuttingDown) ∈ h.answers →
    t ∉ takes log ∧ ∀ i c a, .called i t c a ∉ log
  /-- any other answer is what the command ended with -/
  own : ∀ t r, (t, r) ∈ h.answers → Command.Ran r →
    t ∈ takes log ∧ ∃ i, .finished i t r ∈ log
  /-- no command is lost: it waits, a worker holds it, or it is answered -/
  kept : ∀ t c, .submitted t c ∈ log → t ∈ h.pool.refused ∨
    (∃ i p, h.workers i = .holding t p) ∨ ∃ r, (t, r) ∈ h.answers
  /-- whoever holds a command can bring it to its end -/
  answerable : (∀ c s, ∃ a s', W c s a s') → ∀ i t p, h.workers i = .holding t p →
    ∃ log' h' r, Run settings W h log' h' ∧ (t, r) ∈ h'.answers
  effect : Effect W s log h.state
  counted : h.pool.completed + h.pool.failed = (finishes log).length
  /-- whoever takes a command after the signal had looked before, and did
  nothing since -/
  signalled : ∀ before between i t after,
    log = before ++ .signalled (.ok ()) :: (between ++ .took i t :: after) →
    ∃ earlier since, before = earlier ++ .looked i :: since ∧
      ∀ e ∈ since ++ between, e.worker? ≠ some i
  /-- so no worker takes two -/
  once : ∀ before after, log = before ++ .signalled (.ok ()) :: after → (takers after).Nodup
  /-- a shutdown is refused only if the pool does not run -/
  declined : ∀ e, .signalled (.error e) ∈ log → e = .notRunning
  /-- what was not taken when a shutdown returns is refused -/
  drained : ∀ before after result, log = before ++ .closed result :: after →
    ∀ t c, .submitted t c ∈ before → t ∉ takes before → (t, .error .shuttingDown) ∈ h.answers
  /-- and so is what is submitted later -/
  shut : ∀ before after result, log = before ++ .closed result :: after →
    ∀ t c, .submitted t c ∈ after → (t, .error .shuttingDown) ∈ h.answers
  /-- the pool does not start again -/
  ended : ∀ before after result, log = before ++ .closed result :: after →
    ∀ r, .started r ∈ after → r = .error .closed

section Ledger

variable {log : List Event} {turned : List ℕ} {h : Workshop σ} {t : ℕ} {r : Command.Result}

theorem mem_finishes : (t, r) ∈ finishes log ↔ ∃ i, .finished i t r ∈ log := by
  simp only [finishes, List.mem_filterMap]
  constructor
  · rintro ⟨e, he, heq⟩
    cases e <;> cases heq
    exact ⟨_, he⟩
  · rintro ⟨i, he⟩
    exact ⟨_, he, rfl⟩

theorem Ledger.taken_nodup (hl : Ledger log turned h) : (takes log).Nodup := by
  have hnodup := (List.nodup_append.mp hl.nodup).1
  rw [List.append_assoc] at hnodup
  exact hl.taken.nodup_iff.mpr (List.nodup_append.mp hnodup).2.1

theorem Ledger.answered_nodup (hl : Ledger log turned h) : (h.answers.map (·.1)).Nodup := by
  have hnodup := hl.nodup
  rw [List.append_assoc] at hnodup
  have hperm : (h.answers.map (·.1)).Perm (ends log ++ turned) := by
    have hperm := hl.answers.map (·.1)
    simpa only [ends, List.map_append, List.map_map, Function.comp_def, List.map_id'] using hperm
  exact hperm.nodup_iff.mpr (List.nodup_append.mp hnodup).2.1

theorem Ledger.not_taken (hl : Ledger log turned h) (ht : t ∈ turned) : t ∉ takes log := by
  intro htakes
  have hin := hl.taken.mem_iff.mp htakes
  have hapart := (List.nodup_append.mp hl.nodup).2.2 t
  rw [List.append_assoc] at hapart
  exact hapart (List.mem_append_right _ hin) t ht rfl

theorem Ledger.mem_answers (hl : Ledger log turned h) :
    (t, r) ∈ h.answers ↔ (t, r) ∈ finishes log ∨ t ∈ turned ∧ r = .error .shuttingDown := by
  rw [hl.answers.mem_iff, List.mem_append, List.mem_map]
  constructor
  · rintro (hmem | ⟨u, hu, heq⟩)
    · exact .inl hmem
    · cases heq
      exact .inr ⟨hu, rfl⟩
  · rintro (hmem | ⟨ht, rfl⟩)
    · exact .inl hmem
    · exact .inr ⟨t, ht, rfl⟩

theorem Ledger.turned_of_refused (hl : Ledger log turned h)
    (hmem : (t, .error .shuttingDown) ∈ h.answers) : t ∈ turned := by
  rcases hl.mem_answers.mp hmem with hfinished | ⟨hturned, -⟩
  · exact absurd rfl (hl.ran t _ hfinished)
  · exact hturned

theorem Ledger.own (hl : Ledger log turned h) (hmem : (t, r) ∈ h.answers)
    (hran : Command.Ran r) : t ∈ takes log ∧ ∃ i, .finished i t r ∈ log := by
  rcases hl.mem_answers.mp hmem with hfinished | ⟨-, hrefused⟩
  · have hends : t ∈ ends log := List.mem_map_of_mem (f := Prod.fst) hfinished
    exact ⟨hl.taken.mem_iff.mpr (List.mem_append_right _ hends), mem_finishes.mp hfinished⟩
  · exact absurd hrefused hran

theorem Ledger.kept (hl : Ledger log turned h) (ht : t < h.tickets) :
    t ∈ h.pool.refused ∨ t ∈ h.held ∨ ∃ r, (t, r) ∈ h.answers := by
  have hplace := hl.place.mem_iff.mpr (List.mem_range.mpr ht)
  simp only [List.mem_append] at hplace
  rcases hplace with ((hwaits | hheld) | hends) | hturned
  · exact .inl hwaits
  · exact .inr (.inl hheld)
  · obtain ⟨⟨u, r⟩, hmem, rfl⟩ := List.mem_map.mp hends
    exact .inr (.inr ⟨r, hl.mem_answers.mpr (.inl hmem)⟩)
  · exact .inr (.inr ⟨_, hl.mem_answers.mpr (.inr ⟨hturned, rfl⟩)⟩)

end Ledger

section Runs

variable {settings : BrokerSettings} {W : World Call Call.Answer σ} {ps : PoolSettings} {s : σ}
  {first h : Workshop σ} {e : Event} {log : List Event} {t : ℕ} {c : Command}

theorem Run.ledger (hrun : Run settings W (opening ps s) log h) :
    (∃ turned, Ledger log turned h) ∧ Hands h := by
  induction hrun with
  | start => exact ⟨⟨[], .opening⟩, .opening⟩
  | step _ hstep ih =>
      obtain ⟨⟨turned, hl⟩, hh⟩ := ih
      exact hl.step hh hstep

theorem Run.effect (hrun : Run settings W first log h) : Effect W first.state log h.state := by
  induction hrun with
  | start => exact .start
  | step _ hstep ih =>
      cases hstep with
      | call _ hW => exact ih.called hW
      | _ => exact ih.other (by simp)

/-- Every event of a log happened in a workshop that the log led to. -/
theorem Run.mem (hrun : Run settings W first log h) (he : e ∈ log) :
    ∃ before h₁ h₂, Run settings W first before h₁ ∧ Step settings W h₁ e h₂ ∧
      h₂.answers ⊆ h.answers := by
  obtain ⟨before, after, rfl⟩ := List.append_of_mem he
  obtain ⟨h₁, h₂, hbefore, hstep, hafter⟩ := hrun.split
  exact ⟨before, h₁, h₂, hbefore, hstep, hafter.answers_subset⟩

/-- Whoever takes a command after the signal had looked before, and did
nothing since. -/
theorem Run.signalled_took {before between after : List Event} {i : ℕ}
    (hrun : Run settings W (opening ps s)
      (before ++ .signalled (.ok ()) :: (between ++ .took i t :: after)) h) :
    ∃ earlier since, before = earlier ++ .looked i :: since ∧
      ∀ e ∈ since ++ between, e.worker? ≠ some i := by
  obtain ⟨h₁, h₂, hbefore, hsignal, hrest⟩ := hrun.split
  obtain ⟨h₃, h₄, hbetween, htook, -⟩ := hrest.split
  cases hsignal with
  | signal hstop =>
      obtain ⟨-, rfl⟩ := Pool.stop_eq_ok hstop
      obtain ⟨hlooked, hquiet⟩ := hbetween.looked_before (.inl rfl) htook.looked_of_took
      obtain ⟨earlier, since, rfl, hsince⟩ := hbefore.exists_looked nofun hlooked
      exact ⟨earlier, since, rfl, List.forall_mem_append.mpr ⟨hsince, hquiet⟩⟩

theorem eq_took_of_taker? {i : ℕ} (h : e.taker? = some i) : ∃ t, e = .took i t := by
  cases e <;> cases h
  exact ⟨_, rfl⟩

/-- Who took a command after the signal does not take another one. -/
theorem Run.signalled_once {before after : List Event}
    (hrun : Run settings W (opening ps s) (before ++ .signalled (.ok ()) :: after) h) :
    (takers after).Nodup := by
  refine List.pairwise_filterMap.mpr (List.pairwise_iff_forall_sublist.mpr ?_)
  rintro d e hsub i hd j he rfl
  obtain ⟨t, rfl⟩ := eq_took_of_taker? hd
  obtain ⟨u, rfl⟩ := eq_took_of_taker? he
  -- the first command is among what happened before the second one
  obtain ⟨first, rest, rfl, hfirst, hrest⟩ := List.cons_sublist_iff.mp hsub
  obtain ⟨middle, last, rfl⟩ := List.append_of_mem (List.singleton_sublist.mp hrest)
  rw [← List.append_assoc] at hrun
  obtain ⟨_, _, -, hquiet⟩ := hrun.signalled_took
  exact hquiet _ (List.mem_append_right _ (List.mem_append_left _ hfirst)) rfl

theorem Run.refused_of_closed (hrun : Run settings W first log h)
    (hfirst : first.pool.phase = .closed) (ht : .submitted t c ∈ log) :
    (t, .error .shuttingDown) ∈ h.answers := by
  obtain ⟨_, h₁, _, hbefore, hstep, hanswers⟩ := hrun.mem ht
  have hclosed := hbefore.closed hfirst
  cases hstep with
  | submit hopen => exact absurd (Pool.isOpen_eq_false.mpr hclosed) (by simp [hopen])
  | turnAway => exact hanswers (List.mem_append_right _ (List.mem_singleton_self _))

theorem Run.started_of_closed {r : Except PoolError Unit} (hrun : Run settings W first log h)
    (hfirst : first.pool.phase = .closed) (hr : .started r ∈ log) : r = .error .closed := by
  obtain ⟨_, h₁, _, hbefore, hstep, -⟩ := hrun.mem hr
  have hclosed := hbefore.closed hfirst
  cases hstep with
  | start hstart =>
      have hcreated := (Pool.start_eq_ok hstart).1
      exact absurd (hclosed.symm.trans hcreated) nofun
  | startFails hstart =>
      rw [Pool.start, hclosed] at hstart
      cases hstart
      rfl

theorem Step.closed {result : Except PoolError Unit} {h' : Workshop σ}
    (hstep : Step settings W h (.closed result) h') : h' = h.close := by
  cases hstep <;> rfl

theorem Run.drained {result : Except PoolError Unit} {before after : List Event}
    (hrun : Run settings W (opening ps s) (before ++ .closed result :: after) h)
    (ht : .submitted t c ∈ before) (hnot : t ∉ takes before) :
    (t, .error .shuttingDown) ∈ h.answers := by
  obtain ⟨h₁, h₂, hbefore, hstep, hafter⟩ := hrun.split
  obtain ⟨⟨turned, hl⟩, -⟩ := hbefore.ledger
  refine hafter.answers_subset ?_
  rw [hstep.closed]
  rcases hl.kept (hl.submitted t c ht) with hwaits | hheld | ⟨r, hr⟩
  · exact List.mem_append_right _ (List.mem_map.mpr ⟨t, hwaits, rfl⟩)
  · exact absurd (hl.taken.mem_iff.mpr (List.mem_append_left _ hheld)) hnot
  · by_cases hran : Command.Ran r
    · exact absurd (hl.own hr hran).1 hnot
    · rw [not_not.mp hran] at hr
      exact List.mem_append_left _ hr

/-- A worker ends its command, however many calls it still has to make. -/
theorem Run.exists_answered {i : ℕ} {p : Action Command.Result}
    (hW : ∀ c s, ∃ a s', W c s a s') (hi : h.workers i = .holding t p) :
    ∃ log' h' r, Run settings W h log' h' ∧ (t, r) ∈ h'.answers := by
  induction p generalizing h with
  | done r =>
      exact ⟨_, _, r, Run.start.step (.finish hi),
        List.mem_append_right _ (List.mem_singleton_self _)⟩
  | call c next ih =>
      obtain ⟨a, s', hans⟩ := hW c h.state
      let h₁ : Workshop σ := { h with state := s' }.setWorker i (.holding t (next a))
      have hnext : Step settings W h (.called i t c a) h₁ := .call hi hans
      have hi₁ : h₁.workers i = .holding t (next a) := Function.update_self ..
      obtain ⟨log', h', r, hrun, hmem⟩ := ih a hi₁
      exact ⟨_, h', r, (Run.start.step hnext).trans hrun, hmem⟩

/-- Each command is taken once at most and answered once at most.  A
command that is answered with `shuttingDown` was not taken.  After the signal
commands are taken by workers only that had just looked at it, one by each;
and once a shutdown has returned, all that was not taken and all that comes
later is refused. -/
theorem commands_are_answered_once (hrun : Run settings W (opening ps s) log h) :
    Orderly settings W s log h := by
  obtain ⟨⟨turned, hl⟩, hh⟩ := hrun.ledger
  constructor
  · exact hl.taken_nodup
  · exact hl.answered_nodup
  · intro t ht
    have hnot := hl.not_taken (hl.turned_of_refused ht)
    exact ⟨hnot, fun i c a hcalled => hnot (hl.called i t c a hcalled)⟩
  · exact fun t r hmem hran => hl.own hmem hran
  · intro t c ht
    rcases hl.kept (hl.submitted t c ht) with hwaits | hheld | hanswered
    · exact .inl hwaits
    · exact .inr (.inl (hh.manned t hheld))
    · exact .inr (.inr hanswered)
  · exact fun hW i t p hi => Run.exists_answered hW hi
  · exact hrun.effect
  · exact hl.counted
  · rintro before between i t after rfl
    exact hrun.signalled_took
  · rintro before after rfl
    exact hrun.signalled_once
  · intro e he
    obtain ⟨_, _, _, -, hstep, -⟩ := hrun.mem he
    cases hstep with
    | signalFails hstop =>
        unfold Pool.stop at hstop
        split at hstop <;> cases hstop <;> rfl
  · intro before after result hlog t c ht hnot
    subst hlog
    exact hrun.drained ht hnot
  · intro before after result hlog t c ht
    subst hlog
    obtain ⟨h₁, h₂, -, hstep, hafter⟩ := hrun.split
    exact hafter.refused_of_closed (by rw [hstep.closed]; rfl) ht
  · intro before after result hlog r hr
    subst hlog
    obtain ⟨h₁, h₂, -, hstep, hafter⟩ := hrun.split
    exact hafter.started_of_closed (by rw [hstep.closed]; rfl) hr

/-- One worker, room for one command, and a shutdown while the worker is
at work: the command in hand is answered, and the two others are refused. -/
theorem commands_are_answered_once_at_shutdown :
    ∃ log h, Run {} Surroundings.steady.world (opening { workers := 1, capacity := 1 } {}) log h ∧
      h.answers = [(1, .error .shuttingDown), (0, .ok (.heartbeat 7 false)),
        (2, .error .shuttingDown)] ∧
      Orderly {} Surroundings.steady.world {} log h := by
  have opened : Run {} Surroundings.steady.world (opening { workers := 1, capacity := 1 } {}) []
    (opening { workers := 1, capacity := 1 } {}) := .start
  -- the first command fills the queue, the second waits for room
  have full := (opened.step (.submit (c := .heartbeat 7 0) rfl)).step
    (.submit (c := .heartbeat 8 0) rfl)
  have looked := (full.step (.start rfl)).step (.look (i := 0) rfl rfl)
  have atWork := looked.step (.take (i := 0) rfl rfl)
  -- the shutdown does not wait for the command in hand
  have shut := (atWork.step (.signal rfl)).step (.timeout rfl)
  have called := shut.step (.call (i := 0) (c := .store (.touchHeartbeat 7 0))
    (a := Except.ok false) rfl (.inl ⟨.ofMillis 0, rfl⟩))
  have noted := called.step (.call (i := 0) (c := .note (.commandEnded "heartbeat" true))
    (a := ()) rfl rfl)
  have done := noted.step (.finish (i := 0) rfl)
  have late := (done.step (.turnAway (c := .getJobs [7]) rfl)).step (.startFails rfl)
  exact ⟨_, _, late, rfl, commands_are_answered_once late⟩

/-- A worker looks, the signal is given, and the worker takes a command.  A
pool that was not started refuses to be shut down, and starts later. -/
theorem command_is_taken_after_signal :
    (∃ h, Run {} Surroundings.steady.world (opening { workers := 1, capacity := 1 } {})
      [.submitted 0 (.heartbeat 7 0), .started (.ok ()), .looked 0, .signalled (.ok ()),
        .took 0 0] h) ∧
    ∃ h, Run {} Surroundings.steady.world (opening { workers := 1, capacity := 1 } {})
      [.signalled (.error .notRunning), .started (.ok ())] h := by
  have opened : Run {} Surroundings.steady.world (opening { workers := 1, capacity := 1 } {}) []
    (opening { workers := 1, capacity := 1 } {}) := .start
  have started := (opened.step (.submit (c := .heartbeat 7 0) rfl)).step (.start rfl)
  have signalled := (started.step (.look (i := 0) rfl rfl)).step (.signal rfl)
  exact ⟨⟨_, signalled.step (.take (i := 0) rfl rfl)⟩,
    ⟨_, (opened.step (.signalFails rfl)).step (.start rfl)⟩⟩

end Runs

end Workshop

end GridQueue
