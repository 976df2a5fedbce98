/-
# `GridQueue.Proofs.Configuration` — what a configuration that is accepted is good for

Whatever the environment holds, a configuration that comes of it meets
every rule (`Config.rules_of_ofEnv`).  The rules give the pool its workers
and room for a command, and keep the interval of sweeps below the first
threshold, so that the marker of sweeps need not be older than it
(`Config.IsSound`).  They put no upper bound on anything.

What has to be added is `Config.IsBounded`: no span reaches back beyond the
calendar, and the queue is no longer than a channel can be.  Then sweeps and
batches never fail on a steady store, whoever takes turns with them
(`accepted_configuration_works`).  Without it every sweep may fail, and no
rule is broken (`endless_patience_is_accepted`).

That a task does not fail is said by `Program.Ensures`: it depends on what
the store answers to its calls and not on the state in which it does.
-/
import GridQueue.Config
import GridQueue.Pool.Basic
import GridQueue.Proofs.Calendar
import GridQueue.Proofs.Liveness.Age
import GridQueue.Proofs.Turns

namespace GridQueue

/-! ## Rules -/

namespace Config

variable {c : Config} {env : String → Option String} {processName : String}

theorem rules_of_checked {d : Config} (h : d.checked = .ok c) :
    c = d ∧ ∀ r ∈ rules, r.1 c = true := by
  unfold checked at h
  split at h
  · cases h
  · next hnone =>
    cases h
    refine ⟨rfl, fun r hr => ?_⟩
    simpa using List.find?_eq_none.mp hnone r hr

theorem rules_of_ofEnv (h : ofEnv env processName = .ok c) : ∀ r ∈ rules, r.1 c = true := by
  unfold ofEnv at h
  split at h
  · cases h
  · dsimp only at h
    -- it does not matter what the variables were read as
    generalize known.foldlM (apply env) _ = read at h
    cases read with
    | error e => cases h
    | ok d => exact (rules_of_checked h).2

/-- What the rules say of the periodic tasks and the pool. -/
structure IsSound (c : Config) : Prop where
  workers_pos : 0 < c.workers
  queue_pos : 0 < c.queueCapacity
  interval_le : c.liveness.interval.nanos ≤ c.liveness.zombieAfter.nanos

theorem isSound_of_ofEnv (h : ofEnv env processName = .ok c) : c.IsSound := by
  have hrules := rules_of_ofEnv h
  simp only [rules, List.forall_mem_cons] at hrules
  obtain ⟨-, -, -, hworkers, hqueue, -, -, hinterval, -⟩ := hrules
  exact ⟨by simpa [Nat.pos_iff_ne_zero] using hworkers,
    by simpa [Nat.pos_iff_ne_zero] using hqueue, of_decide_eq_true hinterval⟩

end Config

/-! ## What the rules leave out -/

/-- The most commands that the channel to the workers can be made for. -/
def PoolSettings.maxCapacity : Nat := 0x1FFFFFFFFFFFFFFF

/-- A channel can be made for the queue. -/
def PoolSettings.HasChannel (s : PoolSettings) : Prop := 0 < s.capacity ∧ s.capacity ≤ maxCapacity

namespace Config

variable {c : Config}

/-- No span is longer than the calendar goes back, and the queue is no
longer than a channel can be. -/
structure IsBounded (c : Config) : Prop where
  patience : c.liveness.patience.StaysInCalendar
  priority : (Marker.minAge c.priorityInterval).StaysInCalendar
  queue : c.queueCapacity ≤ PoolSettings.maxCapacity

/-- The first threshold reaches back no further than both together. -/
theorem IsBounded.zombieAfter (h : c.IsBounded) : c.liveness.zombieAfter.StaysInCalendar :=
  h.patience.mono (Nat.le_add_right ..)

theorem IsBounded.dated (h : c.IsBounded) {now : Instant} (hnow : now.IsContemporary) :
    c.liveness.Dated now :=
  ⟨hnow.inCalendar, h.zombieAfter.back hnow, h.patience.back hnow⟩

/-- The age of the marker of sweeps reaches back no further than the first
threshold. -/
theorem IsBounded.interval (h : c.IsBounded) (hsound : c.IsSound) :
    (Marker.minAge c.liveness.interval).StaysInCalendar :=
  h.zombieAfter.mono ((Marker.minAge_bounds _).2.1.trans hsound.interval_le)

theorem IsSound.pool_checked (h : c.IsSound) : c.pool.checked = .ok c.pool := by
  have hworkers : c.pool.workers ≠ 0 := h.workers_pos.ne'
  have hcapacity : c.pool.capacity ≠ 0 := h.queue_pos.ne'
  simp [PoolSettings.checked, PoolSettings.flaw?, hworkers, hcapacity]

end Config

/-! ## Tasks that do not fail -/

namespace Liveness

open Program

variable {settings : LivenessSettings}

theorem pass_ensures (sources : List Status) (target : Status) (cutoff : Instant) :
    (pass sources target cutoff).Ensures Surroundings.steady.world fun result =>
      ∃ counts, result = .ok counts := by
  intro s found s' hW
  obtain ⟨_, hperform⟩ := Surroundings.steady_store hW
  cases hperform
  show ((moveAll sources target cutoff _ _).bind _).Ensures _ _
  exact ensures_bind.mpr ((ensures_true _).mono fun counts _ => ⟨counts, rfl⟩)

theorem passes_ensures (cutoff expiry : Instant) :
    (passes cutoff expiry).Ensures Surroundings.steady.world fun result =>
      ∃ counts, result = .ok counts := by
  refine ensures_bind.mpr ((pass_ensures _ _ _).mono ?_)
  rintro _ ⟨zombie, rfl⟩
  refine ensures_bind.mpr ((pass_ensures _ _ _).mono ?_)
  rintro _ ⟨expired, rfl⟩
  exact ⟨_, rfl⟩

theorem sweep_ensures (h : settings.patience.isCountable = true) (now : Instant) :
    (sweep settings now).Ensures Surroundings.steady.world fun result =>
      ∃ report, result = .ok report := by
  intro _ started _ _
  dsimp only
  rw [cutoffs_eq h]
  show ((passes _ _).bind _).Ensures _ _
  refine ensures_bind.mpr ((passes_ensures _ _).mono ?_)
  rintro _ ⟨counts, rfl⟩
  exact fun _ _ _ _ _ _ _ _ => ⟨_, rfl⟩

/-- A cycle fails only for its thresholds and the age of its marker. -/
theorem cycleAt_ensures (h : settings.patience.isCountable = true)
    (hage : (Marker.minAge settings.interval).isCountable = true) (owner : String)
    (now : Instant) :
    (cycleAt settings owner now).Ensures Surroundings.steady.world fun result =>
      ∃ report, result = .ok report := by
  intro s answer s' hW
  obtain ⟨_, hperform⟩ := Surroundings.steady_store hW
  have hbid : s.acquireMarker markerName owner _ now = (answer, s') := hperform
  rcases Store.acquireMarker_of_countable hage answer with ⟨-, hwon⟩ | ⟨-, hlost⟩
  · cases hwon.symm.trans hbid
    exact sweep_ensures h now
  · cases hlost.symm.trans hbid
    exact ⟨_, rfl⟩

end Liveness

namespace FairShare

open Program

theorem batch_ensures (scope : Scope) :
    (batch scope).Ensures Surroundings.steady.world fun result =>
      ∃ report, result = .ok report := by
  intro _ started _ _ s found s' hW
  obtain ⟨_, hperform⟩ := Surroundings.steady_store hW
  cases hperform
  show ((writeWeights _ _).bind _).Ensures _ _
  refine ensures_bind.mpr ((ensures_true _).mono ?_)
  exact fun _ _ _ _ _ _ _ _ _ _ => ⟨_, rfl⟩

/-- A batch that waits for its turn fails only for the age of its marker. -/
theorem batchIfDue_ensures (scope : Scope) (owner : String) {interval : Span}
    (hage : (Marker.minAge interval).isCountable = true) :
    (batchIfDue scope owner interval).Ensures Surroundings.steady.world fun result =>
      ∃ report, result = .ok report := by
  intro _ now _ _ s answer s' hW
  obtain ⟨_, hperform⟩ := Surroundings.steady_store hW
  have hbid : s.acquireMarker markerName owner _ now = (answer, s') := hperform
  rcases Store.acquireMarker_of_countable hage answer with ⟨-, hwon⟩ | ⟨-, hlost⟩
  · cases hwon.symm.trans hbid
    show ((batch scope).bind _).Ensures _ _
    refine ensures_bind.mpr ((batch_ensures scope).mono ?_)
    rintro _ ⟨report, rfl⟩
    exact ⟨_, rfl⟩
  · cases hlost.symm.trans hbid
    exact ⟨_, rfl⟩

end FairShare

/-- The periodic tasks of an instance with this configuration. -/
inductive Config.Periodic (c : Config) : Task → Prop
  | cycle {owner} : c.Periodic (.cycle c.liveness owner)
  | batchIfDue {scope owner} : c.Periodic (.batchIfDue scope owner c.priorityInterval)

theorem Config.Periodic.ensures {c : Config} {t : Task} (ht : c.Periodic t) (h : c.IsBounded)
    (hsound : c.IsSound) :
    t.program.Ensures Surroundings.steady.world fun result =>
      t.Completes result ∨ t.Skips result := by
  cases ht with
  | cycle =>
    intro _ now _ _
    refine (Liveness.cycleAt_ensures h.patience.isCountable (h.interval hsound).isCountable
      _ now).mono ?_
    rintro _ ⟨_ | _, rfl⟩
    · exact .inr trivial
    · exact .inl trivial
  | batchIfDue =>
    refine (FairShare.batchIfDue_ensures _ _ h.priority.isCountable).mono ?_
    rintro _ ⟨_ | _, rfl⟩
    · exact .inr trivial
    · exact .inl trivial

/-! ## Clocks -/

/-- The same world, with clocks that show such times only. -/
def World.showing (W : World Call Call.Answer Store) (times : Instant → Prop) :
    World Call Call.Answer Store :=
  fun c s a s' => W c s a s' ∧ ∀ time, c.reading? a = some time → times time

theorem Surroundings.showing_reply {times : Instant → Prop} (p : Partners) (hnow : times p.now)
    (c : Call) (s : Store) :
    (steady.world.showing times) c s (p.reply c s).1 (p.reply c s).2 := by
  refine ⟨steady_reply p c s, ?_⟩
  cases c with
  | now =>
    rintro time ⟨⟩
    exact hnow
  | _ => exact nofun

/-! ## Configurations that are accepted -/

/-- A configuration that is accepted and bounded works.

The settings of its pool pass the check of their own, and a channel can be
made for them.

At every clock reading between the years 1970 and 2200 both cutoffs are
computed, and the ages of both markers can be counted back.  What they lead
to are dates.  A cycle of sweeps at that reading returns a report, on any
store.

In every run of tasks that share a steady store, with clocks that show such
readings, all tasks can be brought to their ends; and wherever a cycle or a
batch of the configuration has come to its end, it did its work or was
skipped. -/
theorem accepted_configuration_works {env : String → Option String} {processName : String}
    {c : Config} (h : Config.ofEnv env processName = .ok c) (hbounded : c.IsBounded) :
    (c.pool.checked = .ok c.pool ∧ c.pool.HasChannel) ∧
    (∀ now : Instant, now.IsContemporary →
      Liveness.cutoffs c.liveness now =
          .ok (now.back c.liveness.zombieAfter, now.back c.liveness.patience) ∧
        (now.back c.liveness.zombieAfter).InCalendar ∧ (now.back c.liveness.patience).InCalendar ∧
        (∀ interval ∈ [c.liveness.interval, c.priorityInterval],
          now.back? (Marker.minAge interval) = some (now.back (Marker.minAge interval)) ∧
            (now.back (Marker.minAge interval)).InCalendar) ∧
        ∀ (p : Partners) (owner : String) (s : Store),
          ∃ report, (p.serve (Liveness.cycleAt c.liveness owner now) s).1 = .ok report) ∧
    ∀ {ι : Type} [Fintype ι] [DecidableEq ι] {tasks : ι → Task} {s : Store}
      {es : List (Event ι Call Call.Answer Store)}
      {t : Threads ι Call Call.Answer (fun i => (tasks i).Result) Store},
      Run (Surroundings.steady.world.showing Instant.IsContemporary) (Task.threads tasks s) es t →
      (∃ es' u, Run (Surroundings.steady.world.showing Instant.IsContemporary) t es' u ∧
        ∀ i, ∃ result, u.Finished i result) ∧
      ∀ i result, c.Periodic (tasks i) → t.Finished i result →
        (tasks i).Completes result ∨ (tasks i).Skips result := by
  have hsound := Config.isSound_of_ofEnv h
  have hinterval := hbounded.interval hsound
  refine ⟨⟨hsound.pool_checked, hsound.queue_pos, hbounded.queue⟩, ?readings, ?runs⟩
  case readings =>
    intro now hnow
    have hback : ∀ {d : Span}, d.StaysInCalendar →
        now.back? d = some (now.back d) ∧ (now.back d).InCalendar :=
      fun hd => ⟨if_pos hd.isCountable, hd.back hnow⟩
    have hdated := hbounded.dated hnow
    refine ⟨Liveness.cutoffs_eq hdated.isCountable, hdated.cutoff, hdated.expiry, ?_, ?_⟩
    · simp only [List.forall_mem_cons]
      exact ⟨hback hinterval, hback hbounded.priority, List.forall_mem_nil _⟩
    · intro p owner s
      have hcycle := Liveness.cycleAt_ensures hbounded.patience.isCountable hinterval.isCountable
        owner now
      exact Surroundings.serve_of_ensures hcycle p s
  case runs =>
    intro ι _ _ tasks s es t hrun
    constructor
    · have hfirst : (Instant.ofMillis 0).IsContemporary := by decide
      exact Run.exists_finished (fun c s =>
        ⟨_, _, Surroundings.showing_reply generousPartners hfirst c s⟩) t
    · intro i result hperiodic hresult
      -- clocks that are set right only narrow down what may happen
      refine hrun.good_of_finished ((hperiodic.ensures hbounded hsound).narrow ?_) hresult
      exact fun _ _ _ _ hW => hW.1

/-- An environment in which these variables are set. -/
def environmentOf (values : List (String × String)) (name : String) : Option String :=
  values.lookup name

/-- The configuration of an instance that says only how long to wait before
a job becomes a zombie. -/
abbrev waitingConfig (seconds : Nat) : Config :=
  { databaseUrl := "postgres://db"
    liveness := { zombieAfter := .ofSeconds seconds }
    instanceName := "broker-1" }

instance (scope : Scope) (owner : String) (interval : Span) :
    DecidableEq (Task.batchIfDue scope owner interval).Result :=
  inferInstanceAs (DecidableEq (Except StoreError (Option FairShare.BatchReport)))

/-- A sweep and a batch of an instance. -/
abbrev periodicTasks (c : Config) : Fin 2 → Task
  | 0 => .cycle c.liveness c.instanceName
  | 1 => .batchIfDue c.scope c.instanceName c.priorityInterval

/-- Two hours are accepted, and in 2023 both tasks of the instance do their
work. -/
theorem accepted_configuration_works_of_two_hours :
    Config.ofEnv (environmentOf [("DATABASE_URL", "postgres://db"),
        ("BROKER_ZOMBIE_AFTER_SECS", "7200")]) "broker-1" = .ok (waitingConfig 7200) ∧
      (waitingConfig 7200).IsBounded ∧
      (waitingConfig 7200).pool.checked = .ok {} ∧
      (Instant.ofMillis 1700000000000).IsContemporary ∧
      (∃ report, (generousPartners.serve (Liveness.cycleAt (waitingConfig 7200).liveness "broker-1"
        (.ofMillis 1700000000000)) {}).1 = .ok report) ∧
      let t := (Task.threads (periodicTasks (waitingConfig 7200)) {}).play
        (partnersAt 1700000000).reply (List.replicate 9 0 ++ List.replicate 6 1)
      t.Finished 0 (.ok (.completed {} {} ⟨0⟩)) ∧ t.Finished 1 (.ok (some {})) ∧
        ∀ i result, t.Finished i result →
          (periodicTasks (waitingConfig 7200) i).Completes result ∨
            (periodicTasks (waitingConfig 7200) i).Skips result := by
  have henv : Config.ofEnv (environmentOf [("DATABASE_URL", "postgres://db"),
      ("BROKER_ZOMBIE_AFTER_SECS", "7200")]) "broker-1" = .ok (waitingConfig 7200) := rfl
  have hbounded : (waitingConfig 7200).IsBounded := ⟨by decide, by decide, by decide⟩
  have hnow : (Instant.ofMillis 1700000000000).IsContemporary := by decide
  obtain ⟨⟨hpool, -⟩, hreadings, hruns⟩ := accepted_configuration_works henv hbounded
  refine ⟨henv, hbounded, hpool, hnow, (hreadings _ hnow).2.2.2.2 _ _ _, ?_⟩
  intro t
  obtain ⟨es, hrun⟩ := Run.exists_play
    (Surroundings.showing_reply (partnersAt 1700000000) hnow)
    (Task.threads (periodicTasks (waitingConfig 7200)) {})
    (List.replicate 9 0 ++ List.replicate 6 1)
  refine ⟨Threads.finished_of_result? (by decide +kernel),
    Threads.finished_of_result? (by decide +kernel), fun i result hresult => ?_⟩
  refine (hruns hrun).2 i result ?_ hresult
  match i with
  | 0 => exact .cycle
  | 1 => exact .batchIfDue

/-- Three hundred million years are accepted as well, but no sweep can be
made with them: the threshold cannot be counted back from any instant.  So
the first cycle of the instance fails. -/
theorem endless_patience_is_accepted :
    Config.ofEnv (environmentOf [("DATABASE_URL", "postgres://db"),
        ("BROKER_ZOMBIE_AFTER_SECS", "9223372036854776")]) "broker-1" =
          .ok (waitingConfig 9223372036854776) ∧
      (∀ (now : Instant) (p : Partners) (s : Store),
        (p.serve (Liveness.sweep (waitingConfig 9223372036854776).liveness now) s).1 =
          .error (.corrupt ("liveness threshold: " ++ Span.uncountableText))) ∧
      (Instant.ofMillis 1700000000000).IsContemporary ∧
      (generousPartners.serve (Liveness.cycleAt (waitingConfig 9223372036854776).liveness
        "broker-1" (.ofMillis 1700000000000)) {}).1 =
          .error (.corrupt ("liveness threshold: " ++ Span.uncountableText)) ∧
      ¬ ∀ env processName c, Config.ofEnv env processName = .ok c →
        ∀ now : Instant, now.IsContemporary → ∀ (p : Partners) (owner : String) (s : Store),
          ∃ report, (p.serve (Liveness.cycleAt c.liveness owner now) s).1 = .ok report := by
  have henv : Config.ofEnv (environmentOf [("DATABASE_URL", "postgres://db"),
      ("BROKER_ZOMBIE_AFTER_SECS", "9223372036854776")]) "broker-1" =
        .ok (waitingConfig 9223372036854776) := rfl
  have hnow : (Instant.ofMillis 1700000000000).IsContemporary := by decide
  refine ⟨henv, fun _ _ _ => rfl, hnow, rfl, fun hall => ?_⟩
  obtain ⟨report, hreport⟩ := hall _ _ _ henv _ hnow generousPartners "broker-1" {}
  cases hreport

end GridQueue
