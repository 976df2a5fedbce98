/-
# `GridQueue.Proofs.Liveness.Age` — what becomes of a job by its silence

A sweep that nothing disturbs leaves every job in the status its silence
calls for, and changes nothing else:

    in flight or zombie, silent for both thresholds    EXPIRED
    in flight, silent for the first threshold          ZOMBIE
    any other                                          as before

The two passes feed each other, so a job may go through both.  How long a
job was silent is all that counts: an earlier sweep is absorbed by a
later one, and one that was missed is made up for.

All this is said of readings of the clock from which both thresholds lead
back to dates (`LivenessSettings.Dated`).  Nothing keeps the thresholds that
short.  Counted back from any instant, the sum of both may leave the
calendar, where no instant can be written; longer than the milliseconds of
63 bits, either of them is refused, and the sweep fails before it looks at
any job (`long_threshold_is_refused`).
-/
import GridQueue.Proofs.Calendar
import GridQueue.Proofs.Execution
import GridQueue.Proofs.Liveness.Sweep
import GridQueue.Proofs.Table

namespace GridQueue

open Liveness

/-! ## Silence -/

/-- How long a job may be silent before it expires. -/
def LivenessSettings.patience (settings : LivenessSettings) : Span :=
  ⟨settings.zombieAfter.nanos + settings.expireAfter.nanos⟩

/-- The clock shows a date, and both thresholds lead back to one. -/
structure LivenessSettings.Dated (settings : LivenessSettings) (now : Instant) : Prop where
  reading : now.InCalendar
  cutoff : (now.back settings.zombieAfter).InCalendar
  expiry : (now.back settings.patience).InCalendar

theorem LivenessSettings.Dated.isCountable {settings : LivenessSettings} {now : Instant}
    (h : settings.Dated now) : settings.patience.isCountable = true :=
  Span.isCountable_of_back h.reading h.expiry

namespace Status

/-- An agent should have been heard from. -/
def isWatched (s : Status) : Bool := s.isInFlight || s == .zombie

/-- A status after a silence that may be long, and may be final. -/
def aged (long final : Bool) (s : Status) : Status :=
  if s.isWatched && final then .expired
  else if s.isInFlight && long then .zombie
  else s

theorem contains_inFlight (s : Status) : inFlight.contains s = s.isInFlight := by
  cases s <;> rfl

/-- What fell silent for long just now is among what may have to expire. -/
theorem isWatched_and (s : Status) {long final : Bool} (h : final = true → long = true) :
    ((if s.isInFlight && long then .zombie else s) == .zombie && final) =
      (s.isWatched && final) := by
  revert h
  revert long final
  cases s <;> decide

/-- Nothing is left to be done about the silence that aged a status. -/
theorem not_isInFlight_aged (s : Status) (long final : Bool) :
    ((s.aged long final).isInFlight && long) = false := by
  cases s <;> cases long <;> cases final <;> rfl

theorem not_isWatched_aged (s : Status) (long final : Bool) :
    ((s.aged long final).isWatched && final) = false := by
  cases s <;> cases long <;> cases final <;> rfl

/-- A silence only grows longer, so what an earlier one made of a status
is made up for by a later one. -/
theorem aged_aged (s : Status) {long final long' final' : Bool}
    (hlong : long = true → long' = true) (hfinal : final = true → final' = true) :
    (s.aged long final).aged long' final' = s.aged long' final' := by
  revert hlong hfinal
  revert long final long' final'
  cases s <;> decide

end Status

namespace Job

variable {settings : LivenessSettings} {now later : Instant} {j : Job}

/-- The job was last heard from more than a span ago. -/
def isSilent (j : Job) (d : Span) (now : Instant) : Bool :=
  decide (j.lastSeen.before (now.back d))

/-- A job at the end of a sweep. -/
def aged (settings : LivenessSettings) (now : Instant) (j : Job) : Job :=
  let long := j.isSilent settings.zombieAfter now
  let final := j.isSilent settings.patience now
  { j with status := j.status.aged long final }

/-- A job at the end of a pass. -/
def passed (sources : List Status) (target : Status) (cutoff : Instant) (j : Job) : Job :=
  { j with status := if Store.isStale sources cutoff j then target else j.status }

theorem isSilent_iff {d : Span} :
    j.isSilent d now = true ↔ j.lastSeen.nanos < now.nanos - d.nanos :=
  decide_eq_true_iff

theorem isSilent_zombieAfter (h : j.isSilent settings.patience now = true) :
    j.isSilent settings.zombieAfter now = true := by
  rw [isSilent_iff] at h ⊢
  simp only [LivenessSettings.patience] at h
  omega

theorem isSilent_later {d : Span} (hle : now.nanos ≤ later.nanos) (h : j.isSilent d now = true) :
    j.isSilent d later = true := by
  rw [isSilent_iff] at h ⊢
  omega

theorem isStale_inFlight :
    Store.isStale Status.inFlight (now.back settings.zombieAfter) j =
      (j.status.isInFlight && j.isSilent settings.zombieAfter now) := by
  rw [Store.isStale, Status.contains_inFlight]
  rfl

theorem isStale_zombie :
    Store.isStale [.zombie] (now.back settings.patience) j =
      (j.status == .zombie && j.isSilent settings.patience now) := by
  rw [Store.isStale, List.contains_cons, List.contains_nil, Bool.or_false]
  rfl

theorem isStale_zombie_passed :
    Store.isStale [.zombie] (now.back settings.patience)
        (j.passed Status.inFlight .zombie (now.back settings.zombieAfter)) =
      (j.status.isWatched && j.isSilent settings.patience now) := by
  rw [isStale_zombie, passed, isStale_inFlight]
  exact j.status.isWatched_and isSilent_zombieAfter

theorem passed_passed :
    (j.passed Status.inFlight .zombie (now.back settings.zombieAfter)).passed [.zombie] .expired
      (now.back settings.patience) = j.aged settings now := by
  rw [passed, isStale_zombie_passed, passed, isStale_inFlight]
  rfl

theorem aged_aged (h : now.nanos ≤ later.nanos) :
    (j.aged settings now).aged settings later = j.aged settings later := by
  have hstatus := j.status.aged_aged (isSilent_later (j := j) (d := settings.zombieAfter) h)
    (isSilent_later (j := j) (d := settings.patience) h)
  exact congrArg (fun status => { j with status }) hstatus

end Job

/-! ## The table of jobs -/

namespace Store

variable {settings : LivenessSettings} {now later : Instant} {s s' : Store}
  {sources : List Status} {target : Status} {cutoff : Instant}

/-- The store with its jobs changed in anything but their names. -/
def mapJobs (s : Store) (f : Job → Job) (hf : ∀ j, (f j).id = j.id) : Store :=
  { s with jobs := s.jobs.mapValues f, jobsKeyed := s.jobsKeyed.mapValues hf }

/-- The store at the end of a pass. -/
def passed (s : Store) (sources : List Status) (target : Status) (cutoff : Instant) : Store :=
  s.mapJobs (·.passed sources target cutoff) fun _ => rfl

/-- The store at the end of a sweep. -/
def aged (s : Store) (settings : LivenessSettings) (now : Instant) : Store :=
  s.mapJobs (·.aged settings now) fun _ => rfl

@[simp] theorem get?_passed {id : Int} : (s.passed sources target cutoff).jobs.get? id =
    (s.jobs.get? id).map (·.passed sources target cutoff) :=
  Table.get?_mapValues

theorem values_passed : (s.passed sources target cutoff).jobs.values =
    s.jobs.values.map (·.passed sources target cutoff) :=
  Table.values_mapValues

theorem values_aged :
    (s.aged settings now).jobs.values = s.jobs.values.map (·.aged settings now) :=
  Table.values_mapValues

/-- Stores that differ in their jobs at most, and have the same jobs, are
the same. -/
theorem SameBut.eq_of_jobs (h : SameBut .jobs s s')
    (hjobs : ∀ id, s'.jobs.get? id = s.jobs.get? id) : s' = s := by
  have htable : s'.jobs = s.jobs := Table.ext_get? hjobs
  have haggregates : s'.aggregates = s.aggregates := h.same .aggregates (by decide)
  have hrecords : s'.records = s.records := h.same .records (by decide)
  have hqueues : s'.queues = s.queues := h.same .queues (by decide)
  have htraces : s'.traces = s.traces := h.same .traces (by decide)
  have hmarkers : s'.markers = s.markers := h.same .markers (by decide)
  cases s
  cases s'
  simp only at *
  subst htable haggregates hrecords hqueues htraces hmarkers
  rfl

theorem sameBut_mapJobs (s : Store) (f : Job → Job) (hf : ∀ j, (f j).id = j.id) :
    SameBut .jobs s (s.mapJobs f hf) := by
  constructor
  intro q hq
  cases q with
  | jobs => exact absurd rfl hq
  | _ => rfl

theorem mapJobs_mapJobs {f g k : Job → Job} {hf : ∀ j, (f j).id = j.id}
    {hg : ∀ j, (g j).id = j.id} {hk : ∀ j, (k j).id = j.id} (h : ∀ j, g (f j) = k j) :
    (s.mapJobs f hf).mapJobs g hg = s.mapJobs k hk := by
  refine SameBut.eq_of_jobs ((sameBut_mapJobs s k hk).symm.trans
    ((sameBut_mapJobs s f hf).trans (sameBut_mapJobs _ g hg))) fun id => ?_
  simp only [mapJobs, Table.get?_mapValues, Option.map_map]
  exact congrArg₂ Option.map (funext h) rfl

theorem aged_aged (s : Store) (settings : LivenessSettings) (h : now.nanos ≤ later.nanos) :
    (s.aged settings now).aged settings later = s.aged settings later :=
  mapJobs_mapJobs fun _ => Job.aged_aged h

theorem pairwise_staleJobs (s : Store) (sources : List Status) (cutoff : Instant) :
    (s.staleJobs sources cutoff).Pairwise (·.jobId ≠ ·.jobId) := by
  refine List.pairwise_map.mpr ((s.jobsKeyed.pairwise_values.imp ?_).filter _)
  intro j k hlt heq
  rw [show j.id = k.id from heq, Std.ReflOrd.compare_self] at hlt
  cases hlt

theorem mem_staleJobs {c : StaleJob} : c ∈ s.staleJobs sources cutoff ↔
    ∃ j, s.jobs.get? j.id = some j ∧ isStale sources cutoff j = true ∧
      c = ⟨j.id, j.status, j.lastHeartbeat⟩ := by
  simp only [staleJobs, List.mem_map, List.mem_filter, s.jobsKeyed.mem_values, and_assoc, eq_comm]

end Store

/-! ## A pass that nothing disturbs -/

namespace Liveness

/-- The counts of a pass that moved all its candidates. -/
def PassCounts.clean (n : Nat) : PassCounts := { candidates := n, moved := n }

/-- A pass that found its candidates in the store `s₀` has moved all but
those it still has to try. -/
structure Midway (sources : List Status) (target : Status) (cutoff : Instant) (s₀ : Store)
    (todo : List StaleJob) (counts : PassCounts) (s : Store) : Prop where
  distinct : todo.Pairwise (·.jobId ≠ ·.jobId)
  pending : ∀ c ∈ todo, ∃ j, s₀.jobs.get? c.jobId = some j ∧ s.jobs.get? c.jobId = some j ∧
    Store.isStale sources cutoff j = true
  passed : ∀ id, (∀ c ∈ todo, c.jobId ≠ id) →
    s.jobs.get? id = (s₀.jobs.get? id).map (·.passed sources target cutoff)
  others : Store.SameBut .jobs s₀ s
  moved : counts.moved + todo.length = (s₀.staleJobs sources cutoff).length
  counts_eq : counts =
    { candidates := (s₀.staleJobs sources cutoff).length, moved := counts.moved }

namespace Midway

variable {sources : List Status} {target : Status} {cutoff : Instant} {s₀ s : Store}
  {c : StaleJob} {rest : List StaleJob} {counts : PassCounts}

theorem start (s : Store) : Midway sources target cutoff s (s.staleJobs sources cutoff)
    { candidates := (s.staleJobs sources cutoff).length } s where
  distinct := s.pairwise_staleJobs sources cutoff
  pending c hc := by
    obtain ⟨j, hj, hstale, rfl⟩ := Store.mem_staleJobs.mp hc
    exact ⟨j, hj, hj, hstale⟩
  passed id hnone := by
    cases hj : s.jobs.get? id with
    | none => rfl
    | some j =>
      have hid := Store.id_of_get? hj
      have hfresh : Store.isStale sources cutoff j = false := by
        rw [Bool.eq_false_iff]
        exact fun hstale => hnone _ (Store.mem_staleJobs.mpr ⟨j, hid ▸ hj, hstale, rfl⟩) hid
      rw [Option.map_some, Job.passed, hfresh]
      rfl
  others := .refl _ s
  moved := Nat.zero_add _
  counts_eq := rfl

/-- The next candidate is as it was found, so it is moved. -/
theorem move (h : Midway sources target cutoff s₀ (c :: rest) counts s) :
    ∃ s', s.transitionIfStale c.jobId sources target cutoff = (true, s') ∧
      Midway sources target cutoff s₀ rest (counts.tally (.ok true)) s' := by
  obtain ⟨hne, hdistinct⟩ := List.pairwise_cons.mp h.distinct
  obtain ⟨j, hj₀, hj, hstale⟩ := h.pending c (List.mem_cons_self ..)
  have hid : j.id = c.jobId := Store.id_of_get? hj
  refine ⟨s.insertJob { j with status := target }, ?_, hdistinct, ?_, ?_,
    h.others.trans (Store.sameBut_insertJob ..), ?_, ?_⟩
  · rw [Store.transitionIfStale, hj]
    exact if_pos hstale
  · -- no candidate to come is of the same job
    intro d hd
    obtain ⟨k, hk₀, hk, hkstale⟩ := h.pending d (List.mem_cons_of_mem _ hd)
    refine ⟨k, hk₀, ?_, hkstale⟩
    rw [Store.get?_insertJob, if_neg fun heq => hne d hd (hid.symm.trans heq.symm), hk]
  · intro id hnone
    rw [Store.get?_insertJob]
    split
    · next heq =>
      rw [show id = c.jobId from heq.trans hid, hj₀, Option.map_some, Job.passed, if_pos hstale]
    · next hother =>
      refine h.passed id fun d hd => ?_
      rcases List.mem_cons.mp hd with rfl | hd
      · exact fun heq => hother (heq.symm.trans hid.symm)
      · exact hnone d hd
  · have hmoved := h.moved
    simp only [List.length_cons] at hmoved
    simp only [PassCounts.tally]
    omega
  · rw [h.counts_eq]
    rfl

theorem finish (h : Midway sources target cutoff s₀ [] counts s) :
    s = s₀.passed sources target cutoff ∧
      counts = .clean (s₀.staleJobs sources cutoff).length := by
  have hothers : Store.SameBut .jobs (s₀.passed sources target cutoff) s :=
    (Store.sameBut_mapJobs s₀ _ _).symm.trans h.others
  refine ⟨hothers.eq_of_jobs fun id => ?_, ?_⟩
  · rw [h.passed id (fun _ hc => nomatch hc), Store.get?_passed]
  · rw [h.counts_eq, PassCounts.clean, ← h.moved]
    rfl

end Midway

/-! ## A sweep that nothing disturbs -/

section Sweep

variable {settings : LivenessSettings} {now : Instant} {s₀ s s' : Store}

theorem cutoffs_eq (h : settings.patience.isCountable = true) :
    cutoffs settings now = .ok (now.back settings.zombieAfter, now.back settings.patience) := by
  have hboth : Span.isCountable ⟨settings.zombieAfter.nanos + settings.expireAfter.nanos⟩ = true :=
    h
  have hfirst : settings.zombieAfter.isCountable = true :=
    decide_eq_true ((Nat.le_add_right ..).trans (of_decide_eq_true hboth))
  simp only [cutoffs, cutoff, Instant.back?, if_pos hfirst, if_pos hboth]
  rfl

theorem eq_of_cutoff {d : Span} {t : Instant} (h : Liveness.cutoff now d = .ok t) :
    t = now.back d := by
  unfold Liveness.cutoff Instant.back? at h
  by_cases hd : d.isCountable = true
  · rw [if_pos hd] at h
    cases h
    rfl
  · rw [if_neg hd] at h
    cases h

/-- Instants that can be counted back are as far back as the thresholds
say. -/
theorem eq_of_cutoffs {cutoff expiry : Instant} (h : cutoffs settings now = .ok (cutoff, expiry)) :
    cutoff = now.back settings.zombieAfter ∧ expiry = now.back settings.patience := by
  have hboth : (do
      let zombie ← Liveness.cutoff now settings.zombieAfter
      let expired ← Liveness.cutoff now settings.patience
      return (zombie, expired)) = Except.ok (cutoff, expiry) := h
  cases hzombie : Liveness.cutoff now settings.zombieAfter with
  | error e =>
    rw [hzombie] at hboth
    cases hboth
  | ok zombie =>
    cases hexpired : Liveness.cutoff now settings.patience with
    | error e =>
      rw [hzombie, hexpired] at hboth
      cases hboth
    | ok expired =>
      rw [hzombie, hexpired] at hboth
      cases hboth
      exact ⟨eq_of_cutoff hzombie, eq_of_cutoff hexpired⟩

/-- What a sweep of the store `s₀` did by the time of a phase. -/
def Swept (settings : LivenessSettings) (now : Instant) (s₀ : Store) : Phase → Store → Prop
  | .looking, s => s = s₀
  | .givingUp todo counts, s =>
      Midway Status.inFlight .zombie (now.back settings.zombieAfter) s₀ todo counts s
  | .expiring zombie todo counts, s =>
      zombie = .clean (s₀.staleJobs Status.inFlight (now.back settings.zombieAfter)).length ∧
        Midway [.zombie] .expired (now.back settings.patience)
          (s₀.passed Status.inFlight .zombie (now.back settings.zombieAfter)) todo counts s
  | .failed _, _ => False

theorem Swept.step (hcount : settings.patience.isCountable = true) {m m' : Phase} {c : Call}
    {a : c.Answer} (h : Swept settings now s₀ m s) (hm : m.Moves settings now c a m')
    (hW : Surroundings.steady.world c s a s') : Swept settings now s₀ m' s' := by
  have hcutoffs : cutoffs settings now = _ := cutoffs_eq hcount
  cases hm with
  | stopwatch | note => rwa [show s' = s from hW]
  | silent hc =>
    obtain ⟨_, hperform⟩ := Surroundings.steady_store hW
    cases hcutoffs.symm.trans hc
    cases hperform
    cases (show s = s₀ from h)
    exact Midway.start _
  | giveUp hc =>
    obtain ⟨_, hperform⟩ := Surroundings.steady_store hW
    cases hcutoffs.symm.trans hc
    obtain ⟨s₁, hmove, hnext⟩ := Midway.move h
    simp only [Store.perform, hmove] at hperform
    cases hperform
    exact hnext
  | zombies hc =>
    obtain ⟨_, hperform⟩ := Surroundings.steady_store hW
    cases hcutoffs.symm.trans hc
    cases hperform
    obtain ⟨rfl, hcounts⟩ := Midway.finish h
    exact ⟨hcounts, Midway.start _⟩
  | expire hc =>
    obtain ⟨_, hperform⟩ := Surroundings.steady_store hW
    cases hcutoffs.symm.trans hc
    obtain ⟨s₁, hmove, hnext⟩ := Midway.move h.2
    simp only [Store.perform, hmove] at hperform
    cases hperform
    exact ⟨h.1, hnext⟩
  | silentError | zombiesError =>
    obtain ⟨_, hperform⟩ := Surroundings.steady_store hW
    cases hperform

/-- The number of jobs a sweep gives up: those in flight that were silent
for the first threshold. -/
def givenUp (settings : LivenessSettings) (now : Instant) (s : Store) : Nat :=
  s.jobs.values.countP fun j => j.status.isInFlight && j.isSilent settings.zombieAfter now

/-- The number of jobs a sweep ends: those in flight and the zombies that
were silent for both thresholds. -/
def ended (settings : LivenessSettings) (now : Instant) (s : Store) : Nat :=
  s.jobs.values.countP fun j => j.status.isWatched && j.isSilent settings.patience now

theorem length_staleJobs_inFlight :
    (s.staleJobs Status.inFlight (now.back settings.zombieAfter)).length =
      givenUp settings now s := by
  rw [Store.staleJobs, List.length_map, ← List.countP_eq_length_filter]
  exact List.countP_congr fun j _ => by rw [Job.isStale_inFlight]

theorem length_staleJobs_zombie :
    ((s.passed Status.inFlight .zombie (now.back settings.zombieAfter)).staleJobs [.zombie]
      (now.back settings.patience)).length = ended settings now s := by
  rw [Store.staleJobs, List.length_map, ← List.countP_eq_length_filter, Store.values_passed,
    List.countP_map]
  exact List.countP_congr fun j _ => by rw [Function.comp_apply, Job.isStale_zombie_passed]

theorem passed_passed :
    (s.passed Status.inFlight .zombie (now.back settings.zombieAfter)).passed [.zombie] .expired
      (now.back settings.patience) = s.aged settings now :=
  Store.mapJobs_mapJobs fun _ => Job.passed_passed

/-- A sweep that is executed alone leaves the store aged, and counts what
it did. -/
theorem sweep_ages (hcount : settings.patience.isCountable = true)
    {result : (Task.sweep settings now).Result}
    (h : (Task.sweep settings now).Executes s result s') :
    s' = s.aged settings now ∧ ∃ duration, result = .ok (.completed
      (.clean (givenUp settings now s)) (.clean (ended settings now s)) duration) := by
  have hstart : Swept settings now s .looking s := rfl
  obtain ⟨m, hswept, hends⟩ := h.invariant (sweep_follows settings now) (Swept settings now s)
    hstart fun _ _ _ _ _ _ hswept hm hW => hswept.step hcount hm hW
  cases hends with
  | completed =>
    obtain ⟨hzombie, hmidway⟩ := hswept
    obtain ⟨rfl, hexpired⟩ := hmidway.finish
    rw [length_staleJobs_inFlight] at hzombie
    rw [length_staleJobs_zombie] at hexpired
    exact ⟨passed_passed, _, by rw [hzombie, hexpired]⟩
  | refused he => cases (cutoffs_eq hcount).symm.trans he
  | failed => exact hswept.elim

theorem givenUp_aged : givenUp settings now (s.aged settings now) = 0 := by
  rw [givenUp, Store.values_aged, List.countP_map, List.countP_eq_zero]
  intro j _
  exact Bool.eq_false_iff.mp (j.status.not_isInFlight_aged _ _)

theorem ended_aged : ended settings now (s.aged settings now) = 0 := by
  rw [ended, Store.values_aged, List.countP_map, List.countP_eq_zero]
  intro j _
  exact Bool.eq_false_iff.mp (j.status.not_isWatched_aged _ _)

end Sweep

end Liveness

/-- A sweep that is executed alone, at a time from which its thresholds lead
back to dates, comes to an end, leaves every job as its silence calls for
and everything else as it was, and reports how many jobs it moved.  An
earlier sweep makes no difference to what a later one leaves behind, and the
same sweep once more moves nothing. -/
theorem sweep_ages_jobs {settings : LivenessSettings} (s : Store) {now : Instant}
    (hnow : settings.Dated now) :
    (∃ result s', (Task.sweep settings now).Executes s result s') ∧
    (∀ result s', (Task.sweep settings now).Executes s result s' →
      s' = s.aged settings now ∧ ∃ duration, result = .ok (.completed
        (.clean (givenUp settings now s)) (.clean (ended settings now s)) duration)) ∧
    ∀ later, now.nanos ≤ later.nanos → settings.Dated later → ∀ r₁ s₁ r₂ s₂ r₃ s₃,
      (Task.sweep settings now).Executes s r₁ s₁ →
      (Task.sweep settings later).Executes s₁ r₂ s₂ →
      (Task.sweep settings later).Executes s₂ r₃ s₃ →
      (∀ r s', (Task.sweep settings later).Executes s r s' → s' = s₂) ∧
        s₃ = s₂ ∧ ∃ report, r₃ = .ok report ∧ report.moved = 0 := by
  have hcount := hnow.isCountable
  refine ⟨⟨_, _, Task.executes_serve generousPartners _ s⟩, fun _ _ => sweep_ages hcount, ?_⟩
  intro later hle _ r₁ s₁ r₂ s₂ r₃ s₃ h₁ h₂ h₃
  obtain ⟨rfl, -⟩ := sweep_ages hcount h₁
  obtain ⟨rfl, -⟩ := sweep_ages hcount h₂
  rw [Store.aged_aged s settings hle] at h₃ ⊢
  obtain ⟨rfl, duration, rfl⟩ := sweep_ages hcount h₃
  refine ⟨fun r s' h => (sweep_ages hcount h).1, Store.aged_aged s settings le_rfl, _, rfl, ?_⟩
  rw [givenUp_aged, ended_aged]
  rfl

/-- A running job that was silent for four hours goes through both passes. -/
theorem sweep_ages_jobs_of_silent_job :
    LivenessSettings.Dated {} (.ofMillis 14400000) ∧
      ∃ result s', (Task.sweep {} (.ofMillis 14400000)).Executes
          (({} : Store).insertJob (runningJob 1)) result s' ∧
        (s'.jobs.get? 1).map (·.status) = some .expired ∧
        ∃ duration, result = .ok (.completed (.clean 1) (.clean 1) duration) := by
  have hnow : LivenessSettings.Dated {} (.ofMillis 14400000) :=
    ⟨by decide, by decide, by decide⟩
  obtain ⟨⟨result, s', h⟩, hages, -⟩ := sweep_ages_jobs
    (({} : Store).insertJob (runningJob 1)) hnow
  obtain ⟨rfl, hresult⟩ := hages result s' h
  exact ⟨hnow, result, _, h, by decide, hresult⟩

/-- The first threshold alone is too long: nothing is reported. -/
theorem long_threshold_is_refused :
    (Task.sweep { zombieAfter := .ofMillis 0x8000000000000000, expireAfter := .ofMillis 0 }
        ⟨0, false⟩).Executes {}
      (.error (.corrupt ("liveness threshold: " ++ Span.uncountableText))) {} ∧
    ¬ ∀ settings now s result s', (Task.sweep settings now).Executes s result s' →
      ∃ duration, result = .ok (.completed
        (.clean (givenUp settings now s)) (.clean (ended settings now s)) duration) := by
  have h := Task.executes_serve generousPartners (.sweep
    { zombieAfter := .ofMillis 0x8000000000000000, expireAfter := .ofMillis 0 } ⟨0, false⟩) {}
  refine ⟨h, fun hall => ?_⟩
  obtain ⟨duration, hresult⟩ := hall _ _ _ _ _ h
  cases hresult

end GridQueue
