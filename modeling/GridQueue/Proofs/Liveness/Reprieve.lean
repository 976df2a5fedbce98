/-
# `GridQueue.Proofs.Liveness.Reprieve` — a sweep among other tasks

A sweep collects its candidates and then moves them one by one, and other
tasks make their calls in between: agents report and send heartbeats,
requests claim jobs, operators force statuses, other sweeps move the same
jobs.  What is a candidate may not be silent any more when its turn comes.
Each move looks again, so that

    who is moved     was silent for the threshold when it was moved
    who was heard    from since, in a claim, a heartbeat or a report, is
                     left as it is
    who is tried     is every candidate, once and in order, whatever
                     becomes of the attempts before

Nothing is assumed of the other tasks, nor of the calls that fail.
-/
import GridQueue.Proofs.Claim
import GridQueue.Proofs.Liveness.Age
import GridQueue.Proofs.Liveness.Heard

namespace GridQueue

open Liveness

/-! ## Whom a sweep moves -/

section Moved

variable {ι : Type} {settings : LivenessSettings} {now time : Instant} {s s' : Store} {id : Int}
  {w : Surroundings} {m m' : Phase} {c : Call} {a : c.Answer}

/-- All a sweep does to a job: it gives up one in flight that was silent
for the first threshold, and ends a zombie that was for both. -/
def MovesSilent (settings : LivenessSettings) (now : Instant) (s s' : Store) : Prop :=
  ∀ id, s'.jobs.get? id = s.jobs.get? id ∨ ∃ j, s.jobs.get? id = some j ∧
    ((j.status.isInFlight = true ∧ j.isSilent settings.zombieAfter now = true ∧
        s'.jobs.get? id = some { j with status := .zombie }) ∨
      (j.status = .zombie ∧ j.isSilent settings.patience now = true ∧
        s'.jobs.get? id = some { j with status := .expired }))

theorem Liveness.Phase.Moves.movesSilent (hm : m.Moves settings now c a m')
    (hW : w.world c s a s') : MovesSilent settings now s s' := by
  intro id
  rcases Surroundings.world_job hW id with hsame | ⟨at_, sc, j, j', rfl, hj, hj', hchange⟩
  · exact .inl hsame
  · refine .inr ⟨j, hj, ?_⟩
    cases hm with
    | giveUp hc =>
      obtain ⟨rfl, -⟩ := eq_of_cutoffs hc
      cases hchange with
      | giveUp _ hstale =>
        rw [Job.isStale_inFlight, Bool.and_eq_true] at hstale
        exact .inl ⟨hstale.1, hstale.2, hj'⟩
    | expire hc =>
      obtain ⟨-, rfl⟩ := eq_of_cutoffs hc
      cases hchange with
      | giveUp _ hstale =>
        rw [Job.isStale_zombie, Bool.and_eq_true, beq_iff_eq] at hstale
        exact .inr ⟨hstale.1, hstale.2, hj'⟩
    | silent | silentError | zombies | zombiesError => cases hchange

theorem MovesSilent.spares (h : MovesSilent settings now s s')
    (hheard : (s.jobs.get? id).map (·.lastHeartbeat) = some (some time))
    (htime : ¬ time.before (now.back settings.zombieAfter)) :
    s'.jobs.get? id = s.jobs.get? id := by
  rcases h id with hsame | ⟨j, hj, hmoved⟩
  · exact hsame
  · have hlast : j.lastHeartbeat = some time := by
      rw [hj, Option.map_some] at hheard
      exact Option.some.inj hheard
    have hfresh : ¬ j.isSilent settings.zombieAfter now = true := by
      rw [Job.isSilent, Job.lastSeen, hlast]
      exact fun h => htime (of_decide_eq_true h)
    rcases hmoved with ⟨-, hsilent, -⟩ | ⟨-, hsilent, -⟩
    · exact absurd hsilent hfresh
    · exact absurd (Job.isSilent_zombieAfter hsilent) hfresh

end Moved

/-! ## Whom a sweep tries -/

/-- The jobs that were looked up in some statuses. -/
def foundIn (statuses : List Status) : (c : Call) → c.Answer → Option (List StaleJob)
  | .store (.staleJobs sources _), .ok candidates =>
      if sources = statuses then some candidates else none
  | _, _ => none

/-- The job that was to be moved to a status, and what became of it. -/
def triedTo (target : Status) : (c : Call) → c.Answer → Option (Int × Except StoreError Bool)
  | .store (.transitionIfStale jobId _ status _), answer =>
      if status = target then some (jobId, answer) else none
  | _, _ => none

def lookupFailure : (c : Call) → c.Answer → Option StoreError
  | .store (.staleJobs _ _), .error e => some e
  | _, _ => none

section Calls

variable {statuses sources : List Status} {target status : Status} {cutoff : Instant} {jobId : Int}
  {answer : Except StoreError Bool}

theorem foundIn_own {candidates : List StaleJob} :
    foundIn statuses (.store (.staleJobs statuses cutoff)) (.ok candidates) = some candidates :=
  if_pos rfl

theorem foundIn_other (h : sources ≠ statuses)
    {answer : (Call.store (.staleJobs sources cutoff)).Answer} :
    foundIn statuses (.store (.staleJobs sources cutoff)) answer = none := by
  cases answer with
  | ok candidates => exact if_neg h
  | error e => rfl

theorem triedTo_own :
    triedTo target (.store (.transitionIfStale jobId sources target cutoff)) answer =
      some (jobId, answer) :=
  if_pos rfl

theorem triedTo_other (h : status ≠ target) :
    triedTo target (.store (.transitionIfStale jobId sources status cutoff)) answer = none :=
  if_neg h

end Calls

section Tried

variable {ι : Type} [DecidableEq ι] {es : List (Event ι Call Call.Answer Store)} {i : ι}
  {statuses : List Status} {target : Status} {todo rest : List StaleJob} {job : StaleJob}
  {counts : PassCounts}

/-- The pass of task `i` found its candidates and tried all but those in
`todo`, once and in order, and counted what became of each. -/
structure Tried (i : ι) (statuses : List Status) (target : Status)
    (es : List (Event ι Call Call.Answer Store)) (todo : List StaleJob) (counts : PassCounts) :
    Prop where
  found : ∃ candidates, Event.gather (foundIn statuses) i es = [candidates] ∧
    counts.candidates = candidates.length ∧
    candidates.map (·.jobId) =
      (Event.gather (triedTo target) i es).map Prod.fst ++ todo.map (·.jobId)
  moved : counts.moved = (Event.gather (triedTo target) i es).countP (·.2 = .ok true)
  skipped : counts.skipped = (Event.gather (triedTo target) i es).countP (·.2 = .ok false)
  failed : counts.failed = (Event.gather (triedTo target) i es).countP (!·.2.isOk)
  balance : counts.candidates = counts.moved + counts.skipped + counts.failed + todo.length

/-- The pass of task `i` did not begin. -/
structure Untried (i : ι) (statuses : List Status) (target : Status)
    (es : List (Event ι Call Call.Answer Store)) : Prop where
  found : Event.gather (foundIn statuses) i es = []
  tried : Event.gather (triedTo target) i es = []

variable {es' : List (Event ι Call Call.Answer Store)} {c : Call} {a : c.Answer} {s s' : Store}

theorem Tried.congr (h : Tried i statuses target es todo counts)
    (hfound : Event.gather (foundIn statuses) i es' = Event.gather (foundIn statuses) i es)
    (htried : Event.gather (triedTo target) i es' = Event.gather (triedTo target) i es) :
    Tried i statuses target es' todo counts := by
  refine ⟨?_, ?_, ?_, ?_, h.balance⟩
  · rw [hfound, htried]
    exact h.found
  · rw [htried]
    exact h.moved
  · rw [htried]
    exact h.skipped
  · rw [htried]
    exact h.failed

theorem Untried.congr (h : Untried i statuses target es)
    (hfound : Event.gather (foundIn statuses) i es' = Event.gather (foundIn statuses) i es)
    (htried : Event.gather (triedTo target) i es' = Event.gather (triedTo target) i es) :
    Untried i statuses target es' :=
  ⟨hfound.trans h.found, htried.trans h.tried⟩

theorem Untried.begin (h : Untried i statuses target es) {candidates : List StaleJob}
    (hc : foundIn statuses c a = some candidates) (ht : triedTo target c a = none) :
    Tried i statuses target (es ++ [⟨i, c, a, s, s'⟩]) candidates
      { candidates := candidates.length } := by
  have hfound : Event.gather (foundIn statuses) i (es ++ [⟨i, c, a, s, s'⟩]) = [candidates] := by
    rw [Event.gather_own, h.found, hc]
    rfl
  have htried : Event.gather (triedTo target) i (es ++ [⟨i, c, a, s, s'⟩]) = [] := by
    rw [Event.gather_own, h.tried, ht]
    rfl
  refine ⟨⟨candidates, hfound, rfl, by rw [htried]; rfl⟩, ?_, ?_, ?_, ?_⟩
  · rw [htried]
    rfl
  · rw [htried]
    rfl
  · rw [htried]
    rfl
  · exact (Nat.zero_add _).symm

theorem Tried.attempt (h : Tried i statuses target es (job :: rest) counts)
    {answer : Except StoreError Bool} (hc : foundIn statuses c a = none)
    (ht : triedTo target c a = some (job.jobId, answer)) :
    Tried i statuses target (es ++ [⟨i, c, a, s, s'⟩]) rest (counts.tally answer) := by
  have hfound : Event.gather (foundIn statuses) i (es ++ [⟨i, c, a, s, s'⟩]) =
      Event.gather (foundIn statuses) i es := by
    rw [Event.gather_own, hc]
    exact List.append_nil _
  have htried : Event.gather (triedTo target) i (es ++ [⟨i, c, a, s, s'⟩]) =
      Event.gather (triedTo target) i es ++ [(job.jobId, answer)] := by
    rw [Event.gather_own, ht]
    rfl
  obtain ⟨candidates, hcandidates, hlength, hids⟩ := h.found
  have hbalance := h.balance
  simp only [List.length_cons] at hbalance
  have hall : (counts.tally answer).candidates = counts.candidates := by
    cases answer with
    | error e => rfl
    | ok moved => cases moved <;> rfl
  refine ⟨⟨candidates, hfound.trans hcandidates, hall.trans hlength, ?_⟩, ?_, ?_, ?_, ?_⟩
  · rw [hids, htried, List.map_append, List.append_assoc]
    rfl
  · rw [htried, List.countP_append, ← h.moved]
    match answer with
    | .ok true => rfl
    | .ok false => rfl
    | .error e => rfl
  · rw [htried, List.countP_append, ← h.skipped]
    match answer with
    | .ok true => rfl
    | .ok false => rfl
    | .error e => rfl
  · rw [htried, List.countP_append, ← h.failed]
    match answer with
    | .ok true => rfl
    | .ok false => rfl
    | .error e => rfl
  · rw [hall, hbalance]
    match answer with
    | .ok true => simp only [PassCounts.tally]; omega
    | .ok false => simp only [PassCounts.tally]; omega
    | .error e => simp only [PassCounts.tally]; omega

/-- What task `i` has tried by the time of a phase. -/
def Accounted (i : ι) (es : List (Event ι Call Call.Answer Store)) : Phase → Prop
  | .looking => Untried i Status.inFlight .zombie es ∧ Untried i [.zombie] .expired es
  | .givingUp todo counts =>
      Tried i Status.inFlight .zombie es todo counts ∧ Untried i [.zombie] .expired es
  | .expiring zombie todo counts =>
      Tried i Status.inFlight .zombie es [] zombie ∧ Tried i [.zombie] .expired es todo counts
  | .failed e =>
      e ∈ Event.gather lookupFailure i es ∧ Untried i [.zombie] .expired es ∧
        (Untried i Status.inFlight .zombie es ∨
          ∃ zombie, Tried i Status.inFlight .zombie es [] zombie)

namespace Accounted

variable {settings : LivenessSettings} {now : Instant} {m m' : Phase}

theorem congr (h : Accounted i es m)
    (hfound : ∀ statuses,
      Event.gather (foundIn statuses) i es' = Event.gather (foundIn statuses) i es)
    (htried : ∀ target, Event.gather (triedTo target) i es' = Event.gather (triedTo target) i es)
    (hfailed : Event.gather lookupFailure i es' = Event.gather lookupFailure i es) :
    Accounted i es' m := by
  cases m with
  | looking => exact ⟨h.1.congr (hfound _) (htried _), h.2.congr (hfound _) (htried _)⟩
  | givingUp => exact ⟨h.1.congr (hfound _) (htried _), h.2.congr (hfound _) (htried _)⟩
  | expiring => exact ⟨h.1.congr (hfound _) (htried _), h.2.congr (hfound _) (htried _)⟩
  | failed e =>
    refine ⟨hfailed ▸ h.1, h.2.1.congr (hfound _) (htried _), h.2.2.imp ?_ ?_⟩
    · exact fun hnone => hnone.congr (hfound _) (htried _)
    · exact fun ⟨zombie, hall⟩ => ⟨zombie, hall.congr (hfound _) (htried _)⟩

theorem other {j : ι} (h : Accounted i es m) (hj : j ≠ i) :
    Accounted i (es ++ [⟨j, c, a, s, s'⟩]) m :=
  h.congr (fun _ => Event.gather_other hj) (fun _ => Event.gather_other hj)
    (Event.gather_other hj)

theorem own (h : Accounted i es m) (hm : m.Moves settings now c a m') :
    Accounted i (es ++ [⟨i, c, a, s, s'⟩]) m' := by
  cases hm with
  | stopwatch | note =>
    exact h.congr (fun _ => Event.gather_quiet rfl) (fun _ => Event.gather_quiet rfl)
      (Event.gather_quiet rfl)
  | silent =>
    exact ⟨h.1.begin foundIn_own rfl,
      h.2.congr (Event.gather_quiet (foundIn_other (by decide))) (Event.gather_quiet rfl)⟩
  | silentError =>
    exact ⟨Event.mem_gather_own rfl, h.2.congr (Event.gather_quiet rfl) (Event.gather_quiet rfl),
      .inl (h.1.congr (Event.gather_quiet rfl) (Event.gather_quiet rfl))⟩
  | giveUp =>
    exact ⟨h.1.attempt rfl triedTo_own,
      h.2.congr (Event.gather_quiet rfl) (Event.gather_quiet (triedTo_other (by decide)))⟩
  | zombies =>
    exact ⟨h.1.congr (Event.gather_quiet (foundIn_other (by decide))) (Event.gather_quiet rfl),
      h.2.begin foundIn_own rfl⟩
  | zombiesError =>
    exact ⟨Event.mem_gather_own rfl, h.2.congr (Event.gather_quiet rfl) (Event.gather_quiet rfl),
      .inr ⟨_, h.1.congr (Event.gather_quiet rfl) (Event.gather_quiet rfl)⟩⟩
  | expire =>
    exact ⟨h.1.congr (Event.gather_quiet rfl) (Event.gather_quiet (triedTo_other (by decide))),
      h.2.attempt rfl triedTo_own⟩

end Accounted

/-- Every candidate of the pass was tried, once and in order. -/
def AllTried (i : ι) (statuses : List Status) (target : Status)
    (es : List (Event ι Call Call.Answer Store)) : Prop :=
  ∀ candidates ∈ Event.gather (foundIn statuses) i es,
    (Event.gather (triedTo target) i es).map Prod.fst = candidates.map (·.jobId)

theorem Tried.allTried (h : Tried i statuses target es [] counts) :
    AllTried i statuses target es := by
  obtain ⟨candidates, hfound, -, hids⟩ := h.found
  intro found hmem
  rw [hfound, List.mem_singleton] at hmem
  rw [hmem, hids]
  exact (List.append_nil _).symm

theorem Untried.allTried (h : Untried i statuses target es) : AllTried i statuses target es := by
  intro found hmem
  rw [h.found] at hmem
  cases hmem

/-- What is said of a pass at its end. -/
structure Counted (i : ι) (statuses : List Status) (target : Status)
    (es : List (Event ι Call Call.Answer Store)) (counts : PassCounts) : Prop where
  candidates : ∃ candidates, Event.gather (foundIn statuses) i es = [candidates] ∧
    counts.candidates = candidates.length
  moved : counts.moved = (Event.gather (triedTo target) i es).countP (·.2 = .ok true)
  skipped : counts.skipped = (Event.gather (triedTo target) i es).countP (·.2 = .ok false)
  failed : counts.failed = (Event.gather (triedTo target) i es).countP (!·.2.isOk)
  balance : counts.candidates = counts.moved + counts.skipped + counts.failed

theorem Tried.counted (h : Tried i statuses target es [] counts) :
    Counted i statuses target es counts := by
  obtain ⟨candidates, hfound, hlength, -⟩ := h.found
  exact ⟨⟨candidates, hfound, hlength⟩, h.moved, h.skipped, h.failed, h.balance⟩

end Tried

/-! ## Runs -/

section Runs

variable {ι : Type} [DecidableEq ι] {w : Surroundings} {settings : LivenessSettings}
  {now : Instant} {others : ι → Task} {s s' : Store}
  {es : List (Event (Option ι) Call Call.Answer Store)} {m m' : Phase} {i : Option ι} {c : Call}
  {a : c.Answer}

/-- What is kept while a sweep and other tasks take turns. -/
structure Watched (settings : LivenessSettings) (now : Instant)
    (es : List (Event (Option ι) Call Call.Answer Store)) (m : Phase) (s : Store) : Prop where
  timed : ∀ id, (∃ e ∈ es, heardBy e.call e.answer = some id) → ∃ time, LastHeard id time es
  heard : ∀ id time, LastHeard id time es →
    (s.jobs.get? id).map (·.lastHeartbeat) = some (some time)
  silent : ∀ e ∈ es, e.thread = none → MovesSilent settings now e.before e.after
  spared : ∀ earlier e later, es = earlier ++ e :: later → e.thread = none →
    ∀ id time, LastHeard id time earlier → ¬ time.before (now.back settings.zombieAfter) →
      e.after.jobs.get? id = e.before.jobs.get? id
  accounted : Accounted none es m

namespace Watched

theorem start (s : Store) :
    Watched settings now ([] : List (Event (Option ι) _ _ _)) .looking s := by
  refine ⟨?_, ?_, ?_, ?_, ⟨rfl, rfl⟩, ⟨rfl, rfl⟩⟩
  · rintro id ⟨e, he, -⟩
    cases he
  · rintro id time ⟨earlier, e, later, hes, -⟩
    simp at hes
  · intro e he
    cases he
  · intro earlier e later hes
    simp at hes

/-- A step keeps what is kept, if a step of the sweep moves silent jobs
only. -/
theorem step (h : Watched settings now es m s) (hW : w.world c s a s')
    (hsilent : i = none → MovesSilent settings now s s')
    (haccounted : Accounted none (es ++ [⟨i, c, a, s, s'⟩]) m') :
    Watched settings now (es ++ [⟨i, c, a, s, s'⟩]) m' s' := by
  refine ⟨?_, fun id time => Surroundings.lastHeartbeat_of_lastHeard hW h.heard, ?_, ?_,
    haccounted⟩
  · rintro id ⟨e, he, hid⟩
    by_cases hlast : heardBy c a = some id
    · exact Surroundings.exists_lastHeard hW hlast
    · rcases List.mem_append.mp he with he | he
      · obtain ⟨time, htime⟩ := h.timed id ⟨e, he, hid⟩
        exact ⟨time, htime.append hlast⟩
      · cases List.mem_singleton.mp he
        exact absurd hid hlast
  · intro e he hthread
    rcases List.mem_append.mp he with he | he
    · exact h.silent e he hthread
    · cases List.mem_singleton.mp he
      exact hsilent hthread
  · intro earlier e later hes hthread id time hheard htime
    rcases split_append hes with ⟨-, rfl, rfl⟩ | ⟨between, -, rfl⟩
    · exact (hsilent hthread).spares (h.heard id time hheard) htime
    · exact h.spared earlier e between rfl hthread id time hheard htime

end Watched

/-- One sweep among other tasks, in any order of their calls and whatever
fails.  It moves jobs that are silent at this very moment only, and none
that was heard from since; and when it ends it tried every candidate it
found, and counted what became of each, or says which look-up failed. -/
theorem sweep_spares_jobs_heard_from
    {t : Threads (Option ι) Call Call.Answer
      (fun i => (Task.beside (.sweep settings now) others i).Result) Store}
    (h : Run w.world (Task.threads (Task.beside (.sweep settings now) others) s) es t) :
    (∀ e ∈ es, e.thread = none → MovesSilent settings now e.before e.after) ∧
    (∀ id, (∃ e ∈ es, heardBy e.call e.answer = some id) → ∃ time, LastHeard id time es) ∧
    (∀ earlier e later, es = earlier ++ e :: later → e.thread = none →
      ∀ id time, LastHeard id time earlier → ¬ time.before (now.back settings.zombieAfter) →
        e.after.jobs.get? id = e.before.jobs.get? id) ∧
    ∀ result : Except StoreError Report, t.Finished none result →
      AllTried none Status.inFlight .zombie es ∧ AllTried none [.zombie] .expired es ∧
      ((∃ zombie expired duration, result = .ok (.completed zombie expired duration) ∧
          Counted none Status.inFlight .zombie es zombie ∧
          Counted none [.zombie] .expired es expired) ∨
        ∃ e, result = .error e ∧ (cutoffs settings now = .error e ∨
          e ∈ Event.gather lookupFailure none es)) := by
  obtain ⟨m, hwatched, hf⟩ := h.invariant_of_one none (sweep_follows settings now)
    (Watched settings now) (.start s)
    (fun es m s c a s' m' hwatched hm hW =>
      hwatched.step hW (fun _ => hm.movesSilent hW) (hwatched.accounted.own hm))
    (fun es m s j c a s' hj hwatched hW =>
      hwatched.step hW (fun hnone => absurd hnone hj) (hwatched.accounted.other hj))
  refine ⟨hwatched.silent, hwatched.timed, hwatched.spared, ?_⟩
  intro result hdone
  rw [show t.rest none = .done result from hdone] at hf
  have hends : m.Ends settings now result := hf
  have haccounted := hwatched.accounted
  cases hends with
  | completed =>
    exact ⟨haccounted.1.allTried, haccounted.2.allTried, .inl ⟨_, _, _, rfl,
      haccounted.1.counted, haccounted.2.counted⟩⟩
  | refused he =>
    exact ⟨haccounted.1.allTried, haccounted.2.allTried, .inr ⟨_, rfl, .inl he⟩⟩
  | failed =>
    obtain ⟨hfailed, hnone, hfirst⟩ := haccounted
    refine ⟨?_, hnone.allTried, .inr ⟨_, rfl, .inr hfailed⟩⟩
    rcases hfirst with hfirst | ⟨zombie, hfirst⟩
    · exact hfirst.allTried
    · exact hfirst.allTried

end Runs

instance (settings : LivenessSettings) (now : Instant) :
    DecidableEq (Task.sweep settings now).Result :=
  inferInstanceAs (DecidableEq (Except StoreError Report))

/-- The agent of a job that sends a heartbeat. -/
def lateHeartbeat (_ : Unit) : Task := .command {} (.heartbeat 1 1)

/-- Two jobs were silent for four hours when they are looked up, and then
one of them is heard from: the other one alone is given up. -/
theorem sweep_spares_jobs_heard_from_of_heartbeat :
    let s := (({} : Store).insertJob (runningJob 1)).insertJob (runningJob 2)
    let now := Instant.ofMillis 14400000
    let tasks := Task.beside (.sweep {} now) lateHeartbeat
    let t := (Task.threads tasks s).play (Partners.reply { generousPartners with now })
      (List.replicate 2 none ++ List.replicate 2 (some ()) ++ List.replicate 9 none)
    let zombie : PassCounts := { candidates := 2, moved := 1, skipped := 1 }
    let result := Except.ok (Report.completed zombie (.clean 1) ⟨0⟩)
    t.Finished none result ∧ (t.state.jobs.get? 1).map (·.status) = some .running ∧
      (t.state.jobs.get? 2).map (·.status) = some .expired ∧
      ∃ es, Run Surroundings.hostile.world (Task.threads tasks s) es t ∧
        ∀ earlier e later, es = earlier ++ e :: later → e.thread = none →
          ∀ id time, LastHeard id time earlier →
            ¬ time.before (now.back (.ofSeconds 3600)) →
              e.after.jobs.get? id = e.before.jobs.get? id := by
  intro s now tasks t zombie result
  have hdone : t.Finished none result := Threads.finished_of_result? (by decide +kernel)
  obtain ⟨es, h⟩ := Run.exists_play (Surroundings.hostile_reply _) (Task.threads tasks s) _
  exact ⟨hdone, by decide +kernel, by decide +kernel, es, h,
    (sweep_spares_jobs_heard_from h).2.2.1⟩

end GridQueue
