/-
# `GridQueue.Proofs.Liveness.Sweep` — where a sweep stands

A sweep looks for silent jobs in flight, tries to move each of them, looks
for silent zombies, and tries to move each of these:

    looking     nothing was looked up yet
    givingUp    the jobs in flight it still has to try, and its counts
    expiring    the counts of the first pass, the zombies it still has to
                try, and the counts of the second one
    failed      a look-up failed

Whatever becomes of an attempt, it is counted and the next job is tried.
`sweep_follows` says that the program makes no other call of the store.
The stopwatch is read and events noted at any time.
-/
import GridQueue.Liveness
import GridQueue.Proofs.Interleaving

namespace GridQueue.Liveness

open Program

/-- The counts after one more attempt, by its answer. -/
def PassCounts.tally (counts : PassCounts) : Except StoreError Bool → PassCounts
  | .ok true => { counts with moved := counts.moved + 1 }
  | .ok false => { counts with skipped := counts.skipped + 1 }
  | .error _ => { counts with failed := counts.failed + 1 }

/-- Where a sweep stands. -/
inductive Phase
  | looking
  | givingUp (todo : List StaleJob) (counts : PassCounts)
  | expiring (zombie : PassCounts) (todo : List StaleJob) (counts : PassCounts)
  | failed (e : StoreError)

namespace Phase

variable {settings : LivenessSettings} {now : Instant}

/-- The calls of a sweep at an instant, and how the answers move it. -/
inductive Moves (settings : LivenessSettings) (now : Instant) : Protocol Call Call.Answer Phase
  | stopwatch {m t} : Moves settings now m .stopwatch t m
  | note {m event u} : Moves settings now m (.note event) u m
  | silent {cutoff expiry} {candidates : List StaleJob} :
      cutoffs settings now = .ok (cutoff, expiry) →
      Moves settings now looking (.store (.staleJobs Status.inFlight cutoff)) (.ok candidates)
        (givingUp candidates { candidates := candidates.length })
  | silentError {cutoff expiry e} : cutoffs settings now = .ok (cutoff, expiry) →
      Moves settings now looking (.store (.staleJobs Status.inFlight cutoff)) (.error e) (failed e)
  | giveUp {cutoff expiry} {job : StaleJob} {rest counts a} :
      cutoffs settings now = .ok (cutoff, expiry) →
      Moves settings now (givingUp (job :: rest) counts)
        (.store (.transitionIfStale job.jobId Status.inFlight .zombie cutoff)) a
        (givingUp rest (counts.tally a))
  | zombies {cutoff expiry counts} {candidates : List StaleJob} :
      cutoffs settings now = .ok (cutoff, expiry) →
      Moves settings now (givingUp [] counts) (.store (.staleJobs [.zombie] expiry))
        (.ok candidates) (expiring counts candidates { candidates := candidates.length })
  | zombiesError {cutoff expiry counts e} : cutoffs settings now = .ok (cutoff, expiry) →
      Moves settings now (givingUp [] counts) (.store (.staleJobs [.zombie] expiry)) (.error e)
        (failed e)
  | expire {cutoff expiry zombie} {job : StaleJob} {rest counts a} :
      cutoffs settings now = .ok (cutoff, expiry) →
      Moves settings now (expiring zombie (job :: rest) counts)
        (.store (.transitionIfStale job.jobId [.zombie] .expired expiry)) a
        (expiring zombie rest (counts.tally a))

/-- How a sweep ends: with the counts of both passes, or for an error. -/
inductive Ends (settings : LivenessSettings) (now : Instant) :
    Phase → Except StoreError Report → Prop
  | completed {zombie expired duration} :
      Ends settings now (expiring zombie [] expired) (.ok (.completed zombie expired duration))
  | refused {e} : cutoffs settings now = .error e → Ends settings now looking (.error e)
  | failed {e} : Ends settings now (failed e) (.error e)

end Phase

/-! ## The program -/

section Follows

variable {M : Type} {P : Protocol Call Call.Answer M} {sources : List Status} {target : Status}
  {cutoff : Instant} {stage : List StaleJob → PassCounts → M}

theorem move_follows (hnote : ∀ m event u, P m (.note event) u m) {job : StaleJob}
    {rest : List StaleJob} {counts : PassCounts}
    (hmove : ∀ a, P (stage (job :: rest) counts)
      (.store (.transitionIfStale job.jobId sources target cutoff)) a
      (stage rest (counts.tally a))) :
    (move sources target cutoff counts job).Follows P
      (fun m counts => m = stage rest counts) (stage (job :: rest) counts) := by
  intro answer
  refine ⟨_, hmove answer, ?_⟩
  match answer with
  | .ok true => exact fun _ => ⟨_, hnote _ _ _, rfl⟩
  | .ok false => exact fun _ => ⟨_, hnote _ _ _, rfl⟩
  | .error _ => exact rfl

theorem moveAll_follows (hnote : ∀ m event u, P m (.note event) u m)
    (hmove : ∀ job rest counts a, P (stage (job :: rest) counts)
      (.store (.transitionIfStale job.jobId sources target cutoff)) a
      (stage rest (counts.tally a))) :
    ∀ counts jobs, (moveAll sources target cutoff counts jobs).Follows P
      (fun m counts => m = stage [] counts) (stage jobs counts)
  | _, [] => rfl
  | counts, job :: rest => by
      refine follows_bind.mpr ((move_follows hnote (hmove job rest counts)).mono ?_)
      rintro _ counts rfl
      exact moveAll_follows hnote hmove counts rest

theorem pass_follows (stage : List StaleJob → PassCounts → M) (failed : StoreError → M)
    (hnote : ∀ m event u, P m (.note event) u m)
    (hmove : ∀ job rest counts a, P (stage (job :: rest) counts)
      (.store (.transitionIfStale job.jobId sources target cutoff)) a
      (stage rest (counts.tally a)))
    {first : M}
    (hfound : ∀ candidates : List StaleJob,
      P first (.store (.staleJobs sources cutoff)) (.ok candidates)
        (stage candidates { candidates := candidates.length }))
    (herror : ∀ e, P first (.store (.staleJobs sources cutoff)) (.error e) (failed e)) :
    (pass sources target cutoff).Follows P
      (fun m result => (∃ counts, result = .ok counts ∧ m = stage [] counts) ∨
        ∃ e, result = .error e ∧ m = failed e) first := by
  intro answer
  cases answer with
  | error e => exact ⟨_, herror e, .inr ⟨e, rfl, rfl⟩⟩
  | ok candidates =>
      refine ⟨_, hfound candidates, ?_⟩
      show ((moveAll sources target cutoff _ candidates).bind _).Follows _ _ _
      refine follows_bind.mpr ((moveAll_follows hnote hmove _ candidates).mono ?_)
      rintro _ counts rfl
      exact .inl ⟨counts, rfl, rfl⟩

end Follows

variable {settings : LivenessSettings} {now cutoff expiry : Instant}

/-- How both passes end. -/
inductive Phase.Passed : Phase → Except StoreError (PassCounts × PassCounts) → Prop
  | ok {zombie expired} : Passed (expiring zombie [] expired) (.ok (zombie, expired))
  | error {e} : Passed (failed e) (.error e)

theorem passes_follows (h : cutoffs settings now = .ok (cutoff, expiry)) :
    (passes cutoff expiry).Follows (Phase.Moves settings now) Phase.Passed .looking := by
  refine follows_bind.mpr (Follows.mono (pass_follows Phase.givingUp Phase.failed
    (fun _ _ _ => .note) (fun _ _ _ _ => .giveUp h) (fun _ => .silent h)
    fun _ => .silentError h) ?_)
  rintro _ _ (⟨zombie, rfl, rfl⟩ | ⟨e, rfl, rfl⟩)
  · refine follows_bind.mpr (Follows.mono (pass_follows (Phase.expiring zombie) Phase.failed
      (fun _ _ _ => .note) (fun _ _ _ _ => .expire h) (fun _ => .zombies h)
      fun _ => .zombiesError h) ?_)
    rintro _ _ (⟨expired, rfl, rfl⟩ | ⟨e, rfl, rfl⟩)
    · exact .ok
    · exact .error
  · exact .error

theorem sweep_follows (settings : LivenessSettings) (now : Instant) :
    (sweep settings now).Follows (Phase.Moves settings now) (Phase.Ends settings now)
      .looking := by
  intro started
  refine ⟨_, .stopwatch, ?_⟩
  dsimp only
  split
  · next e h => exact .refused h
  · next cutoff expiry h =>
    show ((passes cutoff expiry).bind _).Follows _ _ _
    refine follows_bind.mpr ((passes_follows h).mono ?_)
    rintro _ _ (_ | _)
    · exact fun _ => ⟨_, .stopwatch, fun _ => ⟨_, .note, .completed⟩⟩
    · exact .failed

end GridQueue.Liveness
