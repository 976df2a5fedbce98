/-
# `GridQueue.Proofs.Store.Requested` — jobs that are asked for by identifier

Whoever asks for jobs names identifiers in any order, some of them twice
or unknown.

    asked for          3  7  1  3        7 is unknown
    found one by one   3     1  3
    sorted             1  3  3
    returned           1  3

The answer is the jobs of the store with one of the identifiers, in
ascending order, which is what a database selects.  So it depends on no
more than which identifiers were named (`Store.getJobs_congr`).  A command
asks the store once, for all of them, if there are neither none nor too
many; else it asks nothing.
-/
import GridQueue.Command.Dispatch
import GridQueue.Proofs.Store.Agreement

namespace GridQueue

/-! ## The store -/

namespace Store

variable {s : Store} {ids ids' : List Int} {j : Job}

theorem mem_getJobs : j ∈ s.getJobs ids ↔ j ∈ s.jobs.values ∧ j.id ∈ ids := by
  rw [getJobs_eq_filter, List.mem_filter, List.contains_iff_mem]

/-- The jobs stand in ascending order, so each stands there once. -/
theorem pairwise_getJobs (s : Store) (ids : List Int) :
    (s.getJobs ids).Pairwise fun j k => j.id < k.id := by
  rw [getJobs_eq_filter]
  refine (s.jobsKeyed.pairwise_values.imp ?_).filter _
  exact fun hlt => Int.compare_eq_lt.mp hlt

theorem getJobs_congr (h : ∀ id, id ∈ ids' ↔ id ∈ ids) : s.getJobs ids' = s.getJobs ids := by
  rw [getJobs_eq_filter, getJobs_eq_filter]
  refine List.filter_congr fun j _ => ?_
  rw [Bool.eq_iff_iff, List.contains_iff_mem, List.contains_iff_mem, h]

end Store

/-! ## The command -/

namespace Command

variable {ids : List Int}

/-- A command for so many jobs makes one call of the store, and passes on
what that answers. -/
theorem dispatch_getJobs (settings : BrokerSettings) (h : 1 ≤ ids.length ∧ ids.length ≤ 1000) :
    (getJobs ids).dispatch settings =
      .call (.store (.getJobs ids)) fun answer =>
        .call (.note (.commandEnded "get_jobs" (succeeded (respond answer .jobs)))) fun _ =>
          .done (respond answer .jobs) := by
  have hexecute : (getJobs ids).execute settings =
      .call (.store (.getJobs ids)) fun answer => .done (respond answer .jobs) := if_pos h
  rw [dispatch, hexecute]
  rfl

theorem dispatch_getJobs_refused (settings : BrokerSettings)
    (h : ¬ (1 ≤ ids.length ∧ ids.length ≤ 1000)) :
    (getJobs ids).dispatch settings =
      .call (.note (.commandEnded "get_jobs" false)) fun _ =>
        .done (.error (.invalid
          ("get_jobs takes 1 to 1000 identifiers, got " ++ toString ids.length))) := by
  have hexecute : (getJobs ids).execute settings = .done (.error (.invalid
      ("get_jobs takes 1 to " ++ toString maxJobs ++ " identifiers, got "
        ++ toString ids.length))) := if_neg h
  rw [dispatch, hexecute]
  rfl

end Command

/-! ## Each requested job once -/

/-- The store returns the jobs with one of the identifiers, in strictly
ascending order: what a database with the same jobs selects, whatever the
order of the identifiers and however often each is named.  A command for 1
to 1000 of them makes this one call of the store, and is answered with
these jobs; any other number is refused without a call of the store. -/
theorem requested_jobs_come_once (s : Store) (ids : List Int) :
    (s.getJobs ids).Pairwise (fun j k => j.id < k.id) ∧
    (∀ j, j ∈ s.getJobs ids ↔ j ∈ s.jobs.values ∧ j.id ∈ ids) ∧
    (∀ t now d, Holds d s → (Querying.perform t (.getJobs ids)).Gives now d (s.getJobs ids) d) ∧
    (∀ ids', (∀ id, id ∈ ids' ↔ id ∈ ids) → s.getJobs ids' = s.getJobs ids) ∧
    (∀ settings, 1 ≤ ids.length ∧ ids.length ≤ 1000 →
      ((Command.getJobs ids).dispatch settings =
        .call (.store (.getJobs ids)) fun answer =>
          .call (.note (.commandEnded "get_jobs"
            (Command.succeeded (Command.respond answer .jobs)))) fun _ =>
            .done (Command.respond answer .jobs)) ∧
      ∀ p : Partners, p.serve ((Command.getJobs ids).dispatch settings) s =
        (.ok (.jobs (s.getJobs ids)), s)) ∧
    ∀ settings, ¬ (1 ≤ ids.length ∧ ids.length ≤ 1000) →
      (Command.getJobs ids).dispatch settings =
        .call (.note (.commandEnded "get_jobs" false)) fun _ =>
          .done (.error (.invalid
            ("get_jobs takes 1 to 1000 identifiers, got " ++ toString ids.length))) := by
  refine ⟨s.pairwise_getJobs ids, fun j => Store.mem_getJobs,
    fun t now d hd => hd.gives_getJobs t now ids, fun ids' h => Store.getJobs_congr h,
    fun settings hcount => ?_, fun settings hcount =>
      Command.dispatch_getJobs_refused settings hcount⟩
  have hdispatch := Command.dispatch_getJobs settings hcount
  refine ⟨hdispatch, fun p => ?_⟩
  rw [hdispatch]
  rfl

/-- Two jobs are asked for among unknown ones, one of them twice. -/
theorem requested_jobs_come_once_of_repetition :
    let s := ((({} : Store).insertJob (runningJob 3)).insertJob (runningJob 2)).insertJob
      (runningJob 1)
    let reply := generousPartners.serve ((Command.getJobs [3, 7, 1, 3]).dispatch {}) s
    reply = (.ok (.jobs [runningJob 1, runningJob 3]), s) ∧
      s.getJobs [1, 3, 7] = [runningJob 1, runningJob 3] ∧
      (Querying.perform {} (.getJobs [3, 7, 1, 3])).Gives ⟨0, false⟩ s.database
        [runningJob 1, runningJob 3] s.database := by
  intro s reply
  have hjobs : s.getJobs [3, 7, 1, 3] = [runningJob 1, runningJob 3] :=
    (s.getJobs_eq_filter _).trans rfl
  obtain ⟨-, -, hgives, hcongr, hserved, -⟩ := requested_jobs_come_once s [3, 7, 1, 3]
  rw [hjobs] at hgives hcongr hserved
  exact ⟨(hserved {} (by decide)).2 generousPartners,
    hcongr [1, 3, 7] fun id => by simp only [List.mem_cons, List.not_mem_nil, or_false]; omega,
    hgives {} ⟨0, false⟩ s.database s.holds_database⟩

end GridQueue
