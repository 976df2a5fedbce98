/-
# `GridQueue.Proofs.Claim` — a claim is handed out or taken back

A request for work that claimed a job makes up to six more calls, and any
of them may fail.  Its stage says what it asked for so far
(`Stage.Moves.log`), and two facts about the job outlast whatever the
other tasks do in between:

    Held      the job was not put up for claims again since
    Released  nor is it ASSIGNED

A claim makes the job `Held`.  A report of `ERROR_A` about a `Held` job is
about its present hand-out, so it cannot miss: it applies, or the job had
already left ASSIGNED; in either case the job is `Released`.  What the
request then answers is `claimed_job_is_handed_out_or_taken_back`.

`Account` is the invariant of a run from the point of view of one request:
what it has in the log at its stage, and that its job is `Held` or
`Released` accordingly.  `Account.other` is its step for the calls of other
tasks, `Account.own` for its own.  Any call may fail, so a job may also stay
ASSIGNED with its token taken back; then the report failed, and the log
has that too (`TakenBack`).
-/
import GridQueue.Proofs.Lifecycle
import GridQueue.Proofs.Store.Waiting

namespace GridQueue

open Matching

/-! ## What the calls of a request leave in the log -/

/-- The job claimed by a call. -/
def claimedBy : (c : Call) → c.Answer → Option ClaimedJob
  | .store (.claimWaiting _ _), .ok (some job) => some job
  | _, _ => none

/-- The request for a token that is a call. -/
def issuedBy : (c : Call) → c.Answer → Option TokenRequest
  | .issue request, _ => some request
  | _, _ => none

/-- The request whose token is revoked by a call. -/
def revokedBy : (c : Call) → c.Answer → Option TokenRequest
  | .revoke request, _ => some request
  | _, _ => none

def reportFailed : (c : Call) → c.Answer → Bool
  | .store (.updateStatus _), .error _ => true
  | _, _ => false

namespace Matching.Stage

/-- The job for which a token was asked. -/
def asked? : Stage → Option ClaimedJob
  | issued _ job _ | traced _ job _ | delivered _ job _ | refused job _ | withdrawn job _
  | revoked job _ | undone job _ => some job
  | _ => none

/-- The job that was to go to `ERROR_A`. -/
def withdrawn? : Stage → Option ClaimedJob
  | withdrawn job _ | revoked job _ | undone job _ => some job
  | _ => none

/-- The job whose token was revoked. -/
def revoked? : Stage → Option ClaimedJob
  | revoked job _ | undone job _ => some job
  | _ => none

/-- The stage keeps what was asked for so far. -/
theorem Moves.log {settings : BrokerSettings} {request : Request} {m m' : Stage} {c : Call}
    {a : c.Answer} (h : Moves settings request m c a m') :
    m'.claimed?.toList = m.claimed?.toList ++ (claimedBy c a).toList ∧
      (m'.asked?.map (tokenRequest settings)).toList =
        (m.asked?.map (tokenRequest settings)).toList ++ (issuedBy c a).toList ∧
      (m'.revoked?.map (tokenRequest settings)).toList =
        (m.revoked?.map (tokenRequest settings)).toList ++ (revokedBy c a).toList := by
  cases h <;> simp [claimed?, asked?, revoked?, claimedBy, issuedBy, revokedBy]

end Matching.Stage

/-! ## What outlasts the calls of others -/

namespace Status

theorem mover?_waiting {s : Status} {actor : Actor} (h : s.mover? .waiting = some actor) :
    actor = .submission := by
  cases s <;> cases h
  rfl

theorem mover?_assigned {s : Status} {actor : Actor} (h : s.mover? .assigned = some actor) :
    s = .waiting := by
  cases s <;> cases h
  rfl

end Status

theorem Task.actor?_ne_submission (t : Task) : t.actor? ≠ some .submission := by
  unfold Task.actor?
  split <;> nofun

/-- The hand-out of a claimed job is still the job's latest, and the job is
not up for another. -/
def Held (job : ClaimedJob) (s : Store) : Prop :=
  ∃ j, s.jobs.get? job.jobId = some j ∧ j.resubmission = job.resubmission ∧ j.status ≠ .waiting

/-- The job is not ASSIGNED, nor will be. -/
def Released (job : ClaimedJob) (s : Store) : Prop :=
  ∃ j, s.jobs.get? job.jobId = some j ∧ j.status ≠ .waiting ∧ j.status ≠ .assigned

/-- No task puts a job up for claims, and none but a claim counts its
hand-outs or makes it ASSIGNED. -/
theorem Task.Writer.keeps_held {t : Task} {c : StoreCall} {now : Instant} {j j' : Job}
    (h : t.Writer c) (hc : Store.JobChange now c j j') (hw : j.status ≠ .waiting) :
    j'.resubmission = j.resubmission ∧ j'.status ≠ .waiting ∧
      (j.status ≠ .assigned → j'.status ≠ .assigned) := by
  refine ⟨?_, ?_⟩
  · cases hc with
    | claim h _ => exact absurd h hw
    | _ => rfl
  · by_cases hne : j'.status = j.status
    · rw [hne]
      exact ⟨hw, fun h => h⟩
    · rcases h.moves_or_forces hc hne with ⟨actor, ht, hmove⟩ | ⟨-, hfail⟩
      · refine ⟨?_, ?_⟩
        · intro hj
          rw [hj] at hmove
          exact t.actor?_ne_submission (Status.mover?_waiting hmove ▸ ht)
        · intro _ hj
          rw [hj] at hmove
          exact hw (Status.mover?_assigned hmove)
      · exact ⟨fun hj => (by rw [hj] at hfail; cases hfail),
          fun _ hj => (by rw [hj] at hfail; cases hfail)⟩

section Steps

variable {w : Surroundings} {t : Task} {m m' : Stage} {c : Call} {a : c.Answer} {s s' : Store}
  {job : ClaimedJob}

theorem Held.step (h : Held job s) (hm : t.Moves m c a m') (hW : w.world c s a s') :
    Held job s' := by
  obtain ⟨j, hj, hn, hw⟩ := h
  rcases Surroundings.world_job hW job.jobId with hsame | ⟨now, sc, k, j', rfl, hk, hj', hchange⟩
  · exact ⟨j, hsame.trans hj, hn, hw⟩
  · cases Option.some.inj (hj.symm.trans hk)
    obtain ⟨hn', hw', -⟩ := (hm.writer hchange.writes).keeps_held hchange hw
    exact ⟨j', hj', hn'.trans hn, hw'⟩

theorem Released.step (h : Released job s) (hm : t.Moves m c a m') (hW : w.world c s a s') :
    Released job s' := by
  obtain ⟨j, hj, hw, ha⟩ := h
  rcases Surroundings.world_job hW job.jobId with hsame | ⟨now, sc, k, j', rfl, hk, hj', hchange⟩
  · exact ⟨j, hsame.trans hj, hw, ha⟩
  · cases Option.some.inj (hj.symm.trans hk)
    obtain ⟨-, hw', ha'⟩ := (hm.writer hchange.writes).keeps_held hchange hw
    exact ⟨j', hj', hw', ha' ha⟩

theorem held_of_claim {aggregateId : Int} {target : ClaimTarget}
    (hW : w.world (.store (.claimWaiting aggregateId target)) s (.ok (some job)) s') :
    Held job s' := by
  rcases hW with ⟨now, h⟩ | ⟨-, ⟨e, he⟩, -⟩ | ⟨-, hwrites, -⟩
  · obtain ⟨j, rest, rfl, -, -, -, rfl⟩ :=
      Store.claimWaiting_eq_some (Store.perform_claimWaiting.mp h)
    refine ⟨Store.claimed j target now, Store.get?_insertJob.trans (if_pos rfl), rfl, ?_⟩
    simp [Store.claimed]
  · cases he
  · cases hwrites

theorem jobs_of_no_claim {aggregateId : Int} {target : ClaimTarget}
    {a : Except StoreError (Option ClaimedJob)}
    (hW : w.world (.store (.claimWaiting aggregateId target)) s a s')
    (ha : claimedBy (.store (.claimWaiting aggregateId target)) a = none) : s'.jobs = s.jobs := by
  rcases hW with ⟨now, h⟩ | ⟨-, -, rfl⟩ | ⟨-, hwrites, -⟩
  · match a with
    | .ok none => rw [(Store.claimWaiting_eq_none (Store.perform_claimWaiting.mp h)).1]
    | .ok (some job) => cases ha
    | .error e => cases congrArg Prod.fst h
  · rfl
  · cases hwrites

/-- To report `ERROR_A` about a job that is held releases it, unless the
report fails: the report is about the latest hand-out, and the job is
ASSIGNED, or is not already. -/
theorem Held.released {a : Except StoreError StatusUpdate} (h : Held job s)
    (hW : w.world (.store (.updateStatus ⟨job.jobId, job.resubmission, .errorA, .broker⟩)) s a s') :
    Released job s' ∨ ∃ e, a = .error e := by
  rcases hW with ⟨now, hp⟩ | ⟨-, he, -⟩ | ⟨-, hwrites, -⟩
  · left
    obtain ⟨j, hj, hn, hw⟩ := h
    have hid := Store.id_of_get? hj
    simp only [Store.perform, Store.updateStatus, hj, hn, ne_eq, not_true, if_false] at hp
    split at hp
    · cases hp
      refine ⟨_, Store.get?_insertJob.trans (if_pos hid.symm), ?_⟩
      simp
    · next hnot =>
      cases hp
      refine ⟨j, hj, hw, fun ha => hnot ?_⟩
      rw [ha]
      rfl
  · exact .inr he
  · cases hwrites

end Steps

/-! ## The account of a request -/

section Account

variable {ι : Type} [DecidableEq ι] {w : Surroundings} {settings : BrokerSettings}
  {request : Request} {i : ι} {es : List (Event ι Call Call.Answer Store)} {m m' : Stage}
  {c : Call} {a : c.Answer} {s s' : Store}

/-- What the log and the store hold for a request at a stage. -/
structure Account (settings : BrokerSettings) (i : ι) (es : List (Event ι Call Call.Answer Store))
    (m : Stage) (s : Store) : Prop where
  claims : Event.gather claimedBy i es = m.claimed?.toList
  issues : Event.gather issuedBy i es = (m.asked?.map (tokenRequest settings)).toList
  revocations : Event.gather revokedBy i es = (m.revoked?.map (tokenRequest settings)).toList
  unchanged : m.claimed? = none → ∀ e ∈ es, e.thread = i → e.after.jobs = e.before.jobs
  held : ∀ job, m.claimed? = some job → Held job s
  released : ∀ job, m.withdrawn? = some job →
    Released job s ∨ ∃ e ∈ es, e.thread = i ∧ reportFailed e.call e.answer = true

theorem Account.start (request : Request) (s : Store) :
    Account settings i [] (.first request) s := by
  have hnone : (Stage.first request).claimed? = none ∧ (Stage.first request).asked? = none ∧
      (Stage.first request).revoked? = none ∧ (Stage.first request).withdrawn? = none := by
    unfold Stage.first
    cases request.flaw? <;> exact ⟨rfl, rfl, rfl, rfl⟩
  obtain ⟨hc, ha, hr, hw⟩ := hnone
  constructor <;> simp [hc, ha, hr, hw]

theorem Account.other {t : Task} {j : ι} {n n' : Stage} (h : Account settings i es m s)
    (hj : j ≠ i) (hm : t.Moves n c a n') (hW : w.world c s a s') :
    Account settings i (es ++ [⟨j, c, a, s, s'⟩]) m s' where
  claims := (Event.gather_other hj).trans h.claims
  issues := (Event.gather_other hj).trans h.issues
  revocations := (Event.gather_other hj).trans h.revocations
  unchanged hnone e he hi := by
    rcases List.mem_append.mp he with he | he
    · exact h.unchanged hnone e he hi
    · cases List.mem_singleton.mp he
      exact absurd hi hj
  held job hjob := (h.held job hjob).step hm hW
  released job hjob := by
    rcases h.released job hjob with hr | ⟨e, he, hi, hfail⟩
    · exact .inl (hr.step hm hW)
    · exact .inr ⟨e, List.mem_append_left _ he, hi, hfail⟩

theorem jobs_of_unclaimed (hm : Stage.Moves settings request m c a m')
    (hnone : m'.claimed? = none) (hW : w.world c s a s') : s'.jobs = s.jobs := by
  cases hm with
  | claimError | lost => exact jobs_of_no_claim hW rfl
  | won | count | issue | refuse | trace | adjust | withdraw | revoke | traceRefusal => cases hnone
  | _ => exact Surroundings.world_jobs hW (by simp [Call.writes, StoreCall.writes])

/-- The job a request holds after a step it held before, or it claimed it
by this step. -/
theorem held_of_moves (hm : Stage.Moves settings request m c a m') (hW : w.world c s a s')
    (h : ∀ job, m.claimed? = some job → Held job s) (job : ClaimedJob)
    (hjob : m'.claimed? = some job) : Held job s' := by
  have hold : m.claimed? = some job → Held job s' := fun hm' =>
    (h job hm').step (t := .request settings request) hm hW
  cases hm with
  | won => cases hjob; exact held_of_claim hW
  | stopwatch | now | note | count | issue | refuse | trace | adjust | withdraw | revoke
  | traceRefusal => exact hold hjob
  | _ => cases hjob

theorem released_of_moves (hm : Stage.Moves settings request m c a m') (hW : w.world c s a s')
    (hheld : ∀ job, m.claimed? = some job → Held job s) (job : ClaimedJob)
    (hjob : m'.withdrawn? = some job) :
    m.withdrawn? = some job ∨ Released job s' ∨ reportFailed c a = true := by
  cases hm with
  | withdraw =>
      cases hjob
      rcases (hheld _ rfl).released hW with hr | ⟨e, rfl⟩
      · exact .inr (.inl hr)
      · exact .inr (.inr rfl)
  | stopwatch | now | note | revoke | traceRefusal => exact .inl hjob
  | _ => cases hjob

theorem Account.own (h : Account settings i es m s) (hm : Stage.Moves settings request m c a m')
    (hW : w.world c s a s') : Account settings i (es ++ [⟨i, c, a, s, s'⟩]) m' s' where
  claims := by rw [Event.gather_own, h.claims, hm.log.1]
  issues := by rw [Event.gather_own, h.issues, hm.log.2.1]
  revocations := by rw [Event.gather_own, h.revocations, hm.log.2.2]
  unchanged hnone e he hi := by
    rcases List.mem_append.mp he with he | he
    · refine h.unchanged (Option.toList_eq_nil_iff.mp ?_) e he hi
      have hlog := hm.log.1
      rw [hnone] at hlog
      exact (List.append_eq_nil_iff.mp hlog.symm).1
    · cases List.mem_singleton.mp he
      exact jobs_of_unclaimed hm hnone hW
  held := held_of_moves hm hW h.held
  released job hjob := by
    rcases released_of_moves hm hW h.held job hjob with hold | hr | hfail
    · rcases h.released job hold with hr | ⟨e, he, hi, hfail⟩
      · exact .inl (hr.step (t := .request settings request) hm hW)
      · exact .inr ⟨e, List.mem_append_left _ he, hi, hfail⟩
    · exact .inl hr
    · exact .inr ⟨_, List.mem_append_right _ (List.mem_singleton_self _), rfl, hfail⟩

end Account

/-! ## Runs -/

abbrev Task.beside {ι : Type} (t : Task) (others : ι → Task) : Option ι → Task
  | none => t
  | some i => others i

section Runs

variable {ι : Type} [DecidableEq ι] {w : Surroundings} {settings : BrokerSettings}
  {request : Request} {others : ι → Task} {s : Store}
  {es : List (Event (Option ι) Call Call.Answer Store)}
  {t : Threads (Option ι) Call Call.Answer
    (fun i => (Task.beside (.request settings request) others i).Result) Store}

/-- In every run the account of the request is kept, and the request goes
on from the stage it is kept for. -/
theorem exists_account
    (h : Run w.world (Task.threads (Task.beside (.request settings request) others) s) es t) :
    ∃ m, Account settings none es m t.state ∧
      (t.rest none).Follows (Stage.Moves settings request)
        (Task.Ends (.request settings request)) m := by
  let tasks := Task.beside (.request settings request) others
  obtain ⟨m, hacc, hf⟩ := h.invariant (fun i => (tasks i).Moves) (fun i => (tasks i).Ends)
    (fun i => (tasks i).first) (fun i => (tasks i).follows)
    (fun es m s => Account settings none es (m none) s) (.start request s)
    (fun es m s i c a s' m' hacc hm hW => by
      cases i with
      | none => simpa only [Function.update_self] using hacc.own hm hW
      | some j =>
          rw [Function.update_of_ne (by nofun)]
          exact hacc.other (by nofun) hm hW)
  exact ⟨m none, hacc, hf none⟩

/-- A claim was taken back: its token was asked for once, exactly this
token was revoked, and the job is not ASSIGNED, unless the report that was
to say so failed. -/
structure TakenBack (es : List (Event (Option ι) Call Call.Answer Store)) (s : Store)
    (job : ClaimedJob) : Prop where
  revoked : ∃ request, Event.gather issuedBy none es = [request] ∧
    Event.gather revokedBy none es = [request]
  status : (∃ j, s.jobs.get? job.jobId = some j ∧ j.status ≠ .assigned) ∨
    ∃ e ∈ es, e.thread = none ∧ reportFailed e.call e.answer = true

theorem Account.takenBack {job : ClaimedJob} {e : CredentialError}
    (h : Account settings none es (.undone job e) s) : TakenBack es s job where
  revoked := ⟨tokenRequest settings job, h.issues, h.revocations⟩
  status := (h.released job rfl).imp (fun ⟨j, hj, _, ha⟩ => ⟨j, hj, ha⟩) id

/-- One request for work among other tasks, in any order of their calls
and whatever fails.  When it returns: a job it claimed is handed out, or
the answer is that there was no credential for this very job and the claim
was taken back; without a claim it changed no job; and an assignment names
the job of its one claim as the claim gave it. -/
theorem claimed_job_is_handed_out_or_taken_back
    (h : Run w.world (Task.threads (Task.beside (.request settings request) others) s) es t)
    {result : Except BrokerError Outcome} (hdone : t.Finished none result) :
    (∀ job ∈ Event.gather claimedBy none es,
      (∃ a, result = .ok (.assigned a)) ∨
        (∃ e, result = .error (.credential job.jobId e)) ∧ TakenBack es t.state job) ∧
    (Event.gather claimedBy none es = [] →
      ∀ e ∈ es, e.thread = none → e.after.jobs = e.before.jobs) ∧
    ∀ a, result = .ok (.assigned a) →
      ∃ job, Event.gather claimedBy none es = [job] ∧ a.jobId = job.jobId ∧ a.owner = job.owner ∧
        a.jdl = job.jdl ∧ a.resubmission = job.resubmission := by
  obtain ⟨m, hacc, hf⟩ := exists_account h
  rw [show t.rest none = .done result from hdone] at hf
  have hend : m.result? = some result := hf
  have hclaims := hacc.claims
  refine ⟨?_, fun hnone => hacc.unchanged ?_, ?_⟩
  · intro job hjob
    rw [hclaims] at hjob
    cases m with
    | delivered tier job' token => exact .inl ⟨_, (Option.some.inj hend).symm⟩
    | undone job' e =>
        cases List.mem_singleton.mp hjob
        exact .inr ⟨⟨e, (Option.some.inj hend).symm⟩, hacc.takenBack⟩
    | failed | install | nothing => cases hjob
    | _ => cases hend
  · exact Option.toList_eq_nil_iff.mp (hclaims.symm.trans hnone)
  · intro a ha
    subst ha
    cases m with
    | delivered tier job token =>
        cases hend
        exact ⟨job, hclaims, rfl, rfl, rfl, rfl⟩
    | _ => cases hend

end Runs

/-- A sweep that comes when every job was silent for long. -/
def lateSweep (_ : Unit) : Task := .sweep {} ⟨100000000000000, false⟩

/-- There is no token for the claimed job, and before that is known the
sweep has the job expire: the report of `ERROR_A` is rejected, and still
the job is not ASSIGNED. -/
theorem claimed_job_is_handed_out_or_taken_back_of_refusal :
    let s := storeOfOne 7 1
    let tasks := Task.beside (.request {} agentRequest) lateSweep
    let answer := Partners.reply { issue := fun _ => .error (.unreachable "") }
    let t := (Task.threads tasks s).play answer
      (List.replicate 8 none ++ List.replicate 9 (some ()) ++ List.replicate 5 none)
    let result := Except.error (BrokerError.credential 7 (.unreachable ""))
    t.Finished none result ∧ (t.state.jobs.get? 7).map (·.status) = some .expired ∧
      ∃ es, Run Surroundings.hostile.world (Task.threads tasks s) es t ∧
        (∀ job ∈ Event.gather claimedBy none es,
          (∃ a, result = .ok (.assigned a)) ∨
            (∃ e, result = .error (.credential job.jobId e)) ∧ TakenBack es t.state job) := by
  intro s tasks answer t result
  have hdone : t.Finished none result := Threads.finished_of_result? (by decide +kernel)
  obtain ⟨es, h⟩ := Run.exists_play (Surroundings.hostile_reply _) (Task.threads tasks s) _
  exact ⟨hdone, by decide +kernel, es, h, (claimed_job_is_handed_out_or_taken_back h hdone).1⟩

end GridQueue
