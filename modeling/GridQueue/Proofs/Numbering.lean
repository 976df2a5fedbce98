/-
# `GridQueue.Proofs.Numbering` — hand-outs are numbered

Each job counts its hand-outs, and the counter is the number of the last
one.  A claim counts up; nothing else does, neither a task nor the
submission, which may put a job up for claims again at any time
(`Resubmits`).  So a claim gives its job a number that no claim gave it
before, and two token requests never ask for the same extension: an agent
that was superseded has no credential for the hand-out that superseded it.
The numbers have 32 bits, and all this is said of logs whose claims found a
next one (`CanCount`).

What an agent reports is taken only with the number of the latest claim.

`Numbered` is the invariant of a run.  The row of a job has the number of
the last claim in the log; no request holds a claim with a higher one, and
no two hold claims with the same; and the extensions that were asked for
are those of claims, each asked for once.  A new claim has a number above
all that are held of its job, and so brings no extension back.
-/
import GridQueue.Proofs.Claim
import GridQueue.Proofs.Credential

namespace GridQueue

open Matching

/-! ## The counter of a job -/

/-- The number of the last hand-out of a job, if there is such a job. -/
def Store.number? (s : Store) (jobId : Int) : Option Int :=
  (s.jobs.get? jobId).map (·.resubmission)

@[simp] theorem Store.number?_insertJob {s : Store} {j : Job} {id : Int} :
    (s.insertJob j).number? id = if id = j.id then some j.resubmission else s.number? id := by
  rw [Store.number?, Store.get?_insertJob]
  split <;> rfl

theorem Store.number?_eq_some {s : Store} {id n : Int} :
    s.number? id = some n ↔ ∃ j, s.jobs.get? id = some j ∧ j.resubmission = n :=
  Option.map_eq_some_iff

/-- The submission puts a job up for claims again.  It may write anything
else of the job, and of other tables, but not its counter. -/
def Resubmits (s s' : Store) : Prop :=
  ∃ j j', s.jobs.get? j.id = some j ∧ s'.jobs.get? j.id = some j' ∧ j'.status = .waiting ∧
    j'.resubmission = j.resubmission ∧ ∀ id, id ≠ j.id → s'.jobs.get? id = s.jobs.get? id

section Steps

variable {w : Surroundings} {t : Task} {m m' : Stage} {c : Call} {a : c.Answer} {s s₁ s' : Store}
  {id n : Int}

theorem Resubmits.number? (h : Resubmits s s') (id : Int) : s'.number? id = s.number? id := by
  obtain ⟨j, j', hj, hj', -, hn, hothers⟩ := h
  by_cases hid : id = j.id
  · rw [Store.number?, Store.number?, hid, hj, hj', Option.map_some, Option.map_some, hn]
  · rw [Store.number?, Store.number?, hothers id hid]

theorem number?_of_resubmits (h : Relation.ReflTransGen Resubmits s s') (id : Int) :
    s'.number? id = s.number? id := by
  induction h with
  | refl => rfl
  | tail _ hlast ih => rw [hlast.number?, ih]

theorem Store.JobChange.resubmission_eq {c : StoreCall} {now : Instant} {j j' : Job}
    (h : Store.JobChange now c j j') (hclaim : ∀ id target, c ≠ .claimWaiting id target) :
    j'.resubmission = j.resubmission := by
  cases h with
  | claim => exact absurd rfl (hclaim _ _)
  | _ => rfl

theorem Surroundings.number?_of_no_claim (hW : w.world c s a s') (hclaim : claimedBy c a = none)
    (id : Int) : s'.number? id = s.number? id := by
  rcases Surroundings.world_job hW id with hsame | ⟨now, sc, j, j', rfl, hj, hj', hchange⟩
  · rw [Store.number?, hsame, Store.number?]
  · by_cases hcall : ∃ aggregateId target, sc = .claimWaiting aggregateId target
    · obtain ⟨aggregateId, target, rfl⟩ := hcall
      rw [Store.number?, jobs_of_no_claim hW hclaim, Store.number?]
    · have hn := hchange.resubmission_eq fun _ _ he => hcall ⟨_, _, he⟩
      rw [Store.number?, Store.number?, hj, hj', Option.map_some, Option.map_some, hn]

theorem Surroundings.number?_of_claim {job : ClaimedJob} (hW : w.world c s a s')
    (hclaim : claimedBy c a = some job) :
    (∃ n, s.number? job.jobId = some n ∧ job.resubmission = wrapInt32 (n + 1) ∧
        s'.number? job.jobId = some (wrapInt32 (n + 1))) ∧
      ∀ id, id ≠ job.jobId → s'.number? id = s.number? id := by
  unfold claimedBy at hclaim
  split at hclaim
  · next aggregateId target job' =>
    cases hclaim
    obtain ⟨now, h⟩ := Surroundings.world_ok hW
    obtain ⟨j, rest, rfl, hj, -, -, rfl⟩ :=
      Store.claimWaiting_eq_some (Store.perform_claimWaiting.mp h)
    refine ⟨⟨j.resubmission, Store.number?_eq_some.mpr ⟨j, hj, rfl⟩, rfl, ?_⟩, ?_⟩
    · simp [Store.claimed]
    · intro id hid
      rw [Store.number?_insertJob, Store.claimed_id, if_neg hid]
  · cases hclaim

/-! ## What agents report -/

/-- The job and the number of a report or a sign of life of an agent that
was accepted. -/
def acceptedBy : (c : Call) → c.Answer → Option (Int × Int)
  | .store (.updateStatus ⟨jobId, n, _, .agent⟩), .ok (.applied _) => some (jobId, n)
  | .store (.touchHeartbeat jobId n), .ok true => some (jobId, n)
  | _, _ => none

theorem Store.number?_of_updateStatus {change : StatusChange} {now : Instant} {previous : Status}
    (h : (s.updateStatus change now).1 = .applied previous) :
    s.number? change.jobId = some change.resubmission := by
  unfold Store.updateStatus at h
  split at h
  · cases h
  · next j hj =>
    split at h
    · cases h
    · next hn => exact Store.number?_eq_some.mpr ⟨j, hj, Decidable.not_not.mp hn⟩

theorem Store.number?_of_touchHeartbeat {now : Instant}
    (h : (s.touchHeartbeat id n now).1 = true) : s.number? id = some n := by
  unfold Store.touchHeartbeat at h
  split at h
  · cases h
  · next j hj =>
    split at h
    · cases h
    · next hn => exact Store.number?_eq_some.mpr ⟨j, hj, Decidable.not_not.mp hn⟩

/-- What is accepted bears the number of the job's last hand-out. -/
theorem Surroundings.number?_of_accepted (hW : w.world c s a s')
    (h : acceptedBy c a = some (id, n)) : s.number? id = some n := by
  unfold acceptedBy at h
  split at h
  · cases h
    obtain ⟨now, hp⟩ := Surroundings.world_ok hW
    exact Store.number?_of_updateStatus (Except.ok.inj (congrArg Prod.fst hp))
  · cases h
    obtain ⟨now, hp⟩ := Surroundings.world_ok hW
    exact Store.number?_of_touchHeartbeat (Except.ok.inj (congrArg Prod.fst hp))
  · cases h

/-! ## Claims and token requests at a stage -/

theorem Task.Calls.no_handOut (h : t.Calls c) : claimedBy c a = none ∧ issuedBy c a = none := by
  have hc := h.servesRequest_eq_false
  cases c with
  | store c => cases c <;> first | exact ⟨rfl, rfl⟩ | cases hc
  | _ => first | exact ⟨rfl, rfl⟩ | cases hc

theorem Matching.Stage.claimed?_of_asked? {job : ClaimedJob} (h : m.asked? = some job) :
    m.claimed? = some job := by
  cases m with
  | issued | traced | delivered | refused | withdrawn | revoked | undone => exact h
  | _ => cases h

theorem Task.Moves.claimed? (hm : t.Moves m c a m') {job : ClaimedJob}
    (h : m'.claimed? = some job) : claimedBy c a = some job ∨
      (claimedBy c a = none ∧ m.claimed? = some job) := by
  rcases hm.stage_or_stays with ⟨settings, r, hm⟩ | ⟨hcalls, rfl⟩
  · cases hm with
    | won => exact .inl h
    | stopwatch | now | note | count | issue | refuse | trace | adjust | withdraw | revoke
    | traceRefusal => exact .inr ⟨rfl, h⟩
    | _ => cases h
  · exact .inr ⟨hcalls.no_handOut.1, h⟩

/-- Once a task holds a job it holds on to it, and it asks for its token at
most once. -/
theorem Task.Moves.asked? (hm : t.Moves m c a m') :
    (∀ job, m.asked? = some job → m'.asked? = some job) ∧
      ∀ request, issuedBy c a = some request →
        m.asked? = none ∧ ∃ job, m.claimed? = some job ∧ m'.asked? = some job ∧
          request.extension = TokenRequest.extensionOf job.jobId job.resubmission := by
  rcases hm.stage_or_stays with ⟨settings, r, hm⟩ | ⟨hcalls, rfl⟩
  · cases hm with
    | issue | refuse =>
        refine ⟨nofun, ?_⟩
        rintro request ⟨⟩
        exact ⟨rfl, _, rfl, rfl, rfl⟩
    | _ => exact ⟨fun _ h => h, nofun⟩
  · refine ⟨fun _ h => h, ?_⟩
    intro request h
    rw [hcalls.no_handOut.2] at h
    cases h

end Steps

/-! ## The numbers in a log -/

section Log

variable {ι : Type}

/-- The number that the latest claim in a log gave a job. -/
def lastClaim (es : List (Event ι Call Call.Answer Store)) (jobId : Int) : Option Int :=
  es.reverse.findSome? fun e =>
    ((claimedBy e.call e.answer).filter (·.jobId = jobId)).map (·.resubmission)

/-- The extensions for which tokens were asked in a log. -/
def extensions (es : List (Event ι Call Call.Answer Store)) : List String :=
  (es.filterMap fun e => issuedBy e.call e.answer).map (·.extension)

/-- The job that an event claims, if any, has a number with a next one. -/
def CanCount (e : Event ι Call Call.Answer Store) : Prop :=
  ∀ job ∈ claimedBy e.call e.answer, ∀ n ∈ e.before.number? job.jobId, FitsInt32 (n + 1)

instance (e : Event ι Call Call.Answer Store) : Decidable (CanCount e) :=
  inferInstanceAs (Decidable (∀ _ ∈ _, ∀ _ ∈ _, _))

/-- An event counts up the job it claims, and no other. -/
structure CountsClaims (e : Event ι Call Call.Answer Store) : Prop where
  idle : claimedBy e.call e.answer = none → ∀ id, e.after.number? id = e.before.number? id
  claim : ∀ job, claimedBy e.call e.answer = some job →
    (∃ n, e.before.number? job.jobId = some n ∧ job.resubmission = n + 1 ∧
        e.after.number? job.jobId = some (n + 1)) ∧
      ∀ id, id ≠ job.jobId → e.after.number? id = e.before.number? id

variable {es : List (Event ι Call Call.Answer Store)} {e : Event ι Call Call.Answer Store}

theorem lastClaim_append_idle (h : claimedBy e.call e.answer = none) (id : Int) :
    lastClaim (es ++ [e]) id = lastClaim es id := by
  simp [lastClaim, h]

theorem lastClaim_append_claim {job : ClaimedJob} (h : claimedBy e.call e.answer = some job)
    (id : Int) :
    lastClaim (es ++ [e]) id =
      if job.jobId = id then some job.resubmission else lastClaim es id := by
  by_cases hid : job.jobId = id <;> simp [lastClaim, h, hid, Option.filter_some]

theorem extensions_append :
    extensions (es ++ [e]) =
      extensions es ++ ((issuedBy e.call e.answer).map (·.extension)).toList := by
  rw [extensions, List.filterMap_append, List.map_append]
  cases h : issuedBy e.call e.answer <;> simp [extensions, h]

theorem CountsClaims.mono (h : CountsClaims e) {id n : Int} (hn : e.before.number? id = some n) :
    ∃ n', e.after.number? id = some n' ∧ n ≤ n' := by
  cases hclaim : claimedBy e.call e.answer with
  | none => exact ⟨n, (h.idle hclaim id).trans hn, le_rfl⟩
  | some job =>
      obtain ⟨⟨k, hk, -, hk'⟩, hothers⟩ := h.claim job hclaim
      by_cases hid : id = job.jobId
      · subst hid
        cases hn.symm.trans hk
        exact ⟨n + 1, hk', by omega⟩
      · exact ⟨n, (hothers id hid).trans hn, le_rfl⟩

end Log

/-! ## Runs -/

section Runs

variable {ι : Type} [DecidableEq ι] {w : Surroundings} {tasks : ι → Task} {s₀ s s' : Store}
  {es : List (Event ι Call Call.Answer Store)} {m : ι → Stage} {i : ι} {m' : Stage} {c : Call}
  {a : c.Answer}

/-- What is kept of the numbers since the store was `s₀`: each counter is
the number of the job's latest claim, no two tasks hold the same number of
the same job, and the log is in order. -/
structure Numbered (s₀ : Store) (es : List (Event ι Call Call.Answer Store)) (m : ι → Stage)
    (s : Store) : Prop where
  current : ∀ id, s.number? id = (s₀.number? id).map fun first => (lastClaim es id).getD first
  held : ∀ i job, (m i).claimed? = some job →
    ∃ n, s.number? job.jobId = some n ∧ job.resubmission ≤ n
  distinct : ∀ i j job job', (m i).claimed? = some job → (m j).claimed? = some job' →
    job.jobId = job'.jobId → job.resubmission = job'.resubmission → i = j
  asked : ∀ extension ∈ extensions es, ∃ i job, (m i).asked? = some job ∧
    extension = TokenRequest.extensionOf job.jobId job.resubmission
  nodup : (extensions es).Nodup
  counts : ∀ e ∈ es, CountsClaims e
  accepted : ∀ before e after, es = before ++ e :: after →
    ∀ id n, acceptedBy e.call e.answer = some (id, n) →
      ∃ first, s₀.number? id = some first ∧ n = (lastClaim before id).getD first

omit [DecidableEq ι] in
theorem countsClaims_of_amid (hW : (w.world.amid Resubmits) c s a s')
    (hcount : CanCount (⟨i, c, a, s, s'⟩ : Event ι Call Call.Answer Store)) :
    CountsClaims (⟨i, c, a, s, s'⟩ : Event ι Call Call.Answer Store) := by
  obtain ⟨s₁, hothers, hW⟩ := hW
  constructor
  · intro hclaim id
    exact (Surroundings.number?_of_no_claim hW hclaim id).trans (number?_of_resubmits hothers id)
  · intro job hclaim
    have hstep := Surroundings.number?_of_claim hW hclaim
    simp only [number?_of_resubmits hothers] at hstep
    obtain ⟨⟨n, hn, hjob, hn'⟩, hid⟩ := hstep
    rw [wrapInt32_of_fits (hcount job hclaim n hn)] at hjob hn'
    exact ⟨⟨n, hn, hjob, hn'⟩, hid⟩

namespace Numbered

omit [DecidableEq ι] in
theorem start : Numbered s [] (fun i => (tasks i).first) s := by
  have hfirst (i : ι) : (tasks i).first.claimed? = none := (tasks i).claimed?_first
  refine ⟨?_, ?_, ?_, ?_, ?_, ?_, ?_⟩
  · simp [lastClaim]
  · intro i job h
    cases (hfirst i).symm.trans h
  · intro i _ job _ h
    cases (hfirst i).symm.trans h
  · simp [extensions]
  · simp [extensions]
  · simp
  · intro before e after h
    simp at h

section Step

variable (h : Numbered s₀ es m s) (hm : (tasks i).Moves (m i) c a m')
  (hcounts : CountsClaims (⟨i, c, a, s, s'⟩ : Event ι Call Call.Answer Store))

include h hcounts in
omit [DecidableEq ι] in
theorem step_current (id : Int) :
    s'.number? id =
      (s₀.number? id).map fun first => (lastClaim (es ++ [⟨i, c, a, s, s'⟩]) id).getD first := by
  cases hclaim : claimedBy c a with
  | none =>
      rw [lastClaim_append_idle hclaim]
      exact (hcounts.idle hclaim id).trans (h.current id)
  | some job =>
      obtain ⟨⟨n, hn, hjob, hn'⟩, hothers⟩ := hcounts.claim job hclaim
      rw [lastClaim_append_claim hclaim]
      by_cases hid : job.jobId = id
      · subst hid
        obtain ⟨first, hfirst, -⟩ := Option.map_eq_some_iff.mp ((h.current _).symm.trans hn)
        rw [if_pos rfl, hfirst, Option.map_some, Option.getD_some, hjob]
        exact hn'
      · rw [if_neg hid]
        exact (hothers id (Ne.symm hid)).trans (h.current id)

include hm in
/-- The job a task holds after the step was claimed by it, or the task
held it before. -/
theorem step_claimed {j : ι} {job : ClaimedJob}
    (hj : (Function.update m i m' j).claimed? = some job) :
    (j = i ∧ claimedBy c a = some job) ∨ (m j).claimed? = some job := by
  by_cases hji : j = i
  · subst hji
    rw [Function.update_self] at hj
    exact (hm.claimed? hj).imp (fun hclaim => ⟨rfl, hclaim⟩) And.right
  · rw [Function.update_of_ne hji] at hj
    exact .inr hj

include h hm hcounts in
theorem step_held {j : ι} {job : ClaimedJob}
    (hj : (Function.update m i m' j).claimed? = some job) :
    ∃ n, s'.number? job.jobId = some n ∧ job.resubmission ≤ n := by
  rcases step_claimed hm hj with ⟨-, hclaim⟩ | hold
  · obtain ⟨⟨n, -, hjob, hn'⟩, -⟩ := hcounts.claim job hclaim
    exact ⟨n + 1, hn', hjob.le⟩
  · obtain ⟨n, hn, hle⟩ := h.held j job hold
    obtain ⟨n', hn', hle'⟩ := hcounts.mono hn
    exact ⟨n', hn', hle.trans hle'⟩

include h hcounts in
omit [DecidableEq ι] in
theorem ne_of_claim {job job' : ClaimedJob} (hclaim : claimedBy c a = some job) {j : ι}
    (hj : (m j).claimed? = some job') (hid : job.jobId = job'.jobId) :
    job.resubmission ≠ job'.resubmission := by
  obtain ⟨⟨n, hn, hjob, -⟩, -⟩ := hcounts.claim job hclaim
  obtain ⟨k, hk, hle⟩ := h.held j job' hj
  rw [hid] at hn
  cases hn.symm.trans hk
  omega

include h hm hcounts in
theorem step_distinct {j k : ι} {job job' : ClaimedJob}
    (hj : (Function.update m i m' j).claimed? = some job)
    (hk : (Function.update m i m' k).claimed? = some job') (hid : job.jobId = job'.jobId)
    (hn : job.resubmission = job'.resubmission) : j = k := by
  rcases step_claimed hm hj with ⟨rfl, hclaim⟩ | hj
  · rcases step_claimed hm hk with ⟨rfl, -⟩ | hk
    · rfl
    · exact absurd hn (h.ne_of_claim hcounts hclaim hk hid)
  · rcases step_claimed hm hk with ⟨-, hclaim⟩ | hk
    · exact absurd hn.symm (h.ne_of_claim hcounts hclaim hj hid.symm)
    · exact h.distinct j k job job' hj hk hid hn

include h hm in
theorem step_asked {extension : String}
    (hext : extension ∈ extensions (es ++ [⟨i, c, a, s, s'⟩])) :
    ∃ j job, (Function.update m i m' j).asked? = some job ∧
      extension = TokenRequest.extensionOf job.jobId job.resubmission := by
  obtain ⟨hkeeps, hasks⟩ := hm.asked?
  rw [extensions_append, List.mem_append] at hext
  rcases hext with hold | hnew
  · obtain ⟨j, job, hj, hext⟩ := h.asked extension hold
    refine ⟨j, job, ?_, hext⟩
    by_cases hji : j = i
    · subst hji
      rw [Function.update_self]
      exact hkeeps job hj
    · rw [Function.update_of_ne hji]
      exact hj
  · obtain ⟨request, hissue, rfl⟩ := Option.map_eq_some_iff.mp (Option.mem_toList.mp hnew)
    obtain ⟨-, job, -, hjob, hext⟩ := hasks request hissue
    exact ⟨i, job, by rw [Function.update_self]; exact hjob, hext⟩

include h hm in
omit [DecidableEq ι] in
/-- The token of a hand-out is asked for by the task that holds the
hand-out, which did not ask for it before. -/
theorem step_nodup : (extensions (es ++ [⟨i, c, a, s, s'⟩])).Nodup := by
  rw [extensions_append]
  cases hissue : issuedBy c a with
  | none => simpa using h.nodup
  | some request =>
      obtain ⟨hnone, job, hi, -, hext⟩ := hm.asked?.2 request hissue
      have hfresh : request.extension ∉ extensions es := by
        -- whoever asked for it holds the same hand-out, and would be this task
        intro hmem
        obtain ⟨j, job', hj, hext'⟩ := h.asked _ hmem
        obtain ⟨hid, hn⟩ := TokenRequest.extensionOf_inj.mp (hext.symm.trans hext')
        obtain rfl := h.distinct i j job job' hi (Stage.claimed?_of_asked? hj) hid hn
        cases hnone.symm.trans hj
      simpa using h.nodup.concat hfresh

include h in
omit [DecidableEq ι] in
theorem step_accepted (hW : (w.world.amid Resubmits) c s a s')
    {before after : List (Event ι Call Call.Answer Store)} {e : Event ι Call Call.Answer Store}
    (hes : es ++ [⟨i, c, a, s, s'⟩] = before ++ e :: after) {id n : Int}
    (he : acceptedBy e.call e.answer = some (id, n)) :
    ∃ first, s₀.number? id = some first ∧ n = (lastClaim before id).getD first := by
  rcases split_append hes with ⟨-, rfl, rfl⟩ | ⟨between, -, rfl⟩
  · -- the event is the step itself
    obtain ⟨s₁, hothers, hW⟩ := hW
    have hn := Surroundings.number?_of_accepted hW he
    rw [number?_of_resubmits hothers, h.current] at hn
    obtain ⟨first, hfirst, rfl⟩ := Option.map_eq_some_iff.mp hn
    exact ⟨first, hfirst, rfl⟩
  · exact h.accepted before e between rfl id n he

end Step

theorem step (h : Numbered s₀ es m s) (hm : (tasks i).Moves (m i) c a m')
    (hW : (w.world.amid Resubmits) c s a s')
    (hcount : CanCount (⟨i, c, a, s, s'⟩ : Event ι Call Call.Answer Store)) :
    Numbered s₀ (es ++ [⟨i, c, a, s, s'⟩]) (Function.update m i m') s' := by
  have hcounts : CountsClaims (⟨i, c, a, s, s'⟩ : Event ι Call Call.Answer Store) :=
    countsClaims_of_amid hW hcount
  refine ⟨h.step_current hcounts, fun _ _ hj => h.step_held hm hcounts hj,
    fun _ _ _ _ hj hk => h.step_distinct hm hcounts hj hk, fun _ hext => h.step_asked hm hext,
    h.step_nodup hm, ?_, fun _ _ _ hes _ _ he => h.step_accepted hW hes he⟩
  intro e he
  rcases List.mem_append.mp he with he | he
  · exact h.counts e he
  · cases List.mem_singleton.mp he
    exact hcounts

end Numbered

variable {t : Threads ι Call Call.Answer (fun i => (tasks i).Result) Store}

/-- Tasks that share a store, in any order of their calls and whatever
fails, while the submission puts jobs up for claims again between the
calls, and each job that is claimed has a next number.  A claim counts up its job by one and nothing else changes a
counter; no two token requests have the same extension; and what an agent
reports is accepted only with the number of the job's latest claim, or the
number the job came with if it was not claimed. -/
theorem hand_outs_are_numbered_once
    (h : Run (w.world.amid Resubmits) (Task.threads tasks s) es t) (hcount : ∀ e ∈ es, CanCount e) :
    (∀ e ∈ es, CountsClaims e) ∧ (extensions es).Nodup ∧
      ∀ before e after, es = before ++ e :: after →
        ∀ id n, acceptedBy e.call e.answer = some (id, n) →
          ∃ first, s.number? id = some first ∧ n = (lastClaim before id).getD first := by
  obtain ⟨m, hnumbered, -⟩ := h.invariant (fun i => (tasks i).Moves) (fun i => (tasks i).Ends)
    (fun i => (tasks i).first) (fun i => (tasks i).follows)
    (fun es m s' => (∀ e ∈ es, CanCount e) → Numbered s es m s') (fun _ => Numbered.start)
    fun _ _ _ _ _ _ _ _ hnumbered hm hW hall =>
      have ⟨hbefore, hlast⟩ := List.forall_mem_append.mp hall
      (hnumbered hbefore).step hm hW (List.forall_mem_singleton.mp hlast)
  have hnumbers := hnumbered hcount
  exact ⟨hnumbers.counts, hnumbers.nodup, hnumbers.accepted⟩

end Runs

/-- The submission puts a job up again, and has an aggregate stand for it. -/
def resubmit (jobId aggregateId : Int) (s : Store) : Store :=
  match s.jobs.get? jobId with
  | some j =>
      (s.insertJob { j with status := .waiting, aggregateId := some aggregateId }).insertAggregate
        (openAggregate aggregateId 1)
  | none => s

theorem resubmits_resubmit (jobId aggregateId : Int) (s : Store) :
    Relation.ReflTransGen Resubmits s (resubmit jobId aggregateId s) := by
  unfold resubmit
  split
  · next j hj =>
    have hid := Store.id_of_get? hj
    refine .single ⟨j, _, hid.symm ▸ hj, Store.get?_insertJob.trans (if_pos rfl), rfl, rfl, ?_⟩
    intro id hne
    exact Store.get?_insertJob.trans (if_neg hne)
  · exact .refl

/-- Two requests for work, and an agent that reports that its job failed. -/
def claimFailClaim : Fin 3 → Task
  | 0 | 2 => .request {} agentRequest
  | 1 => .command {} (.setJobStatus 7 1 .errorE)

/-- A job is claimed, fails, is put up again, and is claimed again, as its
second hand-out. -/
theorem hand_outs_are_numbered_once_of_resubmission :
    let answer := generousPartners.reply
    let t := (Task.threads claimFailClaim (storeOfOne 7 1)).play answer
      (List.replicate 12 0 ++ List.replicate 2 1)
    let u := (t.play (fun c s => answer c (resubmit 7 1 s)) [2]).play answer (List.replicate 12 2)
    t.state.number? 7 = some 1 ∧ u.state.number? 7 = some 2 ∧
      ∃ es, Run (Surroundings.steady.world.amid Resubmits)
          (Task.threads claimFailClaim (storeOfOne 7 1)) es u ∧
        (∀ e ∈ es, CountsClaims e) ∧ (extensions es).Nodup := by
  intro answer t u
  have hsteady : ∀ c s, (Surroundings.steady.world.amid Resubmits) c s (answer c s).1
      (answer c s).2 := fun c s => ⟨s, .refl, Surroundings.steady_reply generousPartners c s⟩
  have hamid : ∀ c s, (Surroundings.steady.world.amid Resubmits) c s
      (answer c (resubmit 7 1 s)).1 (answer c (resubmit 7 1 s)).2 := fun c s =>
    ⟨_, resubmits_resubmit 7 1 s, Surroundings.steady_reply generousPartners c _⟩
  have hrun := ((Run.play hsteady (Task.threads claimFailClaim (storeOfOne 7 1)) _).trans
    (Run.play hamid t [2])).trans (Run.play hsteady (t.play _ [2]) (List.replicate 12 2))
  have hall := hand_outs_are_numbered_once hrun (by decide +kernel)
  exact ⟨by decide +kernel, by decide +kernel, _, hrun, hall.1, hall.2.1⟩

end GridQueue
