/-
# `GridQueue.Proofs.Matching.Course` — the course of a request

A request for work that runs alone at one time takes one of these
courses, whatever the directory and the token service answer:

    refused          the request has a flaw
    blocked          the queue of its computing element is blocked
    unknownSite      the directory fails
    searched         the tiers are gone through

and the tiers end in a claim of a job of the first aggregate that is
ready, in the list of what the first one lacks, or in nothing.  `Course`
gives the answer together with the store that is left, and
`matchJob_course` says that there are no other courses.  What is known of
a request that is served alone comes from here.
-/
import GridQueue.Proofs.Matching.Tiers
import GridQueue.Proofs.Store.Waiting
import GridQueue.Proofs.Yield

namespace GridQueue.Matching

/-! ## How a request may end -/

section Ends

variable (w : Surroundings) (now : Instant) (settings : BrokerSettings)

/-- The end of a request that chose an aggregate, and the store after it. -/
inductive ClaimEnds (request : Request) (s : Store) (aggregateId : Int) (tier : Tier) :
    Except BrokerError Outcome → Store → Prop
  /-- no job of the aggregate waits -/
  | lost : s.waitingIds aggregateId = [] →
      ClaimEnds request s aggregateId tier (.ok (.nothingToRun .claimConflict)) s
  /-- there is a token, and the job is the agent's -/
  | delivered {job s₁ token} :
      s.claimWaiting aggregateId request.target now = (some job, s₁) →
      w.issue (tokenRequest settings job) (.ok token) →
      ClaimEnds request s aggregateId tier (.ok (.assigned (.ofClaim job token tier)))
        (((s₁.decrement aggregateId (!tier.isRemote) now).appendTrace job.jobId traceTag
          ("job assigned to " ++ request.ce) now).adjustCounters request.ce request.site 1 (-1) now)
  /-- there is no token, and the claim is taken back -/
  | undone {job s₁ e} :
      s.claimWaiting aggregateId request.target now = (some job, s₁) →
      w.issue (tokenRequest settings job) (.error e) →
      ClaimEnds request s aggregateId tier (.error (.credential job.jobId e))
        (((s₁.decrement aggregateId (!tier.isRemote) now).updateStatus
          ⟨job.jobId, job.resubmission, .errorA, .broker⟩ now).2.appendTrace job.jobId traceTag
          ("credential issuance failed: " ++ e.message) now)

/-- The end of a tier that looks among a class of aggregates. -/
inductive Tier.Ends (r : Resolved) (s : Store) (among : Aggregate → Prop)
    (claimTier fallbackTier : Tier) : Except BrokerError (Option Outcome) → Store → Prop
  | claims {a result s'} : s.First (r.Ready among) a →
      ClaimEnds w now settings r.request s a.id claimTier result s' →
      Tier.Ends r s among claimTier fallbackTier (result.map some) s'
  | lacks {a missing} : (∀ b, ¬ r.Ready among b) → s.First among a → r.Lacks a missing →
      Tier.Ends r s among claimTier fallbackTier
        (.ok (some (.installPackages missing fallbackTier))) s
  | passes : (∀ b, ¬ among b) → Tier.Ends r s among claimTier fallbackTier (.ok none) s

/-- The end of a search through the tiers. -/
inductive SearchEnds (r : Resolved) (s : Store) : Except BrokerError Outcome → Store → Prop
  | here {result s'} :
      Tier.Ends w now settings r s (r.AtSite s) .full .packageFallback (result.map some) s' →
      SearchEnds r s result s'
  | elsewhere {result s'} : (∀ b, ¬ r.AtSite s b) →
      Tier.Ends w now settings r s (r.Elsewhere s now settings.remoteTimeout) .remote
        .remotePackageFallback (result.map some) s' →
      SearchEnds r s result s'
  | nowhere : (∀ b, ¬ r.AtSite s b) → (∀ b, ¬ r.Elsewhere s now settings.remoteTimeout b) →
      SearchEnds r s (.ok (.nothingToRun .noCandidate))
        (s.setQueueStatus r.request.ce r.request.site noMatchStatus now)

/-- The course of a request. -/
inductive Course (request : Request) (s : Store) : Except BrokerError Outcome → Store → Prop
  | refused {flaw} : request.flaw? = some flaw →
      Course request s (.error (.invalidRequest flaw.message)) s
  | blocked : request.flaw? = none → s.isBlocked request.ce = true →
      Course request s (.ok (.nothingToRun .queueBlocked)) s
  | unknownSite {e} : request.flaw? = none → s.isBlocked request.ce = false →
      w.lookup request.ce request.site (.error e) → Course request s (.error (.directory e)) s
  | searched {requirements result s'} : request.flaw? = none → s.isBlocked request.ce = false →
      w.lookup request.ce request.site (.ok requirements) →
      SearchEnds w now settings (.of request requirements) s result s' →
      Course request s result s'

end Ends

/-! ## Programs that hand a job out -/

section Courses

variable {w : Surroundings} {now : Instant} {settings : BrokerSettings} {request : Request}
  {r : Resolved} {s s' : Store}

theorem yields_recordAssignment {job : ClaimedJob} {target : ClaimTarget} {u : Unit} :
    (recordAssignment job target).Yields (w.moment now) s u s' ↔
      s' = (s.appendTrace job.jobId traceTag ("job assigned to " ++ target.ce) now).adjustCounters
        target.ce target.site 1 (-1) now := by
  rw [recordAssignment, Program.yields_bind]
  constructor
  · rintro ⟨_, s₁, h₁, h₂⟩
    obtain rfl := yields_attempt.mp h₁
    exact yields_attempt.mp h₂
  · intro h
    exact ⟨(), _, yields_attempt.mpr rfl, yields_attempt.mpr h⟩

theorem yields_rollBack {job : ClaimedJob} {tokens : TokenRequest} {e : CredentialError} {u : Unit}
    (h : (rollBack job tokens e).Yields (w.moment now) s u s') :
    s' = (s.updateStatus ⟨job.jobId, job.resubmission, .errorA, .broker⟩ now).2.appendTrace
      job.jobId traceTag ("credential issuance failed: " ++ e.message) now := by
  rw [rollBack, Program.yields_bind] at h
  obtain ⟨_, s₁, h₁, h⟩ := h
  obtain rfl := yields_attempt.mp h₁
  -- a revocation leaves the store alone
  obtain ⟨_, s₂, ⟨-, rfl⟩, h₂⟩ := h
  exact yields_attempt.mp h₂

theorem handOut_ends {job : ClaimedJob} {tier : Tier} {aggregateId : Int} {s₀ s₁ : Store}
    {result : Except BrokerError Outcome}
    (hclaim : s₀.claimWaiting aggregateId request.target now = (some job, s₁))
    (h : (handOut settings job request.target tier).run.Yields (w.moment now)
      (s₁.decrement aggregateId (!tier.isRemote) now) result s') :
    ClaimEnds w now settings request s₀ aggregateId tier result s' := by
  obtain ⟨answer, s₂, hanswer, hrest⟩ := Program.yields_bind.mp h
  obtain ⟨hissue, rfl⟩ := Program.yields_perform.mp hanswer
  cases answer with
  | ok token =>
      obtain ⟨_, s₃, hrecord, rfl, rfl⟩ := Program.yields_bind.mp hrest
      obtain rfl := yields_recordAssignment.mp hrecord
      exact .delivered hclaim hissue
  | error e =>
      obtain ⟨_, s₃, hnote, hback⟩ := Program.yields_bind.mp hrest
      obtain rfl := Program.yields_perform.mp hnote
      obtain ⟨_, s₄, hback, rfl, rfl⟩ := Program.yields_bind.mp hback
      obtain rfl := yields_rollBack hback
      exact .undone hclaim hissue

theorem claim_ends {aggregateId : Int} {tier : Tier} {result : Except BrokerError Outcome}
    (h : (claim settings r aggregateId tier).run.Yields (w.moment now) s result s') :
    ClaimEnds w now settings r.request s aggregateId tier result s' := by
  unfold claim at h
  cases hclaim : s.claimWaiting aggregateId r.request.target now with
  | mk got s₁ =>
      replace h := (yields_ask_bind (Store.perform_claimWaiting.mpr hclaim)).mp h
      cases got with
      | none =>
          obtain ⟨rfl, hnil⟩ := Store.claimWaiting_eq_none hclaim
          obtain ⟨_, s₂, rfl, rfl, rfl⟩ := h
          exact .lost hnil
      | some job =>
          obtain ⟨_, s₂, hcount, hrest⟩ := h
          obtain rfl : s₂ = s₁.decrement aggregateId (!tier.isRemote) now :=
            (congrArg Prod.snd hcount).symm
          exact handOut_ends hclaim hrest

/-! ## Tiers -/

section Tier

variable {filterOf : PackageCheck → Filter} {claimTier fallbackTier : Tier}
  {result : Except BrokerError (Option Outcome)}

theorem yields_find_bind {α : Type} {f : Filter} {found : Option Aggregate}
    {next : Option Aggregate → Attempt α} {r : Except BrokerError α}
    (h : s.findWaiting f = found) :
    (ask (.findWaiting f) >>= next).run.Yields (w.moment now) s r s' ↔
      (next found).run.Yields (w.moment now) s r s' :=
  yields_ask_bind (by rw [Store.perform, h])

theorem tryFallback_ends (hnone : ∀ b, ¬ r.Ready (s.Offers (filterOf .ignore)) b)
    (h : (tryFallback settings r filterOf claimTier fallbackTier).run.Yields (w.moment now) s
      result s') :
    Tier.Ends w now settings r s (s.Offers (filterOf .ignore)) claimTier fallbackTier
      result s' := by
  unfold tryFallback at h
  cases hfound : s.findWaiting (filterOf .ignore) with
  | none =>
      obtain ⟨rfl, rfl⟩ := (yields_find_bind hfound).mp h
      exact .passes (Store.findWaiting_eq_none.mp hfound)
  | some a =>
      replace h := (yields_find_bind hfound).mp h
      have hfirst := Store.findWaiting_eq_some.mp hfound
      have hlacks := Resolved.lacks_missing fun hp => hnone a ⟨hfirst.mem, hp⟩
      dsimp only at h
      split at h
      · next hnil => exact absurd hnil hlacks.1
      · obtain ⟨rfl, rfl⟩ := h
        exact .lacks hnone hfirst hlacks

/-- A tier whose class of aggregates is what its relaxed look-up offers. -/
theorem tryTier_ends (hf : ∀ c, filterOf c = (filterOf .ignore).withPackages c)
    (h : (tryTier settings r filterOf claimTier fallbackTier).run.Yields (w.moment now) s
      result s') :
    Tier.Ends w now settings r s (s.Offers (filterOf .ignore)) claimTier fallbackTier
      result s' := by
  unfold tryTier at h
  cases hfound : s.findWaiting (filterOf r.inventory.check) with
  | some a =>
      replace h := (yields_find_bind hfound).mp h
      obtain ⟨v, hclaim, rfl⟩ := yields_map.mp h
      have hfirst := Store.findWaiting_eq_some.mp hfound
      rw [offers_check hf] at hfirst
      exact .claims hfirst (claim_ends hclaim)
  | none =>
      replace h := (yields_find_bind hfound).mp h
      have hnone := Store.findWaiting_eq_none.mp hfound
      rw [offers_check hf] at hnone
      dsimp only at h
      split at h
      · exact tryFallback_ends hnone h
      · next hall =>
        -- where packages are no constraint, all that is offered is ready
        obtain ⟨rfl, rfl⟩ := h
        refine .passes fun b hb => hnone b ⟨hb, ?_⟩
        cases hinv : r.inventory with
        | sharedFilesystem => trivial
        | installed packages => exact absurd (by rw [hinv]; rfl) hall

end Tier

theorem tryRemote_ends {result : Except BrokerError (Option Outcome)}
    (h : (tryRemote settings r).run.Yields (w.moment now) s result s') :
    Tier.Ends w now settings r s (r.Elsewhere s now settings.remoteTimeout) .remote
      .remotePackageFallback result s' := by
  unfold tryRemote at h
  split at h
  · next haccepts =>
    rw [Resolved.elsewhere_eq haccepts]
    exact tryTier_ends (r.remoteFilter_eq now settings.remoteTimeout) (yields_now_bind.mp h)
  · next hrefuses =>
    obtain ⟨rfl, rfl⟩ := h
    exact .passes fun b hb => hrefuses hb.1

theorem Tier.Ends.passed {among : Aggregate → Prop} {claimTier fallbackTier : Tier}
    (h : Tier.Ends w now settings r s among claimTier fallbackTier (.ok none) s') :
    s' = s ∧ ∀ b, ¬ among b := by
  generalize hresult : (Except.ok none : Except BrokerError (Option Outcome)) = result at h
  cases h with
  | @claims a result s' hfirst hclaim => cases result <;> cases hresult
  | lacks => cases hresult
  | passes hnone => exact ⟨rfl, hnone⟩

/-- A tier that settles the request claims from the first ready aggregate,
or asks for what the first one lacks. -/
theorem Tier.Ends.settled {among : Aggregate → Prop} {claimTier fallbackTier : Tier}
    {result : Except BrokerError Outcome}
    (h : Tier.Ends w now settings r s among claimTier fallbackTier (result.map some) s') :
    (∃ a, s.First (r.Ready among) a ∧
        ClaimEnds w now settings r.request s a.id claimTier result s') ∨
      ∃ a missing, (∀ b, ¬ r.Ready among b) ∧ s.First among a ∧ r.Lacks a missing ∧
        result = .ok (.installPackages missing fallbackTier) ∧ s' = s := by
  generalize hresult : result.map some = found at h
  cases h with
  | @claims a other s' hfirst hclaim =>
      have hsame : result = other := by
        cases result <;> cases other <;> cases hresult <;> rfl
      exact .inl ⟨a, hfirst, hsame ▸ hclaim⟩
  | @lacks a missing hnone hfirst hlacks =>
      refine .inr ⟨a, missing, hnone, hfirst, hlacks, ?_, rfl⟩
      cases result <;> cases hresult
      rfl
  | passes => cases result <;> cases hresult

/-! ## The whole request -/

theorem remote_ends {result : Except BrokerError Outcome} (hnone : ∀ b, ¬ r.AtSite s b)
    (h : (tryRemote settings r >>= fun found =>
      match found with
      | some outcome => return outcome
      | none => do
          ask (.setQueueStatus r.request.ce r.request.site noMatchStatus)
          return .nothingToRun .noCandidate).run.Yields (w.moment now) s result s') :
    SearchEnds w now settings r s result s' := by
  rcases yields_attempt_bind.mp h with ⟨found, s₁, helse, hrest⟩ | ⟨e, helse, rfl⟩
  · replace helse := tryRemote_ends helse
    cases found with
    | some outcome =>
        obtain ⟨rfl, rfl⟩ := hrest
        exact .elsewhere hnone helse
    | none =>
        obtain ⟨rfl, hnowhere⟩ := helse.passed
        obtain ⟨rfl, rfl⟩ := (yields_ask_bind rfl).mp hrest
        exact .nowhere hnone hnowhere
  · exact .elsewhere hnone (tryRemote_ends helse)

theorem searchTiers_ends {result : Except BrokerError Outcome}
    (h : (searchTiers settings r).run.Yields (w.moment now) s result s') :
    SearchEnds w now settings r s result s' := by
  unfold searchTiers at h
  rcases yields_attempt_bind.mp h with ⟨found, s₁, hhere, hrest⟩ | ⟨e, hhere, rfl⟩
  · replace hhere := tryTier_ends r.localFilter_eq hhere
    cases found with
    | some outcome =>
        obtain ⟨rfl, rfl⟩ := hrest
        exact .here hhere
    | none =>
        obtain ⟨rfl, hnone⟩ := hhere.passed
        exact remote_ends hnone hrest
  · exact .here (tryTier_ends r.localFilter_eq hhere)

theorem findWork_course {result : Except BrokerError Outcome}
    (h : (findWork settings request).run.Yields (w.moment now) s result s') :
    Course w now settings request s result s' := by
  unfold findWork at h
  cases hflaw : request.flaw? with
  | some flaw =>
      rw [hflaw] at h
      obtain ⟨rfl, rfl⟩ := h
      exact .refused hflaw
  | none =>
      rw [hflaw] at h
      replace h := (yields_ask_bind rfl).mp h
      split at h
      · next hblocked =>
        obtain ⟨rfl, rfl⟩ := h
        exact .blocked hflaw hblocked
      · next hopen =>
        replace hopen := Bool.eq_false_of_not_eq_true hopen
        obtain ⟨answer, s₁, ⟨hlookup, rfl⟩, hrest⟩ := h
        cases answer with
        | ok requirements => exact .searched hflaw hopen hlookup (searchTiers_ends hrest)
        | error e =>
            obtain ⟨rfl, rfl⟩ := hrest
            exact .unknownSite hflaw hopen hlookup

theorem matchJob_course {result : Except BrokerError Outcome}
    (h : (matchJob settings request).Yields (w.moment now) s result s') :
    Course w now settings request s result s' := by
  obtain ⟨_, s₁, hstart, hrest⟩ := Program.yields_bind.mp h
  obtain rfl := Program.yields_perform.mp hstart
  obtain ⟨answer, s₂, hwork, hnotes⟩ := Program.yields_bind.mp hrest
  -- clocks and notes leave the answer and the store alone
  obtain ⟨_, s₃, rfl, _, s₄, rfl, rfl, rfl⟩ := hnotes
  exact findWork_course hwork

end Courses

end GridQueue.Matching
