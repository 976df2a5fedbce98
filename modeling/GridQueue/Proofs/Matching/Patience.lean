/-
# `GridQueue.Proofs.Matching.Patience` — how long work is kept for its site

Work that agents of other sites may run is due to them when its timeout is
over (`Aggregate.Due`).  The look-ups in memory count the time since an
agent of the site came in whole seconds, rounded toward zero:

| the last agent came | a timeout is met                             |
| :------------------ | :------------------------------------------- |
| now or before       | just if it is over                           |
| at a time to come   | if it is over, or no more than zero and over |
|                     | in less than a second (`Aggregate.Rushed`)   |

So nothing that is due is refused, and what is given to agents of other
sites is due or rushed.  The second happens only where the clock of the
broker is behind.
-/
import GridQueue.Proofs.Matching.Admission

namespace GridQueue

/-! ## Timeouts -/

namespace Aggregate

/-- When agents of other sites may come. -/
def due (a : Aggregate) (defaultTimeout : Int) : Instant :=
  ⟨a.idleSince.nanos + a.remoteTimeout.getD defaultTimeout * 1000000000, false⟩

/-- The timeout is over, to the resolution of the clock. -/
def Due (a : Aggregate) (now : Instant) (defaultTimeout : Int) : Prop :=
  ¬ now.before (a.due defaultTimeout)

/-- The timeout is no time at all, and still not over, but for less than a
second. -/
structure Rushed (a : Aggregate) (now : Instant) (defaultTimeout : Int) : Prop where
  timeout : a.remoteTimeout.getD defaultTimeout ≤ 0
  early : now.before (a.due defaultTimeout)
  soon : (a.due defaultTimeout).nanos < now.nanos + 1000000000

variable {a : Aggregate} {now : Instant} {defaultTimeout : Int}

theorem due_iff : a.Due now defaultTimeout ↔
    a.idleSince.nanos + a.remoteTimeout.getD defaultTimeout * 1000000000 ≤ now.nanos :=
  Int.not_lt

theorem rushed_iff : a.Rushed now defaultTimeout ↔ a.remoteTimeout.getD defaultTimeout ≤ 0 ∧
    now.nanos < a.idleSince.nanos + a.remoteTimeout.getD defaultTimeout * 1000000000 ∧
    a.idleSince.nanos + a.remoteTimeout.getD defaultTimeout * 1000000000 <
      now.nanos + 1000000000 :=
  ⟨fun h => ⟨h.timeout, h.early, h.soon⟩,
    fun ⟨htimeout, hearly, hsoon⟩ => ⟨htimeout, hearly, hsoon⟩⟩

theorem idleLongEnough_iff_due :
    a.idleLongEnough now defaultTimeout = true ↔
      a.Due now defaultTimeout ∨ a.Rushed now defaultTimeout := by
  rw [idleLongEnough, decide_eq_true_iff, due_iff, rushed_iff, Instant.since]
  rcases Int.le_total a.idleSince.nanos now.nanos with hle | hle
  · rw [Int.tdiv_eq_ediv_of_nonneg (by omega)]
    omega
  · -- seconds to come are rounded like those that passed
    have hneg : (now.nanos - a.idleSince.nanos).tdiv 1000000000 =
        -((a.idleSince.nanos - now.nanos) / 1000000000) := by
      rw [← Int.neg_sub, Int.neg_tdiv, Int.tdiv_eq_ediv_of_nonneg (by omega)]
    rw [hneg]
    omega

end Aggregate

/-! ## Work for agents of other sites -/

namespace Matching

section Patience

variable {w : Surroundings} {now : Instant} {settings : BrokerSettings} {request : Request}
  {r : Resolved} {s s' : Store} {timeout : Int} {a : Aggregate}

/-- Work is left to agents of other sites just if it would do but for the
time, allows them, and is due or rushed. -/
theorem Resolved.elsewhere_iff_due :
    r.Elsewhere s now timeout a ↔
      r.request.acceptsRemote = true ∧ s.Offers (r.baseFilter .ignore) a ∧
        a.remoteAllowed = true ∧ (a.Due now timeout ∨ a.Rushed now timeout) := by
  have haccepts : (r.remoteFilter .ignore now timeout).accepts a =
      ((r.baseFilter .ignore).accepts a &&
        (a.remoteAllowed && a.idleLongEnough now timeout)) := by
    change (_ && _) = ((_ && true) && _)
    rw [Bool.and_true]
    rfl
  rw [Resolved.Elsewhere, Store.Offers, Store.Offers, haccepts, Bool.and_eq_true, Bool.and_eq_true,
    Aggregate.idleLongEnough_iff_due]
  tauto

theorem SearchEnds.remote {job : AssignedJob}
    (h : SearchEnds w now settings r s (.ok (.assigned job)) s') (htier : job.tier = .remote) :
    ∃ a, s.First (r.Ready (r.Elsewhere s now settings.remoteTimeout)) a ∧
      job.jobId ∈ s.waitingIds a.id := by
  cases h with
  | here hends =>
      obtain ⟨a, -, hfull, -⟩ := Tier.Ends.assigned hends
      rw [htier] at hfull
      cases hfull
  | elsewhere _ hends =>
      rcases hends.settled with ⟨a, hfirst, hclaim⟩ | ⟨_, _, -, -, -, hresult, -⟩
      · exact ⟨a, hfirst, hclaim.assigned.2⟩
      · cases hresult

theorem SearchEnds.remoteFallback {missing : List String}
    (h : SearchEnds w now settings r s (.ok (.installPackages missing .remotePackageFallback)) s') :
    ∃ a, s.First (r.Elsewhere s now settings.remoteTimeout) a ∧ r.Lacks a missing := by
  have hclaims {request : Request} {id : Int} {tier : Tier} :
      ¬ ClaimEnds w now settings request s id tier
        (.ok (.installPackages missing .remotePackageFallback)) s' := nofun
  cases h with
  | here hends =>
      rcases hends.settled with ⟨_, _, hclaim⟩ | ⟨_, _, -, -, -, hresult, -⟩
      · exact absurd hclaim hclaims
      · cases hresult
  | elsewhere _ hends =>
      rcases hends.settled with ⟨_, _, hclaim⟩ | ⟨a, _, -, hfirst, hlacks, hresult, -⟩
      · exact absurd hclaim hclaims
      · cases hresult
        exact ⟨a, hfirst, hlacks⟩

theorem SearchEnds.noCandidate
    (h : SearchEnds w now settings r s (.ok (.nothingToRun .noCandidate)) s') :
    ∀ a, ¬ r.Elsewhere s now settings.remoteTimeout a := by
  have hclaims {request : Request} {id : Int} {tier : Tier} :
      ¬ ClaimEnds w now settings request s id tier (.ok (.nothingToRun .noCandidate)) s' := nofun
  cases h with
  | nowhere _ hnone => exact hnone
  | here hends | elsewhere _ hends =>
      rcases hends.settled with ⟨_, _, hclaim⟩ | ⟨_, _, -, -, -, hresult, -⟩
      · exact absurd hclaim hclaims
      · cases hresult

theorem search_of_yields {outcome : Outcome}
    (h : (matchJob settings request).Yields (w.moment now) s (.ok outcome) s')
    (hopen : outcome ≠ .nothingToRun .queueBlocked) :
    ∃ requirements, w.lookup request.ce request.site (.ok requirements) ∧
      SearchEnds w now settings (.of request requirements) s (.ok outcome) s' := by
  cases matchJob_course h with
  | blocked => exact absurd rfl hopen
  | searched _ _ hlookup hsearch => exact ⟨_, hlookup, hsearch⟩

/-- What a request that is served alone is given at the remote tier, and
what it is asked to install for there, is of the first aggregate of its
class.  This one allows agents of other sites, and its timeout is over or
else rushed.  Where nothing is found there is no aggregate that would do
and is due: none is refused for its time. -/
theorem remote_work_waits_for_timeout
    (w : Surroundings) (now : Instant) (settings : BrokerSettings) (request : Request) (s : Store) :
    (∀ job s', (matchJob settings request).Yields (w.moment now) s (.ok (.assigned job)) s' →
      job.tier = .remote →
        ∃ requirements a, w.lookup request.ce request.site (.ok requirements) ∧
          let r := Resolved.of request requirements
          s.First (r.Ready (r.Elsewhere s now settings.remoteTimeout)) a ∧
            job.jobId ∈ s.waitingIds a.id ∧ a.remoteAllowed = true ∧
            (a.Due now settings.remoteTimeout ∨ a.Rushed now settings.remoteTimeout)) ∧
      (∀ missing s', (matchJob settings request).Yields (w.moment now) s
          (.ok (.installPackages missing .remotePackageFallback)) s' →
        ∃ requirements a, w.lookup request.ce request.site (.ok requirements) ∧
          let r := Resolved.of request requirements
          s.First (r.Elsewhere s now settings.remoteTimeout) a ∧ r.Lacks a missing ∧
            a.remoteAllowed = true ∧
            (a.Due now settings.remoteTimeout ∨ a.Rushed now settings.remoteTimeout)) ∧
      (∀ s', (matchJob settings request).Yields (w.moment now) s
          (.ok (.nothingToRun .noCandidate)) s' →
        ∃ requirements, w.lookup request.ce request.site (.ok requirements) ∧
          ∀ a, request.acceptsRemote = true →
            s.Offers ((Resolved.of request requirements).baseFilter .ignore) a →
              a.remoteAllowed = true → ¬ a.Due now settings.remoteTimeout) ∧
      ∀ a : Aggregate, a.Due now settings.remoteTimeout →
        a.idleLongEnough now settings.remoteTimeout = true := by
  refine ⟨?_, ?_, ?_, fun a hdue => Aggregate.idleLongEnough_iff_due.mpr (.inl hdue)⟩
  · intro job s' h htier
    obtain ⟨requirements, hlookup, hsearch⟩ := search_of_yields h nofun
    obtain ⟨a, hfirst, hjob⟩ := hsearch.remote htier
    obtain ⟨-, -, hallowed, htime⟩ := Resolved.elsewhere_iff_due.mp hfirst.mem.1
    exact ⟨requirements, a, hlookup, hfirst, hjob, hallowed, htime⟩
  · intro missing s' h
    obtain ⟨requirements, hlookup, hsearch⟩ := search_of_yields h nofun
    obtain ⟨a, hfirst, hlacks⟩ := hsearch.remoteFallback
    obtain ⟨-, -, hallowed, htime⟩ := Resolved.elsewhere_iff_due.mp hfirst.mem
    exact ⟨requirements, a, hlookup, hfirst, hlacks, hallowed, htime⟩
  · intro s' h
    obtain ⟨requirements, hlookup, hsearch⟩ := search_of_yields h nofun
    refine ⟨requirements, hlookup, fun a haccepts hoffers hallowed hdue => ?_⟩
    exact hsearch.noCandidate a
      (Resolved.elsewhere_iff_due.mpr ⟨haccepts, hoffers, hallowed, .inl hdue⟩)

/-- Work for another site that agents of all sites may run so many seconds
after the last one of its own came. -/
def workElsewhere (timeout : Int) (idleSince : Instant) : Store :=
  (storeOfOne 7 1).insertAggregate
    { openAggregate 1 1 with
      sites := ["elsewhere"]
      remoteAllowed := true
      remoteTimeout := some timeout
      idleSince }

/-- At the very instant at which a minute is over, the work is due. -/
theorem remote_work_waits_for_timeout_of_minute :
    let s := workElsewhere 60 ⟨-60000000000, false⟩
    (generousPartners.serve (matchJob {} agentRequest) s).1 =
        .ok (.assigned (firstHandOut 7 .remote)) ∧
      ∃ a : Aggregate, 7 ∈ s.waitingIds a.id ∧ a.remoteAllowed = true ∧
        (a.Due ⟨0, false⟩ 43200 ∨ a.Rushed ⟨0, false⟩ 43200) := by
  intro s
  have hserved : (generousPartners.serve (matchJob {} agentRequest) s).1 =
      .ok (.assigned (firstHandOut 7 .remote)) := by decide +kernel
  have hrun := generousPartners.yields_serve (matchJob {} agentRequest) s
  rw [hserved] at hrun
  obtain ⟨_, a, -, -, hjob, hallowed, htime⟩ :=
    (remote_work_waits_for_timeout _ _ {} agentRequest s).1 _ _ hrun rfl
  exact ⟨hserved, a, hjob, hallowed, htime⟩

/-- Work that an agent of its own site came for half a second from now is
given away, though no aggregate there is due. -/
theorem rushed_work_is_given_away :
    let s := workElsewhere 0 ⟨500000000, false⟩
    (generousPartners.serve (matchJob {} agentRequest) s).1 =
        .ok (.assigned (firstHandOut 7 .remote)) ∧
      ∀ a ∈ s.aggregates.values, a.remoteAllowed = true ∧ ¬ a.Due generousPartners.now 43200 := by
  intro s
  refine ⟨by decide +kernel, fun a ha => ?_⟩
  rw [List.mem_singleton.mp ha, Aggregate.due_iff]
  exact ⟨rfl, by decide⟩

end Patience

end Matching

end GridQueue
