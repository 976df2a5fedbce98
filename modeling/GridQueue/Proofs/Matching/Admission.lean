/-
# `GridQueue.Proofs.Matching.Admission` — whose jobs an agent gets

The tiers look for work with two filters that have a part in common: what
the site and the agent ask of any aggregate (`Admits`).  The local filter
alone knows of computing elements and partitions, and with it goes what an
aggregate keeps away from (`KeepsAway`); the remote one asks instead
whether the aggregate was left alone for long enough (`LeftAlone`).

A job that is handed out is of an aggregate that meets the common part and
that of its tier.  So an aggregate is kept away from a computing element
as long as it is not given to agents of other sites.

The common part is read off the filter and the record of the owner at the
time of the look-up.  The claim comes later, but the request runs alone, so
the row it claims from is the one that was looked up
(`ClaimEnds.assigned`).  `excluded_element_gets_remote_job` is a hand-out
to a computing element that the aggregate keeps away from, by the remote
filter.
-/
import GridQueue.Proofs.Matching.Course

namespace GridQueue.Matching

/-! ## What is asked of an aggregate -/

/-- What is asked of an aggregate at any tier. -/
structure Admits (request : Request) (requirements : Site.Requirements) (s : Store)
    (a : Aggregate) : Prop where
  allowed : requirements.allowedUsers = [] ∨ a.user ∈ requirements.allowedUsers
  notDenied : a.user ∉ requirements.deniedUsers
  ttl : a.ttl ≤ request.ttl
  disk : a.disk ≤ request.disk
  notExcluded : ∀ record, s.records.get? a.user = some record → record.isExcluded = false

/-- The computing element and the partitions are none that the aggregate
excludes.  The directory names the partitions, or else the agent. -/
structure KeepsAway (request : Request) (requirements : Site.Requirements) (a : Aggregate) :
    Prop where
  ce : request.ce ∉ a.excludedCes
  partitions : ∀ named, requirements.partition.or request.partition = some named →
    ∀ p ∈ Matching.partitions named, p ∉ a.excludedPartitions

/-- Agents of other sites may come, and the last one of this site came too
long ago, in seconds with the fraction left out. -/
structure LeftAlone (request : Request) (now : Instant) (defaultTimeout : Int) (a : Aggregate) :
    Prop where
  accepts : request.acceptsRemote = true
  allowed : a.remoteAllowed = true
  idle : a.remoteTimeout.getD defaultTimeout ≤ (now.since a.idleSince).tdiv 1000000000

/-! ## What the filters ask -/

section Filter

variable {f : Filter} {a : Aggregate}

theorem Filter.accepts_iff :
    f.accepts a = true ↔
      0 < a.counter ∧ a.ttl ≤ f.ttl ∧ a.disk ≤ f.disk ∧ (∀ ce, f.ce = some ce → a.acceptsCe ce) ∧
        (∀ site, f.site = some site → a.acceptsSite site f.extraSites) ∧
        (∀ ps, f.partitions = some ps → a.acceptsPartitions ps) ∧ f.acceptsUser a.user ∧
        f.packages.accepts a.packages ∧
        ∀ r, f.remote = some r → a.remoteAllowed ∧ a.idleLongEnough r.now r.defaultTimeout := by
  simp only [Filter.accepts, Bool.and_eq_true, decide_eq_true_eq, Option.all_eq_true, and_assoc]

theorem Filter.acceptsUser_iff {user : String} :
    f.acceptsUser user = true ↔
      (f.allowedUsers = [] ∨ user ∈ f.allowedUsers) ∧ user ∉ f.deniedUsers := by
  simp [Filter.acceptsUser]

end Filter

section Admission

variable {w : Surroundings} {now : Instant} {settings : BrokerSettings} {request : Request}
  {requirements : Site.Requirements} {s s' : Store} {a : Aggregate} {job : AssignedJob}

theorem admits_of_offers {f : Filter} (hf : f.ttl = request.ttl ∧ f.disk = request.disk ∧
      f.allowedUsers = requirements.allowedUsers ∧ f.deniedUsers = requirements.deniedUsers)
    (h : s.Offers f a) : Admits request requirements s a := by
  obtain ⟨httl, hdisk, hallowed, hdenied⟩ := hf
  obtain ⟨-, haccepts, hexcluded⟩ := h
  obtain ⟨-, hfttl, hfdisk, -, -, -, huser, -⟩ := Filter.accepts_iff.mp haccepts
  obtain ⟨hin, hout⟩ := Filter.acceptsUser_iff.mp huser
  refine ⟨hallowed ▸ hin, hdenied ▸ hout, httl ▸ hfttl, hdisk ▸ hfdisk, ?_⟩
  intro record hrecord
  exact Bool.eq_false_iff.mpr fun he => hexcluded ⟨record, hrecord, he⟩

theorem admits_of_atSite (h : (Resolved.of request requirements).AtSite s a) :
    Admits request requirements s a :=
  admits_of_offers ⟨rfl, rfl, rfl, rfl⟩ h

theorem admits_of_elsewhere {timeout : Int}
    (h : (Resolved.of request requirements).Elsewhere s now timeout a) :
    Admits request requirements s a :=
  admits_of_offers ⟨rfl, rfl, rfl, rfl⟩ h.2

theorem keepsAway_of_atSite (h : (Resolved.of request requirements).AtSite s a) :
    KeepsAway request requirements a := by
  obtain ⟨-, -, -, hce, -, hpartitions, -⟩ := Filter.accepts_iff.mp h.2.1
  constructor
  · have haccepts := hce _ rfl
    simp only [Aggregate.acceptsCe, Bool.and_eq_true, Bool.not_eq_true',
      List.contains_eq_mem, decide_eq_false_iff_not] at haccepts
    exact haccepts.2
  · intro named hnamed p hp hmem
    have haccepts := hpartitions _ rfl
    rw [Resolved.of, hnamed] at haccepts
    simp only [Aggregate.acceptsPartitions, Bool.and_eq_true, Bool.not_eq_true', List.any_eq_false,
      List.contains_eq_mem, decide_eq_true_eq] at haccepts
    exact haccepts.2 p hp hmem

theorem leftAlone_of_elsewhere {timeout : Int}
    (h : (Resolved.of request requirements).Elsewhere s now timeout a) :
    LeftAlone request now timeout a := by
  obtain ⟨haccepts, -, hremote, -⟩ := h
  obtain ⟨-, -, -, -, -, -, -, -, hopen⟩ := Filter.accepts_iff.mp hremote
  obtain ⟨hallowed, hidle⟩ := hopen _ rfl
  exact ⟨haccepts, hallowed, of_decide_eq_true hidle⟩

/-! ## Jobs that are handed out -/

theorem ClaimEnds.assigned {aggregateId : Int} {tier : Tier}
    (h : ClaimEnds w now settings request s aggregateId tier (.ok (.assigned job)) s') :
    job.tier = tier ∧ job.jobId ∈ s.waitingIds aggregateId := by
  cases h with
  | delivered hclaim hissue => exact ⟨rfl, (Store.waitingIds_claimWaiting hclaim aggregateId).1⟩

theorem Tier.Ends.assigned {r : Resolved} {among : Aggregate → Prop} {claimTier fallbackTier : Tier}
    (h : Tier.Ends w now settings r s among claimTier fallbackTier (.ok (some (.assigned job))) s') :
    ∃ a, among a ∧ job.tier = claimTier ∧ job.jobId ∈ s.waitingIds a.id := by
  have hends : Tier.Ends w now settings r s among claimTier fallbackTier
      (Except.map some (.ok (.assigned job))) s' := h
  rcases hends.settled with ⟨a, hfirst, hclaim⟩ | ⟨a, missing, -, -, -, hresult, -⟩
  · exact ⟨a, hfirst.mem.1, hclaim.assigned⟩
  · cases hresult

/-- A job that is handed out is of an aggregate that meets what is asked
at every tier and, unless agents of other sites may come for it, keeps away
from what it excludes. -/
theorem handed_out_jobs_are_admitted
    (h : (matchJob settings request).Yields (w.moment now) s (.ok (.assigned job)) s') :
    ∃ requirements a, w.lookup request.ce request.site (.ok requirements) ∧
      a ∈ s.aggregates.values ∧ job.jobId ∈ s.waitingIds a.id ∧
      Admits request requirements s a ∧
      (job.tier.isRemote = false → KeepsAway request requirements a) ∧
      (job.tier.isRemote = true → LeftAlone request now settings.remoteTimeout a) := by
  cases matchJob_course h with
  | @searched requirements _ _ _ _ hlookup hsearch =>
      cases hsearch with
      | here htier =>
          obtain ⟨a, ha, htier, hjob⟩ := Tier.Ends.assigned htier
          refine ⟨requirements, a, hlookup, ha.1, hjob, admits_of_atSite ha,
            fun _ => keepsAway_of_atSite ha, fun hremote => ?_⟩
          rw [htier] at hremote
          cases hremote
      | elsewhere _ htier =>
          obtain ⟨a, ha, htier, hjob⟩ := Tier.Ends.assigned htier
          refine ⟨requirements, a, hlookup, ha.2.1, hjob, admits_of_elsewhere ha,
            fun hlocal => ?_, fun _ => leftAlone_of_elsewhere ha⟩
          rw [htier] at hlocal
          cases hlocal

/-- An aggregate that may run anywhere but at one computing element and in
one partition, and need not wait for an agent of its own site. -/
def choosyAggregate (ce partition : String) : Aggregate :=
  { openAggregate 1 1 with
    excludedCes := [ce]
    excludedPartitions := [partition]
    remoteAllowed := true
    remoteTimeout := some 0 }

/-- An agent of another computing element and partition gets the job. -/
theorem handed_out_jobs_are_admitted_in_partition :
    let request := { agentRequest with partition := some "cpu" }
    let s := (storeOfOne 7 1).insertAggregate (choosyAggregate "other" "gpu")
    (generousPartners.serve (matchJob {} request) s).1 = .ok (.assigned (firstHandOut 7 .full)) ∧
      ∃ a, a ∈ s.aggregates.values ∧ 7 ∈ s.waitingIds a.id ∧ Admits request {} s a ∧
        KeepsAway request {} a := by
  intro request s
  have hserved : (generousPartners.serve (matchJob {} request) s).1 =
      .ok (.assigned (firstHandOut 7 .full)) := by decide +kernel
  have hrun := generousPartners.yields_serve (matchJob {} request) s
  rw [hserved] at hrun
  obtain ⟨requirements, a, hlookup, ha, hjob, hadmits, haway, -⟩ :=
    handed_out_jobs_are_admitted hrun
  obtain rfl : requirements = {} := Except.ok.inj hlookup
  exact ⟨hserved, a, ha, hjob, hadmits, haway rfl⟩

/-- At the remote tier computing elements do not matter: the job is handed
out to the one that its aggregate excludes. -/
theorem excluded_element_gets_remote_job :
    let s := (storeOfOne 7 1).insertAggregate (choosyAggregate "ce" "gpu")
    (generousPartners.serve (matchJob {} agentRequest) s).1 =
        .ok (.assigned (firstHandOut 7 .remote)) ∧
      s.aggregates.get? 1 = some (choosyAggregate "ce" "gpu") ∧ 7 ∈ s.waitingIds 1 ∧
      agentRequest.ce ∈ (choosyAggregate "ce" "gpu").excludedCes := by
  exact ⟨by decide +kernel, rfl, by decide +kernel, by decide +kernel⟩

end Admission

end GridQueue.Matching
