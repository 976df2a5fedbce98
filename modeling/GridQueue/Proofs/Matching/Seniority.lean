/-
# `GridQueue.Proofs.Matching.Seniority` — who comes first among equals

Of aggregates that rank alike the one with the older oldest job comes
first.  Which job that is stands in the row of the aggregate.  A claim
takes the job that is named there, and leaves the name:

    aggregate        1          2
    named, waiting   1 | 1 5    3 | 3
    a request        1 |   5    3 | 3
    another one      1 |        3 | 3

So an aggregate keeps the rank of its first job from then on, and job 5
goes before job 3.  `Senior` is what remains true of a row over a
sequence of requests: the job it names is at least as old as all that
wait, and is one of them until a job of the aggregate is handed out.
-/
import GridQueue.Proofs.Matching.Draining

namespace GridQueue

open Matching

namespace Store

variable {s : Store}

/-- The rows of aggregates are up to date: one that stands for jobs says
how many wait, and names the oldest of them. -/
def UpToDate (s : Store) : Prop :=
  ∀ a ∈ s.aggregates.values, 0 < a.counter →
    a.counter = (s.waitingIds a.id).length ∧ a.oldestJob ∈ s.waitingIds a.id ∧
      ∀ id ∈ s.waitingIds a.id, a.oldestJob ≤ id

instance (s : Store) : Decidable s.UpToDate := inferInstanceAs (Decidable (∀ _ ∈ _, _ → _))

end Store

namespace Matching

/-! ## Equals -/

theorem Candidate.oldestJob_le_of_precedes {c d : Candidate} (h : c.Precedes d)
    (hweight : FloatOrder.cmp c.weight d.weight = .eq)
    (hprice : FloatOrder.cmp c.aggregate.price d.aggregate.price = .eq) :
    c.aggregate.oldestJob ≤ d.aggregate.oldestJob := by
  have hrank : c.rank d = compare c.aggregate.oldestJob d.aggregate.oldestJob := by
    rw [FloatOrder.cmp, Std.compare_eq_iff_eq] at hweight hprice
    simp [rank, FloatOrder.cmp, hweight, hprice]
  rcases precedes_iff.mp h with hlt | ⟨heq, -⟩
  · rw [hrank, Int.compare_eq_lt] at hlt
    exact Int.le_of_lt hlt
  · rw [hrank, Std.compare_eq_iff_eq] at heq
    exact Int.le_of_eq heq

/-- The aggregates among which a tier looks, whatever packages they need. -/
def Resolved.classAt (r : Resolved) (s : Store) (now : Instant) (timeout : Int) (tier : Tier) :
    Aggregate → Prop :=
  if tier.isRemote then r.Elsewhere s now timeout else r.AtSite s

theorem Resolved.mem_of_classAt {r : Resolved} {s : Store} {now : Instant} {timeout : Int}
    {tier : Tier} {a : Aggregate} (h : r.classAt s now timeout tier a) :
    a ∈ s.aggregates.values ∧ 0 < a.counter := by
  unfold classAt at h
  split at h
  · exact ⟨h.2.1, Filter.counter_pos h.2.2.1⟩
  · exact ⟨h.1, Filter.counter_pos h.2.1⟩

/-! ## One request -/

/-- A request, the time it comes, and what the directory says of its site. -/
structure Visit where
  settings : BrokerSettings
  request : Request
  now : Instant
  directory : Except DirectoryError Site.Requirements

namespace Visit

/-- There is a token for every job. -/
def surroundings (v : Visit) : Surroundings where
  mayFail _ := False
  foreignTraces := False
  lookup _ _ answer := answer = v.directory
  issue _ answer := ∃ token, answer = .ok token
  revoke _ _ := True

/-- The request is served alone, and ends so. -/
def Ends (v : Visit) (s : Store) (answer : Except BrokerError Outcome) (s' : Store) : Prop :=
  (matchJob v.settings v.request).Yields (v.surroundings.moment v.now) s answer s'

/-- A job of an aggregate was taken for the visitor, who gets it. -/
structure Gets (v : Visit) (s : Store) (among : Aggregate → Prop) (a : Aggregate)
    (job : AssignedJob) (s' : Store) : Prop where
  first : s.First among a
  head : (s.waitingIds a.id).head? = some job.jobId
  takes : ∃ j, j.id = job.jobId ∧
    Takes v.request v.now (!job.tier.isRemote) .assigned job.resubmission j a s s'

section Step

variable {v : Visit} {s s' : Store} {answer : Except BrokerError Outcome} {a : Aggregate}
  {among : Aggregate → Prop} {tier : Tier}

theorem gets_of_claimEnds (hfirst : s.First among a) (hmem : a ∈ s.aggregates.values)
    (h : ClaimEnds v.surroundings v.now v.settings v.request s a.id tier answer s') :
    answer = .ok (.nothingToRun .claimConflict) ∧ s' = s ∨
      ∃ job, answer = .ok (.assigned job) ∧ job.tier = tier ∧ v.Gets s among a job s' := by
  cases h with
  | lost => exact .inl ⟨rfl, rfl⟩
  | undone _ hissue =>
      obtain ⟨token, htoken⟩ := hissue
      cases htoken
  | delivered hclaim =>
      have hrow := s.aggregatesKeyed.mem_values.mp hmem
      obtain ⟨j, hid, -, hhead, htakes, -⟩ := takes_of_claimWaiting (!tier.isRemote) hrow hclaim
      exact .inr ⟨_, rfl, rfl, hfirst, hhead.trans (congrArg some hid), j, hid, { htakes with }⟩

/-- Jobs and aggregates stay as they are, or a job of the first aggregate
among which a tier looks is handed out. -/
def Effect (v : Visit) (s : Store) (answer : Except BrokerError Outcome) (s' : Store) : Prop :=
  ((∀ job, answer ≠ .ok (.assigned job)) ∧ s'.jobs = s.jobs ∧ s'.aggregates = s.aggregates) ∨
    ∃ job a requirements, answer = .ok (.assigned job) ∧ v.directory = .ok requirements ∧
      v.Gets s ((Resolved.of v.request requirements).Ready ((Resolved.of v.request
        requirements).classAt s v.now v.settings.remoteTimeout job.tier)) a job s'

theorem effect_of_tierEnds {requirements : Site.Requirements} (tier : Tier) {fallback : Tier}
    (hdirectory : v.directory = .ok requirements)
    (h : Tier.Ends v.surroundings v.now v.settings (.of v.request requirements) s
      ((Resolved.of v.request requirements).classAt s v.now v.settings.remoteTimeout tier)
      tier fallback (answer.map some) s') :
    v.Effect s answer s' := by
  rcases h.settled with ⟨a, hfirst, hclaim⟩ | ⟨a, missing, -, -, -, rfl, rfl⟩
  · have hmem := (Resolved.mem_of_classAt hfirst.mem.1).1
    rcases gets_of_claimEnds hfirst hmem hclaim with ⟨rfl, rfl⟩ | ⟨job, rfl, rfl, hgets⟩
    · exact .inl ⟨nofun, rfl, rfl⟩
    · exact .inr ⟨job, a, requirements, rfl, hdirectory, hgets⟩
  · exact .inl ⟨nofun, rfl, rfl⟩

theorem Ends.effect (h : v.Ends s answer s') : v.Effect s answer s' := by
  cases matchJob_course h with
  | refused => exact .inl ⟨nofun, rfl, rfl⟩
  | blocked => exact .inl ⟨nofun, rfl, rfl⟩
  | unknownSite => exact .inl ⟨nofun, rfl, rfl⟩
  | searched _ _ hlookup hsearch =>
      cases hsearch with
      | here htier => exact effect_of_tierEnds .full hlookup.symm htier
      | elsewhere _ htier => exact effect_of_tierEnds .remote hlookup.symm htier
      | nowhere => exact .inl ⟨nofun, rfl, rfl⟩

end Step

end Visit

/-! ## One request after another -/

/-- A visit in the log: the store it found, and the answer. -/
structure Round where
  before : Store
  answer : Except BrokerError Outcome

/-- Visits one after another, oldest first. -/
inductive Rounds (s : Store) : List Round → Store → Prop
  | start : Rounds s [] s
  | visit {log s₁ answer s₂} {v : Visit} : Rounds s log s₁ → v.Ends s₁ answer s₂ →
      Rounds s (log ++ [⟨s₁, answer⟩]) s₂

/-- A job that waited in the aggregate was handed out. -/
def Round.HandsOut (round : Round) (id : Int) : Prop :=
  ∃ job, round.answer = .ok (.assigned job) ∧ job.jobId ∈ round.before.waitingIds id

/-- A job of the aggregate was handed out in one of the rounds. -/
def HandsOut (log : List Round) (id : Int) : Prop := ∃ round ∈ log, round.HandsOut id

theorem handsOut_append {log : List Round} {round : Round} {id : Int} :
    HandsOut (log ++ [round]) id ↔ HandsOut log id ∨ round.HandsOut id := by
  simp only [HandsOut, List.mem_append, List.mem_singleton, or_and_right, exists_or,
    exists_eq_left]

/-- What the row of an aggregate says after some rounds. -/
structure Senior (log : List Round) (s : Store) (a : Aggregate) : Prop where
  count : a.counter = (s.waitingIds a.id).length
  least : ∀ id ∈ s.waitingIds a.id, a.oldestJob ≤ id
  waits_iff : a.oldestJob ∈ s.waitingIds a.id ↔ ¬ HandsOut log a.id

namespace Senior

variable {log : List Round} {s s' : Store} {v : Visit} {a : Aggregate} {j : Job} {isLocal : Bool}
  {round : Round}

/-- While no job of it is handed out a row stays as true as it was. -/
theorem keep (h : Senior log s a) (hwaiting : s'.waitingIds a.id = s.waitingIds a.id)
    (hround : ¬ round.HandsOut a.id) : Senior (log ++ [round]) s' a := by
  refine ⟨?_, ?_, ?_⟩
  · rw [hwaiting]
    exact h.count
  · rw [hwaiting]
    exact h.least
  · rw [hwaiting, handsOut_append, or_iff_left hround]
    exact h.waits_iff

/-- Once a job is handed out, the one that is named does not wait. -/
theorem take {number : Int} (h : Senior log s a)
    (htakes : Takes v.request v.now isLocal .assigned number j a s s')
    (hhead : (s.waitingIds a.id).head? = some j.id) (hround : round.HandsOut a.id) :
    Senior (log ++ [round]) s' (Takes.counted a isLocal v.now) := by
  obtain ⟨ids, hids⟩ := List.head?_eq_some_iff.mp hhead
  have hids' : s'.waitingIds a.id = ids := by
    rw [htakes.waitingIds_eq (by decide), hids, List.erase_cons_head]
  have hsorted := s.pairwise_waitingIds a.id
  have hcount := h.count
  have hleast := h.least
  rw [hids] at hsorted hcount hleast
  have hyounger := (List.pairwise_cons.mp hsorted).1
  refine ⟨?count, ?least, ?waits⟩
  case count =>
    change max (a.counter - 1) 0 = ((s'.waitingIds a.id).length : Int)
    rw [hids', hcount, List.length_cons]
    omega
  case least =>
    change ∀ id ∈ s'.waitingIds a.id, a.oldestJob ≤ id
    rw [hids']
    exact fun id hid => hleast id (List.mem_cons_of_mem _ hid)
  case waits =>
    change a.oldestJob ∈ s'.waitingIds a.id ↔ ¬ HandsOut (log ++ [round]) a.id
    refine iff_of_false ?_ (not_not_intro (handsOut_append.mpr (.inr hround)))
    rw [hids']
    intro hmem
    have := hyounger _ hmem
    have := hleast j.id (List.mem_cons_self ..)
    omega

end Senior

section Rounds

variable {log : List Round} {s s₁ s₂ : Store}

/-- Over any rounds the rows that were up to date stay as true as this. -/
theorem Rounds.senior (hstart : s.UpToDate) (h : Rounds s log s₁) :
    ∀ a ∈ s₁.aggregates.values, 0 < a.counter → Senior log s₁ a := by
  induction h with
  | start =>
      intro a ha hpos
      obtain ⟨hcount, hwaits, hleast⟩ := hstart a ha hpos
      exact ⟨hcount, hleast, iff_of_true hwaits (by rintro ⟨round, hround, -⟩; cases hround)⟩
  | @visit log s₁ answer s₂ v _ hends ih =>
      rcases hends.effect with ⟨hnone, hjobs, haggregates⟩ | ⟨job, a, _, rfl, -, hgets⟩
      · rw [haggregates]
        intro b hb hpos
        refine (ih b hb hpos).keep (Store.waitingIds_congr hjobs) ?_
        rintro ⟨job, hjob, -⟩
        exact hnone job hjob
      · obtain ⟨j, hid, htakes⟩ := hgets.takes
        have hhead := hid ▸ hgets.head
        have hmem : j.id ∈ s₁.waitingIds a.id := List.mem_of_mem_head? hhead
        intro b hb hpos
        rcases htakes.mem_aggregates.mp hb with rfl | ⟨hb, hne⟩
        · have hbefore : 0 < a.counter := by
            have : 0 < max (a.counter - 1) 0 := hpos
            omega
          have hrow := s₁.aggregatesKeyed.mem_values.mpr htakes.aggregate
          exact (ih a hrow hbefore).take htakes hhead ⟨job, rfl, hid ▸ hmem⟩
        · -- a job waits in one aggregate only
          have hother : j.id ∉ s₁.waitingIds b.id := fun h =>
            hne (Store.eq_of_mem_waitingIds hmem h)
          refine (ih b hb hpos).keep ?_ ?_
          · rw [htakes.waitingIds_eq (by decide), List.erase_of_not_mem hother]
          · rintro ⟨_, ⟨⟩, hmem'⟩
            exact hother (hid ▸ hmem')

/-- Among equals the aggregate that names the oldest job comes first.

Requests are served one after another, of a store in which aggregates
count their waiting jobs and name the oldest one, and there is a token for
every job.  Then a request that is assigned a job gets the first job of
the aggregate that comes first at its tier.  Every other aggregate that
the tier admits, and that has the same weight and price, has no waiting
job that is older than the one the first aggregate names; so it has none
that is older than the job that was assigned, unless a job of the first
aggregate was handed out before.

The name is never changed.  After every request the job that is named is
at least as old as all that wait, and it is one of them as long as no job
of the aggregate was handed out. -/
theorem equals_rank_by_named_job (hstart : s.UpToDate) (h : Rounds s log s₁) :
    (∀ (v : Visit) job s₂, v.Ends s₁ (.ok (.assigned job)) s₂ →
      ∃ a requirements, v.directory = .ok requirements ∧
        let r := Resolved.of v.request requirements
        let admitted := r.Ready (r.classAt s₁ v.now v.settings.remoteTimeout job.tier)
        s₁.First admitted a ∧ (s₁.waitingIds a.id).head? = some job.jobId ∧
          ∀ b, admitted b → b.id ≠ a.id →
            FloatOrder.cmp (s₁.weighed a).weight (s₁.weighed b).weight = .eq →
            FloatOrder.cmp a.price b.price = .eq →
            ∀ id ∈ s₁.waitingIds b.id,
              a.oldestJob ≤ id ∧ (¬ HandsOut log a.id → job.jobId ≤ id)) ∧
      ∀ a ∈ s₁.aggregates.values, 0 < a.counter →
        (∀ id ∈ s₁.waitingIds a.id, a.oldestJob ≤ id) ∧
          (a.oldestJob ∈ s₁.waitingIds a.id ↔ ¬ HandsOut log a.id) := by
  have hsenior := h.senior hstart
  refine ⟨?_, fun a ha hpos => ⟨(hsenior a ha hpos).least, (hsenior a ha hpos).waits_iff⟩⟩
  intro v job s₂ hends
  rcases hends.effect with ⟨hnone, -⟩ | ⟨job', a, requirements, hjob, hdirectory, hgets⟩
  · exact absurd rfl (hnone job)
  cases hjob
  refine ⟨a, requirements, hdirectory, hgets.first, hgets.head, ?_⟩
  intro b hb hne hweight hprice id hid
  obtain ⟨hmem, hpos⟩ := Resolved.mem_of_classAt hgets.first.mem.1
  obtain ⟨hmem', hpos'⟩ := Resolved.mem_of_classAt hb.1
  have hprecedes : (s₁.weighed a).Precedes (s₁.weighed b) :=
    (hgets.first.precedes b hb).resolve_left fun heq => hne (heq ▸ rfl)
  have hnamed : a.oldestJob ≤ b.oldestJob :=
    Candidate.oldestJob_le_of_precedes hprecedes hweight hprice
  have hle : a.oldestJob ≤ id := hnamed.trans ((hsenior b hmem' hpos').least id hid)
  refine ⟨hle, fun hfirst => ?_⟩
  -- the job that is named waits, and no job that waits is older than the first one
  obtain ⟨ids, hids⟩ := List.head?_eq_some_iff.mp hgets.head
  have hwaits := ((hsenior a hmem hpos).waits_iff).mpr hfirst
  have hsorted := s₁.pairwise_waitingIds a.id
  rw [hids] at hwaits hsorted
  rcases List.mem_cons.mp hwaits with heq | hlater
  · exact heq ▸ hle
  · exact (Int.le_of_lt ((List.pairwise_cons.mp hsorted).1 _ hlater)).trans hle

/-- Two aggregates of equal rank.  The first one has the oldest job and the
youngest one. -/
def storeOfTie : Store :=
  ((storeOfOne 3 2).insertJob (waitingJob 1 1)).insertJob (waitingJob 5 1)
    |>.insertAggregate { openAggregate 1 2 with oldestJob := 1 }
    |>.insertAggregate { openAggregate 2 1 with oldestJob := 3 }

/-- The agent whose requests are served, by partners that have a token for
everyone. -/
def agentVisit : Visit := ⟨{}, agentRequest, generousPartners.now, .ok {}⟩

theorem agentVisit_ends (s : Store) :
    agentVisit.Ends s (generousPartners.serve (matchJob {} agentRequest) s).1
      (generousPartners.serve (matchJob {} agentRequest) s).2 := by
  refine (generousPartners.yields_serve (matchJob {} agentRequest) s).mono ?_
  intro c s answer s' h
  cases c with
  | issue request => exact ⟨⟨_, h.1⟩, h.2⟩
  | revoke request => exact ⟨trivial, h.2⟩
  | _ => exact h

/-- The first request gets the oldest job, which is named; the second one
may get the youngest job, but no other aggregate has one that is older
than the job that is named. -/
theorem equals_rank_by_named_job_of_tie :
    let r := Resolved.of agentRequest {}
    let first := generousPartners.serve (matchJob {} agentRequest) storeOfTie
    let second := generousPartners.serve (matchJob {} agentRequest) first.2
    storeOfTie.UpToDate ∧ first.1 = .ok (.assigned (firstHandOut 1 .full)) ∧
      second.1 = .ok (.assigned (firstHandOut 5 .full)) ∧
      (∃ a, storeOfTie.First (r.Ready (r.AtSite storeOfTie)) a ∧
        ∀ b, r.Ready (r.AtSite storeOfTie) b → b.id ≠ a.id →
          FloatOrder.cmp (storeOfTie.weighed a).weight (storeOfTie.weighed b).weight = .eq →
          FloatOrder.cmp a.price b.price = .eq → ∀ id ∈ storeOfTie.waitingIds b.id, 1 ≤ id) ∧
      ∀ a ∈ second.2.aggregates.values, 0 < a.counter →
        ∀ id ∈ second.2.waitingIds a.id, a.oldestJob ≤ id := by
  intro r first second
  have hstart : storeOfTie.UpToDate := by decide +kernel
  have hfirst : first.1 = .ok (.assigned (firstHandOut 1 .full)) := by decide +kernel
  have hends := agentVisit_ends storeOfTie
  have hrounds := (Rounds.start.visit hends).visit (agentVisit_ends first.2)
  refine ⟨hstart, hfirst, by decide +kernel, ?_,
    fun a ha hpos => ((equals_rank_by_named_job hstart hrounds).2 a ha hpos).1⟩
  change agentVisit.Ends storeOfTie first.1 first.2 at hends
  rw [hfirst] at hends
  obtain ⟨a, _, ⟨⟩, hbest, -, hequals⟩ :=
    (equals_rank_by_named_job hstart .start).1 agentVisit _ _ hends
  refine ⟨a, hbest, fun b hb hne hweight hprice id hid => ?_⟩
  exact (hequals b hb hne hweight hprice id hid).2 (by rintro ⟨_, ⟨⟩, -⟩)

/-- Of the two aggregates the second request gets the job that is younger
than the one that waits in the other: the job that the first one names is
gone. -/
theorem younger_job_goes_before_older_one :
    let r := Resolved.of agentRequest {}
    let first := generousPartners.serve (matchJob {} agentRequest) storeOfTie
    let second := generousPartners.serve (matchJob {} agentRequest) first.2
    storeOfTie.UpToDate ∧ first.1 = .ok (.assigned (firstHandOut 1 .full)) ∧
      second.1 = .ok (.assigned (firstHandOut 5 .full)) ∧
      (∃ a b, r.Ready (r.AtSite first.2) a ∧ r.Ready (r.AtSite first.2) b ∧
        (first.2.weighed a).weight = (first.2.weighed b).weight ∧ a.price = b.price ∧
        5 ∈ first.2.waitingIds a.id ∧ 3 ∈ first.2.waitingIds b.id ∧
        a.oldestJob = 1 ∧ first.2.waitingIds a.id = [5]) ∧
      ¬ first.2.UpToDate := by
  intro r first second
  refine ⟨by decide +kernel, by decide +kernel, by decide +kernel, ?_, by decide +kernel⟩
  have hrecords : first.2.records.values = [] := by decide +kernel
  have hready : ∀ a, first.2.aggregates.get? a.id = some a →
      (r.localFilter .ignore).accepts a = true → a.packages = [] →
      r.Ready (r.AtSite first.2) a := by
    intro a ha haccepts hpackages
    refine ⟨⟨first.2.aggregatesKeyed.mem_values.mpr ha, haccepts, ?_⟩, ?_⟩
    · rintro ⟨record, hrecord, -⟩
      have hmem := Table.mem_values.mpr ⟨_, hrecord⟩
      rw [hrecords] at hmem
      cases hmem
    · rw [hpackages]
      exact List.forall_mem_nil _
  refine ⟨{ openAggregate 1 1 with oldestJob := 1 }, { openAggregate 2 1 with oldestJob := 3 },
    hready _ rfl (by decide +kernel) rfl, hready _ rfl (by decide +kernel) rfl, rfl, rfl, ?_⟩
  decide +kernel

end Rounds

end Matching

end GridQueue
