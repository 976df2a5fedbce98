/-
# `GridQueue.Proofs.Matching.Draining` — the same request over and over

The aggregates that an agent can serve stand in a line, best first.  As
long as the counters are exact, a request takes the waiting job with the
least identifier from the head of the line:

    due line          7 8 9 | 2 5 | 4
    after a request     8 9 | 2 5 | 4
    …                         2 5 | 4

The head stays where it is while it has jobs, since a claim changes
nothing by which aggregates are ranked, and leaves the line with its last
one, since its counter is zero then (`Takes.atSite_iff`).  So each request
takes one off the list of what is due (`Draining.step`), and the requests
drain it from its head to its end.
-/
import GridQueue.Proofs.Counter.Alone
import GridQueue.Proofs.Matching.Footprint
import Mathlib.Data.List.Sort

namespace GridQueue.Matching

/-! ## What an agent is due -/

/-- The waiting jobs of aggregates in a line, one aggregate after another
and each in ascending order. -/
def dueOf (s : Store) (line : List Aggregate) : List Int := line.flatMap fun a => s.waitingIds a.id

/-- The answer hands out this job; or there is nothing to run. -/
def Brings (result : Except BrokerError Outcome) : Option Int → Prop
  | some id => ∃ job, result = .ok (.assigned job) ∧ job.jobId = id
  | none => result = .ok (.nothingToRun .noCandidate)

section Repeated

variable (p : ℕ → Partners) (settings : BrokerSettings) (request : Request) (s : Store)

/-- The store after so many times the same request, one after another. -/
def storeAfter : ℕ → Store
  | 0 => s
  | n + 1 => ((p n).serve (matchJob settings request) (storeAfter n)).2

/-- The answer to the request that comes after so many others. -/
def answerAfter (n : ℕ) : Except BrokerError Outcome :=
  ((p n).serve (matchJob settings request) (storeAfter p settings request s n)).1

end Repeated

/-- The aggregates an agent can serve stand in line, and nothing is in the
way of serving them. -/
structure Draining (r : Resolved) (line : List Aggregate) (s : Store) : Prop where
  mem_iff : ∀ a, a ∈ line ↔ r.AtSite s a
  ranked : line.Pairwise fun a b => (s.weighed a).Precedes (s.weighed b)
  provided : ∀ a ∈ line, r.inventory.Provides a.packages
  exact : s.Exact
  isOpen : s.isBlocked r.request.ce = false

section Line

variable {r : Resolved} {s s' : Store} {f : Filter} {a b : Aggregate} {line rest : List Aggregate}
  {j : Job} {request : Request} {now : Instant} {isLocal : Bool} {status : Status} {number : Int}

theorem Candidate.isLE_total (c d : Candidate) : ((c.order d).isLE || (d.order c).isLE) = true := by
  by_cases h : (c.order d).isLE
  · rw [h, Bool.true_or]
  · rw [Std.OrientedCmp.lt_of_not_isLE h, Ordering.isLE_lt, Bool.or_true]

/-- Aggregates with two names are never level. -/
theorem Candidate.precedes_of_isLE {c d : Candidate} (h : (c.order d).isLE)
    (hid : c.aggregate.id ≠ d.aggregate.id) : c.Precedes d := by
  rcases Ordering.isLE_iff_eq_lt_or_eq_eq.mp h with hlt | heq
  · exact hlt
  · exact absurd (Std.compare_eq_iff_eq.mp (Ordering.then_eq_eq.mp heq).2) hid

theorem exists_line (s : Store) (f : Filter) :
    ∃ line : List Aggregate, (∀ a, a ∈ line ↔ s.Offers f a) ∧
      line.Pairwise fun a b => (s.weighed a).Precedes (s.weighed b) := by
  let sorted := (s.candidates f).mergeSort fun c d => (c.order d).isLE
  have hperm : sorted.Perm (s.candidates f) := List.mergeSort_perm ..
  have hsorted : sorted.Pairwise fun c d => (c.order d).isLE :=
    List.pairwise_mergeSort (fun _ _ _ => Std.TransCmp.isLE_trans) Candidate.isLE_total _
  have hdistinct : sorted.Pairwise fun c d => c.aggregate.id ≠ d.aggregate.id := by
    refine (hperm.symm.pairwise_iff fun h => h.symm).mp ?_
    exact (s.pairwise_candidates f).imp Int.ne_of_lt
  have hmem : ∀ {c}, c ∈ sorted → ∃ a, s.Offers f a ∧ s.weighed a = c := fun hc =>
    Store.mem_candidates.mp (hperm.mem_iff.mp hc)
  refine ⟨sorted.map (·.aggregate), ?_, ?_⟩
  · intro a
    rw [List.mem_map]
    constructor
    · rintro ⟨c, hc, rfl⟩
      obtain ⟨a, ha, rfl⟩ := hmem hc
      exact ha
    · intro ha
      exact ⟨s.weighed a, hperm.mem_iff.mpr (Store.mem_candidates.mpr ⟨a, ha, rfl⟩), rfl⟩
  · refine List.pairwise_map.mpr ((hsorted.and hdistinct).imp_of_mem ?_)
    rintro c d hc hd ⟨hle, hne⟩
    obtain ⟨a, -, rfl⟩ := hmem hc
    obtain ⟨b, -, rfl⟩ := hmem hd
    exact Candidate.precedes_of_isLE hle hne

/-! ## A claim from the head of the line -/

namespace Takes

theorem waitingIds_eq (h : Takes request now isLocal status number j a s s') (hstatus : status ≠ .waiting)
    (id : Int) : s'.waitingIds id = (s.waitingIds id).erase j.id := by
  refine Store.waitingIds_eq_erase ?_ ?_
  · intro k hk
    rw [h.jobs, Table.get?_insert, if_neg hk]
  · rw [h.jobs, Table.get?_insert, if_pos rfl]
    simp [Store.isWaitingIn, hstatus]

def counted (a : Aggregate) (isLocal : Bool) (now : Instant) : Aggregate :=
  { a with
    counter := max (a.counter - 1) 0
    idleSince := if isLocal then now else a.idleSince }

theorem mem_aggregates (h : Takes request now isLocal status number j a s s') :
    b ∈ s'.aggregates.values ↔
      b = counted a isLocal now ∨ b ∈ s.aggregates.values ∧ b.id ≠ a.id := by
  rw [s'.aggregatesKeyed.mem_values, h.aggregates, Table.get?_insert,
    s.aggregatesKeyed.mem_values]
  by_cases hid : b.id = a.id
  · rw [if_pos hid]
    simp only [hid, ne_eq, not_true_eq_false, and_false, or_false, Option.some_inj]
    exact eq_comm
  · rw [if_neg hid]
    have hne : b ≠ counted a isLocal now := fun he => hid (he ▸ rfl)
    simp only [hne, hid, false_or, ne_eq, not_false_eq_true, and_true]

/-- Of the aggregates at the site the one that was claimed from stays if
it has jobs left, and the others stay. -/
theorem atSite_iff (h : Takes request now isLocal status number j a s s') (ha : r.AtSite s a) :
    r.AtSite s' b ↔
      b = counted a isLocal now ∧ 0 < (counted a isLocal now).counter ∨
        r.AtSite s b ∧ b.id ≠ a.id := by
  have hexcludes : ∀ user, s'.Excludes user ↔ s.Excludes user := fun user => by
    rw [Store.Excludes, h.records, Store.Excludes]
  obtain ⟨hmem, haccepts, hadmitted⟩ := ha
  constructor
  · rintro ⟨hb, hbaccepts, hbadmitted⟩
    rcases h.mem_aggregates.mp hb with rfl | ⟨hb, hne⟩
    · exact .inl ⟨rfl, Filter.counter_pos hbaccepts⟩
    · exact .inr ⟨⟨hb, hbaccepts, mt (hexcludes _).mpr hbadmitted⟩, hne⟩
  · rintro (⟨rfl, hpos⟩ | ⟨⟨hb, hbaccepts, hbadmitted⟩, hne⟩)
    · -- nobody at the site asks how long the aggregate was left alone
      exact ⟨h.mem_aggregates.mpr (.inl rfl), Filter.accepts_counter haccepts hpos,
        mt (hexcludes _).mp hadmitted⟩
    · exact ⟨h.mem_aggregates.mpr (.inr ⟨hb, hne⟩), hbaccepts, mt (hexcludes _).mp hbadmitted⟩

end Takes

namespace Draining

theorem first (h : Draining r (a :: rest) s) : s.First (r.AtSite s) a := by
  obtain ⟨hbefore, -⟩ := List.pairwise_cons.mp h.ranked
  refine ⟨(h.mem_iff a).mp (List.mem_cons_self ..), fun b hb => ?_⟩
  rcases List.mem_cons.mp ((h.mem_iff b).mpr hb) with rfl | hrest
  · exact .inl rfl
  · exact .inr (hbefore b hrest)

theorem exists_rest (h : Draining r line s) (hfirst : s.First (r.AtSite s) a) :
    ∃ rest, line = a :: rest := by
  cases line with
  | nil => cases (h.mem_iff a).mpr hfirst.mem
  | cons b rest => exact ⟨rest, by rw [h.first.eq hfirst]⟩

/-- As packages are no matter here, the first one that is ready is the
first one. -/
theorem first_of_ready (h : Draining r line s) (hfirst : s.First (r.Ready (r.AtSite s)) a) :
    s.First (r.AtSite s) a :=
  ⟨hfirst.mem.1, fun b hb => hfirst.precedes b ⟨hb, h.provided b ((h.mem_iff b).mpr hb)⟩⟩

theorem distinct (h : Draining r line s) : line.Pairwise fun a b => a.id ≠ b.id := by
  refine h.ranked.imp_of_mem fun {a b} ha hb hab hid => ?_
  have hrow := s.aggregatesKeyed.mem_values.mp ((h.mem_iff a).mp ha).1
  rw [hid, s.aggregatesKeyed.mem_values.mp ((h.mem_iff b).mp hb).1] at hrow
  obtain rfl := Option.some.inj hrow
  exact hab.asymm hab

theorem mem_rest_iff (h : Draining r (a :: rest) s) :
    b ∈ rest ↔ r.AtSite s b ∧ b.id ≠ a.id := by
  have hdistinct := (List.pairwise_cons.mp h.distinct).1
  rw [← h.mem_iff, List.mem_cons]
  constructor
  · intro hb
    exact ⟨.inr hb, (hdistinct b hb).symm⟩
  · rintro ⟨rfl | hb, hne⟩
    · exact absurd rfl hne
    · exact hb

theorem nodup_due (h : Draining r line s) : (dueOf s line).Nodup := by
  refine List.nodup_flatMap.mpr ⟨fun a _ => (s.pairwise_waitingIds a.id).imp Int.ne_of_lt, ?_⟩
  refine h.distinct.imp fun hne id ha hb => hne ?_
  exact (Store.eq_of_mem_waitingIds ha hb).symm

theorem claim {ids : List Int} (h : Draining r (a :: rest) s) (hexact : s'.Exact)
    (hopen : s'.isBlocked r.request.ce = false)
    (htakes : Takes request now isLocal status number j a s s') (hstatus : status ≠ .waiting)
    (hwaiting : s.waitingIds a.id = j.id :: ids) :
    ∃ line, Draining r line s' ∧ dueOf s' line = ids ++ dueOf s rest := by
  have ha := (h.mem_iff a).mp (List.mem_cons_self ..)
  have hids : s'.waitingIds a.id = ids := by
    rw [htakes.waitingIds_eq hstatus, hwaiting, List.erase_cons_head]
  have hothers : ∀ b ∈ rest, s'.waitingIds b.id = s.waitingIds b.id := by
    intro b hb
    rw [htakes.waitingIds_eq hstatus, List.erase_of_not_mem]
    intro hmem
    exact (h.mem_rest_iff.mp hb).2
      (Store.eq_of_mem_waitingIds (hwaiting ▸ List.mem_cons_self ..) hmem)
  have hrest : dueOf s' rest = dueOf s rest := List.flatMap_congr hothers
  have hcounter : (Takes.counted a isLocal now).counter = ids.length := by
    have hsum := Store.forall_counter?.mp hexact _ (htakes.mem_aggregates.mpr (.inl rfl))
    exact hsum.trans (congrArg (fun l : List Int => (l.length : Int)) hids)
  have hweighed : ∀ b, s'.weighed b = s.weighed b := fun b => by
    rw [Store.weighed, htakes.records, Store.weighed]
  obtain ⟨hbefore, hranked⟩ := List.pairwise_cons.mp h.ranked
  have hranked' : rest.Pairwise fun b c => (s'.weighed b).Precedes (s'.weighed c) := by
    simpa only [hweighed] using hranked
  have hprovided : ∀ b ∈ rest, r.inventory.Provides b.packages :=
    fun b hb => h.provided b (List.mem_cons_of_mem _ hb)
  cases ids with
  | nil =>
      refine ⟨rest, ⟨?_, hranked', hprovided, hexact, hopen⟩, hrest⟩
      intro b
      rw [htakes.atSite_iff ha, hcounter, h.mem_rest_iff]
      simp
  | cons id ids =>
      refine ⟨Takes.counted a isLocal now :: rest, ⟨?_, ?_, ?_, hexact, hopen⟩, ?_⟩
      · intro b
        rw [htakes.atSite_iff ha, hcounter, ← h.mem_rest_iff, List.mem_cons]
        simp
      · refine List.pairwise_cons.mpr ⟨fun b hb => ?_, hranked'⟩
        rw [hweighed, hweighed]
        exact hbefore b hb
      · intro b hb
        rcases List.mem_cons.mp hb with rfl | hb
        · exact h.provided a (List.mem_cons_self ..)
        · exact hprovided b hb
      · rw [dueOf, List.flatMap_cons, ← dueOf, hrest]
        exact congrArg (· ++ _) hids

end Draining

end Line

/-! ## One request after another -/

section Run

variable {p : Partners} {settings : BrokerSettings} {request : Request}
  {requirements : Site.Requirements} {s s' : Store} {a : Aggregate} {line : List Aggregate}
  {result : Except BrokerError Outcome}

theorem isBlocked_recorded {jobId n m : Int} {ce site message : String} {now : Instant}
    (hqueues : s'.queues = s.queues) (other : String) :
    ((s'.appendTrace jobId traceTag message now).adjustCounters ce site n m now).isBlocked other =
      s.isBlocked other :=
  (Store.perform_isBlocked (c := .adjustCounters ce site n m) (fun _ _ h => nomatch h) other).trans
    (Store.isBlocked_congr hqueues other)

/-- The head of the line has a job, which is handed out if there is a
token for it. -/
theorem Draining.claim_brings {r : Resolved} {tier : Tier} {rest : List Aggregate}
    (h : Draining r (a :: rest) s) (hwaiting : s.waitingIds a.id ≠ [])
    (htokens : ∀ t, ∃ token, p.issue t = .ok token) (hexact : s'.Exact)
    (hclaim : ClaimEnds p.surroundings p.now settings r.request s a.id tier result s') :
    ∃ line, Draining r line s' ∧ dueOf s' line = (dueOf s (a :: rest)).tail ∧
      Brings result (dueOf s (a :: rest)).head? := by
  have ha := (h.mem_iff a).mp (List.mem_cons_self ..)
  have hrow := s.aggregatesKeyed.mem_values.mp ha.1
  cases hclaim with
  | lost hnil => exact absurd hnil hwaiting
  | undone _ hissue =>
      obtain ⟨token, htoken⟩ := htokens _
      cases hissue.trans htoken
  | @delivered job s₁ token hjob =>
      obtain ⟨j, hid, -, hhead, htakes, hqueues, -⟩ :=
        takes_of_claimWaiting (!tier.isRemote) hrow hjob
      obtain ⟨ids, hids⟩ := List.head?_eq_some_iff.mp hhead
      have hdue : dueOf s (a :: rest) = j.id :: (ids ++ dueOf s rest) := by
        rw [dueOf, List.flatMap_cons, hids, List.cons_append, ← dueOf]
      obtain ⟨line, hline, hdue'⟩ := h.claim hexact
        ((isBlocked_recorded hqueues _).trans h.isOpen) { htakes with } (by decide) hids
      rw [hdue]
      exact ⟨line, hline, hdue', _, rfl, hid.symm⟩

theorem Draining.step (h : Draining (.of request requirements) line s)
    (hvalid : request.flaw? = none) (hlocal : request.acceptsRemote = false)
    (hsite : p.requirements request.ce request.site = requirements)
    (htokens : ∀ t, ∃ token, p.issue t = .ok token) :
    let served := p.serve (matchJob settings request) s
    ∃ line', Draining (.of request requirements) line' served.2 ∧
      dueOf served.2 line' = (dueOf s line).tail ∧ Brings served.1 (dueOf s line).head? := by
  intro served
  have hcourse : Course p.surroundings p.now settings request s served.1 served.2 :=
    matchJob_course (p.yields_serve ..)
  have hexact : served.2.Exact :=
    (Task.executes_serve p (.request settings request) s).exact_of_not_force h.exact rfl
  clear_value served
  obtain ⟨result, s'⟩ := served
  dsimp only at hcourse hexact ⊢
  cases hcourse with
  | refused hflaw => cases hvalid.symm.trans hflaw
  | blocked _ hblocked => cases hblocked.symm.trans h.isOpen
  | unknownSite _ _ hlookup => cases hlookup
  | @searched found _ _ _ _ hlookup hsearch =>
      obtain rfl : found = requirements := (Except.ok.inj hlookup).trans hsite
      cases hsearch with
      | here htier =>
          rcases htier.settled with ⟨a, hfirst, hclaim⟩ | ⟨a, missing, hnone, hfirst, -⟩
          · have hfirst' := h.first_of_ready hfirst
            obtain ⟨rest, rfl⟩ := h.exists_rest hfirst'
            exact h.claim_brings (h.exact.waitingIds_ne_nil (Store.findWaiting_eq_some.mpr hfirst'))
              htokens hexact hclaim
          · have hmem := (h.mem_iff a).mpr hfirst.mem
            exact absurd ⟨hfirst.mem, h.provided a hmem⟩ (hnone a)
      | elsewhere _ htier =>
          rcases htier.settled with ⟨a, hfirst, -⟩ | ⟨a, missing, -, hfirst, -⟩
          · cases hlocal.symm.trans hfirst.mem.1.1
          · cases hlocal.symm.trans hfirst.mem.1
      | nowhere hnone =>
          have hline : line = [] :=
            List.eq_nil_iff_forall_not_mem.mpr fun a ha => hnone a ((h.mem_iff a).mp ha)
          subst hline
          refine ⟨[], ⟨h.mem_iff, .nil, h.provided, hexact, ?_⟩, rfl, rfl⟩
          exact (Store.perform_isBlocked (c := .setQueueStatus request.ce request.site noMatchStatus)
            (fun _ _ h => nomatch h) _).trans h.isOpen

/-- After so many requests so many are off what is due. -/
theorem Draining.after (settings : BrokerSettings) {p : ℕ → Partners}
    (h : Draining (.of request requirements) line s)
    (hvalid : request.flaw? = none) (hlocal : request.acceptsRemote = false)
    (hsite : ∀ n, (p n).requirements request.ce request.site = requirements)
    (htokens : ∀ n t, ∃ token, (p n).issue t = .ok token) (n : ℕ) :
    ∃ line', Draining (.of request requirements) line' (storeAfter p settings request s n) ∧
      dueOf (storeAfter p settings request s n) line' = (dueOf s line).drop n := by
  induction n with
  | zero => exact ⟨line, h, rfl⟩
  | succ n ih =>
      obtain ⟨line', h', hdue⟩ := ih
      obtain ⟨line'', h'', hdue', -⟩ := h'.step hvalid hlocal (hsite n) (htokens n)
      exact ⟨line'', h'', by rw [storeAfter, hdue', hdue, List.tail_drop]⟩

/-- The same request, over and over, hands out the waiting jobs of the
aggregates at its site, each once: one aggregate after another as they are
ranked, and each in ascending order.  Then there is nothing to run. -/
theorem repeated_requests_drain_line {p : ℕ → Partners} (hvalid : request.flaw? = none)
    (hlocal : request.acceptsRemote = false) (hopen : s.isBlocked request.ce = false)
    (hexact : s.Exact) (hsite : ∀ n, (p n).requirements request.ce request.site = requirements)
    (htokens : ∀ n t, ∃ token, (p n).issue t = .ok token)
    (hprovided : ∀ a, (Resolved.of request requirements).AtSite s a →
      (Resolved.of request requirements).inventory.Provides a.packages) :
    ∃ line : List Aggregate,
      (∀ a, a ∈ line ↔ (Resolved.of request requirements).AtSite s a) ∧
      line.Pairwise (fun a b => (s.weighed a).Precedes (s.weighed b)) ∧
      (line.flatMap fun a => s.waitingIds a.id).Nodup ∧
      ∀ n, Brings (answerAfter p settings request s n)
        (line.flatMap fun a => s.waitingIds a.id)[n]? := by
  obtain ⟨line, hmem, hranked⟩ := exists_line s ((Resolved.of request requirements).localFilter .ignore)
  have h : Draining (.of request requirements) line s :=
    ⟨hmem, hranked, fun a ha => hprovided a ((hmem a).mp ha), hexact, hopen⟩
  refine ⟨line, hmem, hranked, h.nodup_due, fun n => ?_⟩
  obtain ⟨line', h', hdue⟩ := h.after settings hvalid hlocal hsite htokens n
  obtain ⟨-, -, -, hbrings⟩ := h'.step hvalid hlocal (hsite n) (htokens n)
  rw [hdue, List.head?_drop] at hbrings
  exact hbrings

/-- Three waiting jobs, two of them of the aggregate that comes first. -/
def storeOfThree : Store :=
  (((storeOfOne 8 2).insertJob (waitingJob 7 1)).insertJob (waitingJob 9 1)).insertAggregate
    (openAggregate 1 2)

/-- The clock goes on between the requests of an agent that stays at its
site: it gets the jobs of the first aggregate, then that of the second. -/
theorem repeated_requests_drain_line_of_three :
    let request := { agentRequest with acceptsRemote := false }
    let r := Resolved.of request {}
    let p : ℕ → Partners := fun n => { generousPartners with now := ⟨n, false⟩ }
    let s := storeOfThree
    (request.flaw? = none ∧ s.isBlocked request.ce = false ∧ s.Exact ∧
      ∀ a, r.AtSite s a → r.inventory.Provides a.packages) ∧
    (Brings (answerAfter p {} request s 0) (some 7) ∧ Brings (answerAfter p {} request s 1) (some 9) ∧
      Brings (answerAfter p {} request s 2) (some 8) ∧ Brings (answerAfter p {} request s 3) none) ∧
    ∃ line : List Aggregate, (∀ a, a ∈ line ↔ r.AtSite s a) ∧
      line.Pairwise (fun a b => (s.weighed a).Precedes (s.weighed b)) ∧
      (line.flatMap fun a => s.waitingIds a.id).Nodup ∧
      ∀ n, Brings (answerAfter p {} request s n) (line.flatMap fun a => s.waitingIds a.id)[n]? := by
  intro request r p s
  have hvalid : request.flaw? = none := by decide +kernel
  have hopen : s.isBlocked request.ce = false := by decide +kernel
  have hexact : s.Exact := by decide +kernel
  have hprovided : ∀ a, r.AtSite s a → r.inventory.Provides a.packages := by
    intro a ha
    have hall : ∀ b ∈ s.aggregates.values, b.packages = [] := by decide +kernel
    rw [hall a ha.1]
    exact List.forall_mem_nil _
  refine ⟨⟨hvalid, hopen, hexact, hprovided⟩, ⟨⟨firstHandOut 7 .full, ?_, rfl⟩,
    ⟨firstHandOut 9 .full, ?_, rfl⟩, ⟨firstHandOut 8 .full, ?_, rfl⟩, ?_⟩, ?_⟩
  · decide +kernel
  · decide +kernel
  · decide +kernel
  · show answerAfter p {} request s 3 = .ok (.nothingToRun .noCandidate)
    decide +kernel
  exact repeated_requests_drain_line hvalid rfl hopen hexact (fun _ => rfl) (fun _ _ => ⟨_, rfl⟩)
    hprovided

end Run

end GridQueue.Matching
