/-
# `GridQueue.Proofs.Matching.Tiers` — the tier at which a request is served

Two classes of aggregates matter to a request that is served alone:

    AtSite      open to its computing element, site and partitions
    Elsewhere   open anywhere and left alone for long enough

each but for packages, and in each class the `Ready` ones need no package
that the agent lacks.  The request is served by the first aggregate of
the first of these that has any:

    Ready AtSite       claim at tier `full`
    AtSite             packages to install, `packageFallback`
    Ready Elsewhere    claim at tier `remote`
    Elsewhere          packages to install, `remotePackageFallback`

The two look-ups of a tier differ in packages only (`offers_check`), so
what the second one finds lacks something.
-/
import GridQueue.Proofs.Matching.Stage
import GridQueue.Proofs.Partners
import GridQueue.Proofs.Store.Search

namespace GridQueue

open Matching

/-! ## Packages -/

namespace Inventory

variable {inv : Inventory} {required : List String}

/-- Every required package is there, or comes from outside. -/
def Provides : Inventory → List String → Prop
  | sharedFilesystem, _ => True
  | installed packages, required => ∀ p ∈ required, packages.has p = true

theorem check_accepts : inv.check.accepts required = true ↔ inv.Provides required := by
  cases inv with
  | sharedFilesystem => exact iff_of_true rfl trivial
  | installed packages => exact List.all_eq_true

theorem missing_eq_nil : inv.missing required = [] ↔ inv.Provides required := by
  cases inv with
  | sharedFilesystem => exact iff_of_true rfl trivial
  | installed packages => simp [missing, Provides, List.filter_eq_nil_iff]

theorem exists_installed (h : ¬ inv.Provides required) : ∃ packages, inv = .installed packages := by
  cases inv with
  | sharedFilesystem => exact absurd trivial h
  | installed packages => exact ⟨packages, rfl⟩

end Inventory

namespace Matching

/-- A filter that checks packages in another way. -/
def Filter.withPackages (f : Filter) (c : PackageCheck) : Filter := { f with packages := c }

theorem Filter.accepts_withPackages (f : Filter) (c : PackageCheck) (a : Aggregate) :
    (f.withPackages c).accepts a =
      ((f.withPackages .ignore).accepts a && c.accepts a.packages) := by
  simp only [withPackages, accepts, acceptsUser, PackageCheck.accepts, Bool.and_true]
  exact Bool.and_right_comm ..

/-! ## Classes of aggregates -/

namespace Resolved

/-- Aggregates for the computing element, the site and its partitions,
whatever packages they need. -/
def AtSite (r : Resolved) (s : Store) : Aggregate → Prop := s.Offers (r.localFilter .ignore)

/-- Aggregates that are left to agents of other sites, if the agent takes
any, whatever packages they need. -/
def Elsewhere (r : Resolved) (s : Store) (now : Instant) (timeout : Int) (a : Aggregate) : Prop :=
  r.request.acceptsRemote = true ∧ s.Offers (r.remoteFilter .ignore now timeout) a

/-- Aggregates of a class that need no more packages. -/
def Ready (r : Resolved) (among : Aggregate → Prop) (a : Aggregate) : Prop :=
  among a ∧ r.inventory.Provides a.packages

/-- What the agent lacks for an aggregate, in the order in which it is
required. -/
def Lacks (r : Resolved) (a : Aggregate) (missing : List String) : Prop :=
  missing ≠ [] ∧ ∃ installed, r.inventory = .installed installed ∧
    missing = a.packages.filter fun package => !installed.has package

variable {r : Resolved} {s : Store} {now : Instant} {timeout : Int} {a : Aggregate}

theorem localFilter_eq (r : Resolved) (c : PackageCheck) :
    r.localFilter c = (r.localFilter .ignore).withPackages c := rfl

theorem remoteFilter_eq (r : Resolved) (now : Instant) (timeout : Int) (c : PackageCheck) :
    r.remoteFilter c now timeout = (r.remoteFilter .ignore now timeout).withPackages c := rfl

theorem elsewhere_eq (h : r.request.acceptsRemote = true) :
    r.Elsewhere s now timeout = s.Offers (r.remoteFilter .ignore now timeout) := by
  funext a
  simp only [Elsewhere, h, true_and]

theorem lacks_missing (h : ¬ r.inventory.Provides a.packages) :
    r.Lacks a (r.inventory.missing a.packages) := by
  refine ⟨mt Inventory.missing_eq_nil.mp h, ?_⟩
  obtain ⟨installed, hi⟩ := Inventory.exists_installed h
  exact ⟨installed, hi, by rw [hi, Inventory.missing]⟩

end Resolved

/-! ## One tier -/

section Tier

variable {p : Partners} {settings : BrokerSettings} {r : Resolved} {s : Store}
  {filterOf : PackageCheck → Filter} {claimTier fallbackTier : Tier} {a : Aggregate}

/-- The strict look-up of a tier finds the ready ones among what the
relaxed one finds. -/
theorem offers_check (hf : ∀ c, filterOf c = (filterOf .ignore).withPackages c) :
    s.Offers (filterOf r.inventory.check) = r.Ready (s.Offers (filterOf .ignore)) := by
  funext a
  have haccepts : (filterOf r.inventory.check).accepts a =
      ((filterOf .ignore).accepts a && r.inventory.check.accepts a.packages) := by
    rw [hf, Filter.accepts_withPackages, ← hf]
  refine propext ⟨?_, ?_⟩
  · rintro ⟨hmem, hacc, hex⟩
    rw [haccepts, Bool.and_eq_true] at hacc
    exact ⟨⟨hmem, hacc.1, hex⟩, Inventory.check_accepts.mp hacc.2⟩
  · rintro ⟨⟨hmem, hacc, hex⟩, hp⟩
    refine ⟨hmem, ?_, hex⟩
    rw [haccepts, hacc, Inventory.check_accepts.mpr hp]
    rfl

theorem serve_find_bind {α : Type} {f : Filter} {found : Option Aggregate}
    {next : Option Aggregate → Attempt α} (h : s.findWaiting f = found) :
    p.serve (ask (.findWaiting f) >>= next).run s = p.serve (next found).run s :=
  Partners.serve_ask_bind (by rw [Store.perform, h])

theorem exists_first_ready (hf : ∀ c, filterOf c = (filterOf .ignore).withPackages c)
    (h : ∃ a, r.Ready (s.Offers (filterOf .ignore)) a) :
    ∃ a, s.First (r.Ready (s.Offers (filterOf .ignore))) a := by
  rw [← offers_check hf] at h ⊢
  exact Store.exists_first h

theorem serve_tryTier_ready (hf : ∀ c, filterOf c = (filterOf .ignore).withPackages c)
    (h : s.First (r.Ready (s.Offers (filterOf .ignore))) a) :
    p.serve (tryTier settings r filterOf claimTier fallbackTier).run s =
      ((p.serve (claim settings r a.id claimTier).run s).1.map some,
        (p.serve (claim settings r a.id claimTier).run s).2) := by
  rw [← offers_check hf, ← Store.findWaiting_eq_some] at h
  exact (serve_find_bind h).trans (Partners.serve_map ..)

/-- A tier without ready aggregates asks for what the first one lacks. -/
theorem serve_tryTier_lacking (hf : ∀ c, filterOf c = (filterOf .ignore).withPackages c)
    (hnone : ∀ b, ¬ r.Ready (s.Offers (filterOf .ignore)) b)
    (h : s.First (s.Offers (filterOf .ignore)) a) :
    ∃ missing, r.Lacks a missing ∧
      p.serve (tryTier settings r filterOf claimTier fallbackTier).run s =
        (.ok (some (.installPackages missing fallbackTier)), s) := by
  have hlacks := Resolved.lacks_missing fun hp => hnone a ⟨h.mem, hp⟩
  rw [← offers_check hf, ← Store.findWaiting_eq_none] at hnone
  rw [← Store.findWaiting_eq_some] at h
  refine ⟨_, hlacks, (serve_find_bind hnone).trans ?_⟩
  obtain ⟨hmissing, installed, hi, -⟩ := hlacks
  dsimp only
  rw [if_pos (by rw [hi, Inventory.constrains])]
  refine (serve_find_bind h).trans ?_
  dsimp only
  split
  · next hnil => exact absurd hnil hmissing
  · rfl

theorem serve_tryTier_nothing (hf : ∀ c, filterOf c = (filterOf .ignore).withPackages c)
    (h : ∀ b, ¬ s.Offers (filterOf .ignore) b) :
    p.serve (tryTier settings r filterOf claimTier fallbackTier).run s = (.ok none, s) := by
  have hstrict : ∀ b, ¬ r.Ready (s.Offers (filterOf .ignore)) b := fun b hb => h b hb.1
  rw [← offers_check hf, ← Store.findWaiting_eq_none] at hstrict
  rw [← Store.findWaiting_eq_none] at h
  refine (serve_find_bind hstrict).trans ?_
  dsimp only
  split
  · exact serve_find_bind h
  · rfl

end Tier

/-! ## Claims -/

section Claim

variable {p : Partners} {settings : BrokerSettings} {r : Resolved} {s : Store}
  {aggregateId : Int} {tier : Tier}

/-- The answer to a request that made a claim, after what it got. -/
def claimAnswer (p : Partners) (settings : BrokerSettings) (tier : Tier) :
    Option ClaimedJob → Except BrokerError Outcome
  | none => .ok (.nothingToRun .claimConflict)
  | some job =>
      match p.issue (tokenRequest settings job) with
      | .ok token => .ok (.assigned (.ofClaim job token tier))
      | .error e => .error (.credential job.jobId e)

theorem serve_handOut {job : ClaimedJob} {target : ClaimTarget} :
    (p.serve (handOut settings job target tier).run s).1 =
      claimAnswer p settings tier (some job) := by
  change (p.serve (match p.issue (tokenRequest settings job) with
    | .ok token => _
    | .error e => _) s).1 = _
  dsimp only [claimAnswer]
  cases p.issue (tokenRequest settings job) <;> rfl

theorem serve_claim :
    (p.serve (claim settings r aggregateId tier).run s).1 =
      claimAnswer p settings tier (s.claimWaiting aggregateId r.request.target p.now).1 := by
  cases hclaim : s.claimWaiting aggregateId r.request.target p.now with
  | mk got s' =>
      have hask : s.perform p.now (.claimWaiting aggregateId r.request.target) = (.ok got, s') := by
        rw [Store.perform, hclaim]
        rfl
      refine (congrArg Prod.fst (Partners.serve_ask_bind hask)).trans ?_
      cases got with
      | none => rfl
      | some job => exact serve_handOut

end Claim

/-! ## The tiers in their order -/

section Search

variable {p : Partners} {settings : BrokerSettings} {request : Request} {r : Resolved}
  {s s' : Store} {a : Aggregate}

theorem serve_settled {tier : Attempt (Option Outcome)} {rest : Option Outcome → Attempt Outcome}
    {result : Except BrokerError Outcome} (hrest : ∀ outcome, rest (some outcome) = pure outcome)
    (h : p.serve tier.run s = (result.map some, s')) :
    p.serve (tier >>= rest).run s = (result, s') := by
  rw [ExceptT.run_bind, Partners.serve_bind, h]
  cases result with
  | error e => rfl
  | ok outcome =>
      dsimp only [Except.map]
      rw [hrest]
      rfl

theorem serve_searchTiers_local {result : Except BrokerError Outcome}
    (h : p.serve (tryTier settings r r.localFilter .full .packageFallback).run s =
      (result.map some, s')) :
    p.serve (searchTiers settings r).run s = (result, s') :=
  serve_settled (fun _ => rfl) h

theorem serve_searchTiers_remote {result : Except BrokerError Outcome}
    (hlocal : p.serve (tryTier settings r r.localFilter .full .packageFallback).run s =
      (.ok none, s))
    (haccepts : r.request.acceptsRemote = true)
    (h : p.serve (tryTier settings r
        (fun packages => r.remoteFilter packages p.now settings.remoteTimeout) .remote
        .remotePackageFallback).run s = (result.map some, s')) :
    p.serve (searchTiers settings r).run s = (result, s') := by
  refine (Partners.serve_attempt_ok hlocal).trans (serve_settled (fun _ => rfl) ?_)
  unfold tryRemote
  rw [if_pos haccepts]
  exact h

theorem serve_searchTiers_nothing
    (hlocal : p.serve (tryTier settings r r.localFilter .full .packageFallback).run s =
      (.ok none, s))
    (hremote : p.serve (tryRemote settings r).run s = (.ok none, s)) :
    p.serve (searchTiers settings r).run s =
      (.ok (.nothingToRun .noCandidate),
        s.setQueueStatus r.request.ce r.request.site noMatchStatus p.now) :=
  (Partners.serve_attempt_ok hlocal).trans (Partners.serve_attempt_ok hremote)

/-- A valid request from a queue that is not blocked goes to the tiers. -/
theorem serve_matchJob (hvalid : request.flaw? = none)
    (hopen : (s.queues.get? request.ce).any (·.blocked) = false) :
    p.serve (matchJob settings request) s =
      p.serve (searchTiers settings (.of request (p.requirements request.ce request.site))).run
        s := by
  have hfind : p.serve (findWork settings request).run s =
      p.serve (searchTiers settings (.of request (p.requirements request.ce request.site))).run
        s := by
    unfold findWork
    rw [hvalid]
    refine (Partners.serve_ask_bind rfl).trans ?_
    rw [hopen]
    exact Partners.serve_attempt_ok rfl
  rw [← hfind]
  change p.serve (_ >>= _) s = _
  rw [Partners.serve_bind, Partners.serve_bind]
  rfl

variable (p settings s r) in
/-- The request ends as a claim of a job of an aggregate, at a tier. -/
structure Claims (a : Aggregate) (tier : Tier) (served : Except BrokerError Outcome × Store) :
    Prop where
  run : served = p.serve (claim settings r a.id tier).run s
  answer : served.1 =
    claimAnswer p settings tier (s.claimWaiting a.id r.request.target p.now).1

variable (p settings s r) in
/-- The request ends with a list of the packages that are missing for an
aggregate, at a tier, and nothing was written. -/
def Installs (a : Aggregate) (tier : Tier) (served : Except BrokerError Outcome × Store) : Prop :=
  ∃ missing, r.Lacks a missing ∧ served = (.ok (.installPackages missing tier), s)

theorem claims_of_serve_eq {served : Except BrokerError Outcome × Store} {tier : Tier}
    (h : served = p.serve (claim settings r a.id tier).run s) :
    Claims p settings r s a tier served :=
  ⟨h, by rw [h, serve_claim]⟩

/-- Without remote tiers, or with remote tiers that pass, nothing is found
elsewhere. -/
theorem serve_tryRemote_nothing (h : ∀ a, ¬ r.Elsewhere s p.now settings.remoteTimeout a) :
    p.serve (tryRemote settings r).run s = (.ok none, s) := by
  unfold tryRemote
  split
  · next haccepts =>
    rw [Resolved.elsewhere_eq haccepts] at h
    exact serve_tryTier_nothing (r.remoteFilter_eq p.now settings.remoteTimeout) h
  · rfl

/-- A request that is served alone ends at the first tier that is open:
it claims a job of the first aggregate that needs no more packages, or
asks for what is missing for the first one that does, at its own site
before elsewhere. -/
theorem request_is_served_at_first_open_tier (hvalid : request.flaw? = none)
    (hopen : (s.queues.get? request.ce).any (·.blocked) = false) :
    let r := Resolved.of request (p.requirements request.ce request.site)
    let here := r.AtSite s
    let elsewhere := r.Elsewhere s p.now settings.remoteTimeout
    let served := p.serve (matchJob settings request) s
    ((∃ a, r.Ready here a) →
      ∃ a, s.First (r.Ready here) a ∧ Claims p settings r s a .full served) ∧
    ((¬ ∃ a, r.Ready here a) → (∃ a, here a) →
      ∃ a, s.First here a ∧ Installs r s a .packageFallback served) ∧
    ((¬ ∃ a, here a) → (∃ a, r.Ready elsewhere a) →
      ∃ a, s.First (r.Ready elsewhere) a ∧ Claims p settings r s a .remote served) ∧
    ((¬ ∃ a, here a) → (¬ ∃ a, r.Ready elsewhere a) → (∃ a, elsewhere a) →
      ∃ a, s.First elsewhere a ∧ Installs r s a .remotePackageFallback served) ∧
    ((¬ ∃ a, here a) → (¬ ∃ a, elsewhere a) →
      served = (.ok (.nothingToRun .noCandidate),
        s.setQueueStatus request.ce request.site noMatchStatus p.now)) := by
  intro r here elsewhere served
  have hserved : served = p.serve (searchTiers settings r).run s := serve_matchJob hvalid hopen
  have hpass : (¬ ∃ a, here a) →
      p.serve (tryTier settings r r.localFilter .full .packageFallback).run s = (.ok none, s) :=
    fun h => serve_tryTier_nothing r.localFilter_eq (not_exists.mp h)
  refine ⟨?full, ?packageFallback, ?remote, ?remotePackageFallback, ?nothing⟩
  case full =>
    intro hready
    obtain ⟨a, ha⟩ := exists_first_ready r.localFilter_eq hready
    refine ⟨a, ha, claims_of_serve_eq (hserved.trans ?_)⟩
    exact serve_searchTiers_local (serve_tryTier_ready r.localFilter_eq ha)
  case packageFallback =>
    intro hnot hhere
    obtain ⟨a, ha⟩ := Store.exists_first hhere
    obtain ⟨missing, hlacks, htier⟩ :=
      serve_tryTier_lacking r.localFilter_eq (not_exists.mp hnot) ha
    exact ⟨a, ha, missing, hlacks, hserved.trans (serve_searchTiers_local htier)⟩
  case remote =>
    intro hnone hready
    have hfilter := r.remoteFilter_eq p.now settings.remoteTimeout
    have haccepts : r.request.acceptsRemote = true := hready.choose_spec.1.1
    simp only [elsewhere, Resolved.elsewhere_eq haccepts] at hready ⊢
    obtain ⟨a, ha⟩ := exists_first_ready hfilter hready
    refine ⟨a, ha, claims_of_serve_eq (hserved.trans ?_)⟩
    exact serve_searchTiers_remote (hpass hnone) haccepts
      (serve_tryTier_ready hfilter ha)
  case remotePackageFallback =>
    intro hnone hnot helse
    have hfilter := r.remoteFilter_eq p.now settings.remoteTimeout
    have haccepts : r.request.acceptsRemote = true := helse.choose_spec.1
    simp only [elsewhere, Resolved.elsewhere_eq haccepts] at hnot helse ⊢
    obtain ⟨a, ha⟩ := Store.exists_first helse
    obtain ⟨missing, hlacks, htier⟩ :=
      serve_tryTier_lacking hfilter (not_exists.mp hnot) ha
    exact ⟨a, ha, missing, hlacks,
      hserved.trans (serve_searchTiers_remote (hpass hnone) haccepts htier)⟩
  case nothing =>
    intro hnone helse
    exact hserved.trans
      (serve_searchTiers_nothing (hpass hnone) (serve_tryRemote_nothing (not_exists.mp helse)))

/-- Two aggregates, of which the first needs a package. -/
def storeOfTwo : Store :=
  (storeOfOne 7 2).insertAggregate { openAggregate 1 1 with packages := ["root"] }

/-- The agent has no packages, and gets the job of the second one. -/
theorem request_is_served_at_first_open_tier_of_two :
    let r := Resolved.of agentRequest {}
    let served := generousPartners.serve (matchJob {} agentRequest) storeOfTwo
    (∃ a, storeOfTwo.First (r.Ready (r.AtSite storeOfTwo)) a ∧
      Claims generousPartners {} r storeOfTwo a .full served) ∧
    served.1 = .ok (.assigned
      { jobId := 7
        resubmission := 1
        jdl := ""
        owner := ⟨"alice", "submit"⟩
        token := ⟨"certificate", "key", none⟩
        tier := .full }) := by
  intro r served
  have hready : r.Ready (r.AtSite storeOfTwo) (openAggregate 2 1) := by
    refine ⟨⟨storeOfTwo.aggregatesKeyed.mem_values.mpr rfl, by decide +kernel, ?_⟩, ?_⟩
    · rintro ⟨record, hrecord, -⟩
      cases hrecord
    · exact List.forall_mem_nil _
  have hserved := @request_is_served_at_first_open_tier generousPartners {} agentRequest
    storeOfTwo (by decide +kernel) (by decide +kernel)
  exact ⟨hserved.1 ⟨_, hready⟩, by decide +kernel⟩

end Search

end Matching

end GridQueue
