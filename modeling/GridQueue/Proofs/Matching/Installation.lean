/-
# `GridQueue.Proofs.Matching.Installation` — an agent that installs what it is told

An agent that lacks packages is told which, and comes again with a report
to which they are added.  Names reach the broker in one text, so what is
added is read back only if each name is an item of its own: not empty, and
without a comma or white space.  Then

    what the report named before is still there      (`has_read_installing`)
    nothing is missing any more for the aggregate     (`provides_of_lacks`)
    it was the first of its class, and is now the
      first ready one                                 (`First.ready`)
    where counters are exact it has a job to claim    (`Exact.claims`)

The two classes of aggregates do not depend on the report at all, so the
second request ends at the tier that claims where the first one asked.
-/
import GridQueue.Proofs.Counter.Alone
import GridQueue.Proofs.Matching.Course
import GridQueue.Proofs.Matching.Lists

namespace GridQueue

open Matching

/-! ## Reports of packages -/

namespace Matching

/-- The request of the same agent once it has installed packages: they
follow what its report said before. -/
def Request.installing (request : Request) (packages : List String) : Request :=
  { request with
    installedPackages :=
      some (String.intercalate "," (request.installedPackages.toList ++ packages)) }

section Report

variable {request : Request} {requirements : Site.Requirements} {packages : List String}
  {a : Aggregate}

/-- The names of the new report are those of the old one and the packages
that were installed. -/
theorem items_installing (hnames : ∀ name ∈ packages, Inventory.IsName name) :
    Text.items Inventory.isSeparator ((request.installing packages).installedPackages.getD "") =
      Text.items Inventory.isSeparator (request.installedPackages.getD "") ++ packages := by
  have hadded : packages.flatMap (Text.items Inventory.isSeparator) = packages := by
    rw [List.flatMap_congr fun name h => (hnames name h).isItem.items, List.flatMap_singleton']
  have hbefore : request.installedPackages.toList.flatMap (Text.items Inventory.isSeparator) =
      Text.items Inventory.isSeparator (request.installedPackages.getD "") := by
    cases request.installedPackages with
    | none => rfl
    | some report => exact List.flatMap_singleton ..
  have hcomma : Inventory.isSeparator ',' = true := by decide
  have hjoined := (Text.joined_intercalate hcomma
    (request.installedPackages.toList ++ packages)).items_eq_flatMap
  rw [List.flatMap_append, hbefore, hadded] at hjoined
  exact hjoined

/-- Whoever installs what it lacks for an aggregate lacks nothing more. -/
theorem provides_of_lacks (hlacks : (Resolved.of request requirements).Lacks a packages)
    (hnames : ∀ name ∈ a.packages, Inventory.IsName name) :
    (Resolved.of (request.installing packages) requirements).inventory.Provides a.packages := by
  obtain ⟨-, installed, hinventory, rfl⟩ := hlacks
  have hmissing : ∀ name ∈ a.packages.filter (fun p => !installed.has p), Inventory.IsName name :=
    fun name h => hnames name (List.mem_of_mem_filter h)
  -- packages that come from outside are never missing
  have hown : request.packagesOutOfBand = false := by
    cases h : request.packagesOutOfBand with
    | false => rfl
    | true => simp [Resolved.of, Inventory.read, h] at hinventory
  have hinstalled : NameSet.ofNames
      (Text.items Inventory.isSeparator (request.installedPackages.getD "")) = installed := by
    simpa [Resolved.of, Inventory.read, hown] using hinventory
  have hafter : (Resolved.of (request.installing (a.packages.filter fun p => !installed.has p))
      requirements).inventory = .installed (NameSet.ofNames
        (Text.items Inventory.isSeparator (request.installedPackages.getD "") ++
          a.packages.filter fun p => !installed.has p)) := by
    rw [← items_installing hmissing]
    simp [Resolved.of, Inventory.read, Request.installing, hown]
  rw [hafter]
  intro name hname
  rw [NameSet.has_ofNames, List.mem_append, ← NameSet.has_ofNames, hinstalled, List.mem_filter]
  cases installed.has name with
  | true => exact .inl rfl
  | false => exact .inr ⟨hname, rfl⟩

end Report

end Matching

/-! ## The aggregate the agent was sent away for -/

namespace Store

variable {s : Store} {a : Aggregate}

/-- The first aggregate of a class is the first ready one, if it is ready. -/
theorem First.ready {among : Aggregate → Prop} {r : Resolved} (h : s.First among a)
    (hready : r.inventory.Provides a.packages) : s.First (r.Ready among) a :=
  ⟨⟨h.mem, hready⟩, fun b hb => h.precedes b hb.1⟩

/-- Where counters are exact a job of what is on offer can be claimed. -/
theorem Exact.claims (hexact : s.Exact) {f : Filter} (ha : s.Offers f a) (target : ClaimTarget)
    (now : Instant) :
    ∃ job s', s.claimWaiting a.id target now = (some job, s') ∧ job.jobId ∈ s.waitingIds a.id := by
  obtain ⟨hmem, haccepts, -⟩ := ha
  have hcount := forall_counter?.mp hexact a hmem
  have hpos := Filter.counter_pos haccepts
  cases hclaim : s.claimWaiting a.id target now with
  | mk got s' =>
      cases got with
      | none =>
          rw [(claimWaiting_eq_none hclaim).2, List.length_nil] at hcount
          omega
      | some job => exact ⟨job, s', rfl, (waitingIds_claimWaiting hclaim a.id).1⟩

/-- The packages that aggregates require have names that can be read. -/
def NamesPackages (s : Store) : Prop :=
  ∀ a ∈ s.aggregates.values, ∀ name ∈ a.packages, Inventory.IsName name

instance (s : Store) : Decidable s.NamesPackages := inferInstanceAs (Decidable (∀ _ ∈ _, _))

end Store

/-! ## The two requests -/

namespace Matching

section Instruction

variable {p : Partners} {settings : BrokerSettings} {request : Request} {s : Store}
  {packages : List String} {tier : Tier} {a : Aggregate}

/-- A request that is answered by packages to install passed the checks,
and one of its tiers found an aggregate for which they are missing. -/
theorem lacking_of_serve
    (h : (p.serve (matchJob settings request) s).1 = .ok (.installPackages packages tier)) :
    let r := Resolved.of request (p.requirements request.ce request.site)
    request.flaw? = none ∧ s.isBlocked request.ce = false ∧
      (p.serve (matchJob settings request) s).2 = s ∧
      ∃ a, r.Lacks a packages ∧
        (tier = .packageFallback ∧ s.First (r.AtSite s) a ∨
          tier = .remotePackageFallback ∧ (∀ b, ¬ r.AtSite s b) ∧
            s.First (r.Elsewhere s p.now settings.remoteTimeout) a) := by
  intro r
  have hcourse := matchJob_course (p.yields_serve (matchJob settings request) s)
  rw [h] at hcourse
  generalize (p.serve (matchJob settings request) s).2 = s' at hcourse ⊢
  -- a claim never ends in an instruction
  have hclaim : ∀ {id claimTier}, ¬ ClaimEnds p.surroundings p.now settings request s id claimTier
      (.ok (.installPackages packages tier)) s' := by
    intro id claimTier hends
    cases hends
  cases hcourse with
  | @searched requirements _ _ hvalid hopen hlookup hsearch =>
      obtain rfl : requirements = p.requirements request.ce request.site := Except.ok.inj hlookup
      cases hsearch with
      | here htier =>
          rcases htier.settled with ⟨a, -, hends⟩ | ⟨a, missing, -, hfirst, hlacks, heq, rfl⟩
          · exact absurd hends hclaim
          · cases heq
            exact ⟨hvalid, hopen, rfl, a, hlacks, .inl ⟨rfl, hfirst⟩⟩
      | elsewhere hnone htier =>
          rcases htier.settled with ⟨a, -, hends⟩ | ⟨a, missing, -, hfirst, hlacks, heq, rfl⟩
          · exact absurd hends hclaim
          · cases heq
            exact ⟨hvalid, hopen, rfl, a, hlacks, .inr ⟨rfl, hnone, hfirst⟩⟩

variable (settings) in
/-- A claim of what is on offer hands a job out if there are exact counters
and a token. -/
theorem serve_claim_assigned (r : Resolved) (hexact : s.Exact)
    (htoken : ∀ request, ∃ token, p.issue request = .ok token) {f : Filter}
    (ha : s.Offers f a) (claimTier : Tier) :
    ∃ job, (p.serve (claim settings r a.id claimTier).run s).1 = .ok (.assigned job) ∧
      job.tier = claimTier ∧ job.jobId ∈ s.waitingIds a.id := by
  obtain ⟨job, s', hclaim, hmem⟩ := hexact.claims ha r.request.target p.now
  obtain ⟨token, htoken⟩ := htoken (tokenRequest settings job)
  refine ⟨.ofClaim job token claimTier, ?_, rfl, hmem⟩
  rw [serve_claim, hclaim, claimAnswer, htoken]

/-- An instruction to install heals the site.  An agent is told to install
packages; it changes nothing, and the packages are what the agent lacks
for the first aggregate of the class it was served from.  If the agent
installs them, and comes again before anything else happens, then it gets
a job of that aggregate, at the tier that claims where the first request
asked. -/
theorem installing_what_is_missing_gets_the_job (hexact : s.Exact) (hnames : s.NamesPackages)
    (htoken : ∀ request, ∃ token, p.issue request = .ok token)
    (h : (p.serve (matchJob settings request) s).1 = .ok (.installPackages packages tier)) :
    let r := Resolved.of request (p.requirements request.ce request.site)
    (p.serve (matchJob settings request) s).2 = s ∧
      ∃ a, r.Lacks a packages ∧ ∃ job,
        (p.serve (matchJob settings (request.installing packages)) s).1 = .ok (.assigned job) ∧
        job.jobId ∈ s.waitingIds a.id ∧
        (tier = .packageFallback ∧ s.First (r.AtSite s) a ∧ job.tier = .full ∨
          tier = .remotePackageFallback ∧
            s.First (r.Elsewhere s p.now settings.remoteTimeout) a ∧ job.tier = .remote) := by
  intro r
  obtain ⟨hvalid, hopen, hsame, a, hlacks, hclass⟩ := lacking_of_serve h
  refine ⟨hsame, a, hlacks, ?_⟩
  let r' := Resolved.of (request.installing packages) (p.requirements request.ce request.site)
  have hserved : p.serve (matchJob settings (request.installing packages)) s =
      p.serve (searchTiers settings r').run s := serve_matchJob hvalid hopen
  rw [hserved]
  rcases hclass with ⟨rfl, hfirst⟩ | ⟨rfl, hnone, hfirst⟩
  case inl =>
    have hprovides : r'.inventory.Provides a.packages :=
      provides_of_lacks hlacks (hnames a hfirst.mem.1)
    have hready : s.First (r'.Ready (r'.AtSite s)) a := hfirst.ready hprovides
    obtain ⟨job, hjob, htier, hmem⟩ :=
      serve_claim_assigned settings r' hexact htoken hfirst.mem .full
    refine ⟨job, ?_, hmem, .inl ⟨rfl, hfirst, htier⟩⟩
    rw [serve_searchTiers_local (serve_tryTier_ready r'.localFilter_eq hready), hjob]
  case inr =>
    have hprovides : r'.inventory.Provides a.packages :=
      provides_of_lacks hlacks (hnames a hfirst.mem.2.1)
    have haccepts : r'.request.acceptsRemote = true := hfirst.mem.1
    have hready : s.First (r'.Ready (r'.Elsewhere s p.now settings.remoteTimeout)) a :=
      hfirst.ready hprovides
    rw [Resolved.elsewhere_eq haccepts] at hready
    obtain ⟨job, hjob, htier, hmem⟩ :=
      serve_claim_assigned settings r' hexact htoken hfirst.mem.2 .remote
    refine ⟨job, ?_, hmem, .inr ⟨rfl, hfirst, htier⟩⟩
    have hpass : p.serve (tryTier settings r' r'.localFilter .full .packageFallback).run s =
        (.ok none, s) := serve_tryTier_nothing r'.localFilter_eq hnone
    rw [serve_searchTiers_remote hpass haccepts
      (serve_tryTier_ready (r'.remoteFilter_eq p.now settings.remoteTimeout) hready), hjob]

/-- A job that waits, and an aggregate that stands for it and needs two
packages. -/
def storeOfNeeds : Store :=
  (storeOfOne 7 2).insertAggregate { openAggregate 2 1 with packages := ["geant", "root"] }

/-- An agent that has one of them. -/
def requestWithGeant : Request := { agentRequest with installedPackages := some "geant" }

/-- It is told to install the other one, and then gets the job. -/
theorem installing_root_gets_the_job :
    let r := Resolved.of requestWithGeant {}
    storeOfNeeds.Exact ∧ storeOfNeeds.NamesPackages ∧
      (generousPartners.serve (matchJob {} requestWithGeant) storeOfNeeds).1 =
        .ok (.installPackages ["root"] .packageFallback) ∧
      (requestWithGeant.installing ["root"]).installedPackages = some "geant,root" ∧
      (∃ a, r.Lacks a ["root"] ∧ ∃ job,
        (generousPartners.serve (matchJob {} (requestWithGeant.installing ["root"]))
          storeOfNeeds).1 = .ok (.assigned job) ∧
        job.jobId ∈ storeOfNeeds.waitingIds a.id ∧ job.tier = .full) := by
  intro r
  have hexact : storeOfNeeds.Exact := by decide +kernel
  have hnames : storeOfNeeds.NamesPackages := by decide +kernel
  have hfirst : (generousPartners.serve (matchJob {} requestWithGeant) storeOfNeeds).1 =
      .ok (.installPackages ["root"] .packageFallback) := by decide +kernel
  obtain ⟨-, a, hlacks, job, hjob, hmem, htier⟩ :=
    installing_what_is_missing_gets_the_job hexact hnames (fun _ => ⟨_, rfl⟩) hfirst
  refine ⟨hexact, hnames, hfirst, by decide +kernel, a, hlacks, job, hjob, hmem, ?_⟩
  rcases htier with ⟨-, -, htier⟩ | ⟨hremote, -⟩
  · exact htier
  · cases hremote

end Instruction

end Matching

end GridQueue
