/-
# `GridQueue.Proofs.Accounting.Programs` — what each program books

`Enters p good` says that a program leaves deeds in the books that go with
its value: whatever the collaborators answer, if it ends with `a` then
exactly some deeds show, and `good deeds a`.  Sequences are taken apart by
`enters_bind` and `enters_attempt_bind`, calls by the three that show and by
`enters_quiet`.

A request for work books nothing until it claims a job, so what it books
is decided by how it ends (`Matching.deeds`).  A pass over silent jobs and
a batch book one deed for each job moved and each weight written.  A
command that asks for no work books a line of a trace at most
(`Command.EntersLine`).

The proofs follow the programs of the broker one definition at a time, and
each ends in a list of deeds that depends on the value only.  Nothing is
said here about stores or about which answers are possible: a deed is
booked by the call that succeeds, whatever there was before it.
-/
import GridQueue.Proofs.Accounting.Books
import GridQueue.Proofs.Yield

namespace GridQueue

/-! ## Programs and their deeds -/

/-- A program leaves deeds in the books that go with its value. -/
def Enters {α : Type} (p : Action α) (good : List Deed → α → Prop) : Prop :=
  ∀ ⦃b a b'⦄, p.Yields office b a b' → ∃ deeds, good deeds a ∧ Booked deeds b b'

section Enters

variable {α β : Type} {good : List Deed → α → Prop}

theorem enters_done {a : α} (h : good [] a) : Enters (.done a) good := by
  rintro b _ _ ⟨rfl, rfl⟩
  exact ⟨[], h, .refl _⟩

theorem Enters.mono {p : Action α} {good' : List Deed → α → Prop} (h : Enters p good)
    (himp : ∀ deeds a, good deeds a → good' deeds a) : Enters p good' := by
  intro b a b' hyields
  obtain ⟨deeds, hgood, hbooked⟩ := h hyields
  exact ⟨deeds, himp deeds a hgood, hbooked⟩

theorem enters_bind {p : Action α} {f : α → Action β} {good : List Deed → β → Prop}
    (h : Enters p fun deeds a => Enters (f a) fun deeds' c => good (deeds ++ deeds') c) :
    Enters (p >>= f) good := by
  intro b c b' hyields
  obtain ⟨a, b₁, hp, hf⟩ := Program.yields_bind.mp hyields
  obtain ⟨deeds, hrest, hbooked⟩ := h hp
  obtain ⟨deeds', hgood, hbooked'⟩ := hrest hf
  exact ⟨deeds ++ deeds', hgood, hbooked.trans hbooked'⟩

theorem enters_attempt_bind {x : Matching.Attempt α} {f : α → Matching.Attempt β}
    {good : List Deed → Except BrokerError β → Prop}
    (h : Enters x.run fun deeds r =>
      match r with
      | .ok a => Enters (f a).run fun deeds' c => good (deeds ++ deeds') c
      | .error e => good deeds (.error e)) :
    Enters (x >>= f).run good := by
  rw [ExceptT.run_bind]
  refine enters_bind (h.mono fun deeds r hr => ?_)
  cases r with
  | ok a => exact hr
  | error e =>
    refine enters_done ?_
    rw [List.append_nil]
    exact hr

/-! ### Calls -/

theorem enters_perform {c : Call} {good : List Deed → c.Answer → Prop}
    (h : ∀ ⦃b a b'⦄, office c b a b' → ∃ deeds, good deeds a ∧ Booked deeds b b') :
    Enters (Program.perform c) good :=
  fun _ _ _ hyields => h (Program.yields_perform.mp hyields)

theorem enters_quiet {c : Call} {good : List Deed → c.Answer → Prop} (hc : c.shows = false)
    (h : ∀ a, good [] a) : Enters (Program.perform c) good :=
  enters_perform fun _ a _ hoffice => ⟨[], h a, booked_quiet hc hoffice⟩

theorem enters_note {event : Metrics.Event} {good : List Deed → Unit → Prop}
    (h : good (Deed.ofEvent? event).toList ()) : Enters (Action.note event) good :=
  enters_perform fun _ _ _ hoffice => ⟨_, h, booked_note hoffice⟩

theorem enters_attempt {c : StoreCall} {good : List Deed → Unit → Prop} {deeds : List Deed}
    (hc : ∀ ⦃b a b'⦄, office (.store c) b a b' → Booked deeds b b') (h : good deeds ()) :
    Enters (Action.attempt c) good := by
  refine enters_bind (enters_perform fun b a b' hoffice => ⟨deeds, ?_, hc hoffice⟩)
  refine enters_done ?_
  rw [List.append_nil]
  exact h

end Enters

/-! ## Requests for work -/

namespace Matching

/-- What shows of an error: a token could not be had for a claimed job. -/
def errorDeeds : BrokerError → List Deed
  | .credential jobId e =>
      [.credentialFailure, .traced jobId traceTag ("credential issuance failed: " ++ e.message)]
  | _ => []

/-- What shows of an outcome for an agent of a computing element. -/
def outcomeDeeds (ce : String) : Outcome → List Deed
  | .assigned job => [.traced job.jobId traceTag ("job assigned to " ++ ce), .handedOut ce]
  | .nothingToRun .claimConflict => [.claimConflict]
  | .installPackages _ _ | .nothingToRun .noCandidate | .nothingToRun .queueBlocked => []

/-- What shows of an attempt, by its value or its error. -/
def showing {α : Type} (of : α → List Deed) : Except BrokerError α → List Deed
  | .ok a => of a
  | .error e => errorDeeds e

/-- What shows of a request for work, but for the answer itself. -/
def deeds (ce : String) : Except BrokerError Outcome → List Deed := showing (outcomeDeeds ce)

/-- An attempt books what its value or its error shows. -/
def Shows {α : Type} (x : Attempt α) (of : α → List Deed) : Prop :=
  Enters x.run fun deeds r => deeds = showing of r

section Shows

variable {α β : Type} {x : Attempt α} {of : α → List Deed}

theorem shows_pure {a : α} (h : of a = []) : Shows (pure a) of :=
  enters_done h.symm

theorem shows_throw {e : BrokerError} (h : errorDeeds e = []) : Shows (throw e) of :=
  enters_done h.symm

theorem Shows.bind {f : α → Attempt β} {of : β → List Deed} (h : Shows x fun _ => [])
    (hf : ∀ a, Shows (f a) of) : Shows (x >>= f) of := by
  refine enters_attempt_bind (h.mono fun deeds r hr => ?_)
  cases r with
  | ok a =>
    obtain rfl : deeds = [] := hr
    exact hf a
  | error e => exact hr

theorem Shows.map {f : α → β} {of' : β → List Deed} (h : Shows x of)
    (hof : ∀ a, of' (f a) = of a) : Shows (do return f (← x)) of' := by
  refine enters_attempt_bind (h.mono fun deeds r hr => ?_)
  cases r with
  | ok a =>
    refine enters_done ?_
    rw [List.append_nil, showing, hof]
    exact hr
  | error e => exact hr

theorem shows_lift {p : Action α} (h : Enters p fun deeds a => deeds = of a) :
    Shows (ExceptT.lift p) of := by
  refine enters_bind (h.mono fun deeds a ha => enters_done ?_)
  rw [List.append_nil]
  exact ha

theorem shows_ask {c : StoreCall} (hc : (Call.store c).shows = false) :
    Shows (ask c) fun _ => [] := by
  refine enters_bind (enters_quiet hc fun a => ?_)
  cases a with
  | ok v => exact enters_done rfl
  | error e => exact enters_done rfl

theorem shows_askSite (ce site : String) : Shows (askSite ce site) fun _ => [] := by
  refine enters_bind (enters_quiet rfl fun a => ?_)
  cases a with
  | ok v => exact enters_done rfl
  | error e => exact enters_done rfl

end Shows

variable {settings : BrokerSettings} {r : Resolved}

theorem enters_recordAssignment (claimed : ClaimedJob) (target : ClaimTarget) :
    Enters (recordAssignment claimed target) fun deeds _ =>
      deeds = [.traced claimed.jobId traceTag ("job assigned to " ++ target.ce),
        .handedOut target.ce] := by
  refine enters_bind (enters_attempt (fun _ _ _ => booked_trace) ?_)
  exact enters_attempt (fun _ _ _ => booked_handOut) rfl

theorem enters_rollBack (claimed : ClaimedJob) (request : TokenRequest) (e : CredentialError) :
    Enters (rollBack claimed request e) fun deeds _ =>
      deeds = [.traced claimed.jobId traceTag ("credential issuance failed: " ++ e.message)] := by
  refine enters_bind (enters_attempt (fun _ _ _ => booked_quiet rfl) ?_)
  refine enters_bind (enters_quiet rfl fun _ => ?_)
  exact enters_attempt (fun _ _ _ => booked_trace) rfl

theorem shows_handOut (claimed : ClaimedJob) (target : ClaimTarget) (tier : Tier) :
    Shows (handOut settings claimed target tier) (outcomeDeeds target.ce) := by
  refine enters_bind (enters_quiet rfl fun a => ?_)
  cases a with
  | ok token =>
    refine enters_bind ((enters_recordAssignment claimed target).mono ?_)
    rintro _ _ rfl
    exact enters_done rfl
  | error e =>
    refine enters_bind (enters_note ?_)
    refine enters_bind ((enters_rollBack claimed _ e).mono ?_)
    rintro _ _ rfl
    exact enters_done rfl

theorem shows_claim (aggregateId : Int) (tier : Tier) :
    Shows (claim settings r aggregateId tier) (outcomeDeeds r.request.ce) := by
  refine (shows_ask rfl).bind fun claimed => ?_
  cases claimed with
  | none =>
    have hnote : Shows (ExceptT.lift (Action.note .claimConflict)) fun _ => [.claimConflict] :=
      shows_lift (enters_note rfl)
    exact hnote.map fun _ => rfl
  | some claimed =>
    refine (shows_lift ?_).bind fun _ => shows_handOut claimed _ tier
    exact enters_attempt (fun _ _ _ => booked_quiet rfl) rfl

/-- What shows of a tier, which may have found nothing. -/
def foundDeeds (ce : String) (found : Option Outcome) : List Deed :=
  found.elim [] (outcomeDeeds ce)

theorem shows_tryFallback (filterOf : PackageCheck → Filter) (claimTier fallbackTier : Tier) :
    Shows (tryFallback settings r filterOf claimTier fallbackTier) (foundDeeds r.request.ce) := by
  refine (shows_ask rfl).bind fun found => ?_
  cases found with
  | none => exact shows_pure rfl
  | some a =>
    dsimp only
    split
    next => exact (shows_claim a.id claimTier).map fun _ => rfl
    next => exact shows_pure rfl

theorem shows_tryTier (filterOf : PackageCheck → Filter) (claimTier fallbackTier : Tier) :
    Shows (tryTier settings r filterOf claimTier fallbackTier) (foundDeeds r.request.ce) := by
  refine (shows_ask rfl).bind fun found => ?_
  cases found with
  | some a => exact (shows_claim a.id claimTier).map fun _ => rfl
  | none =>
    dsimp only
    split
    next => exact shows_tryFallback filterOf claimTier fallbackTier
    next => exact shows_pure rfl

theorem shows_tryRemote : Shows (tryRemote settings r) (foundDeeds r.request.ce) := by
  rw [tryRemote]
  split
  next =>
    refine (shows_lift (enters_quiet rfl fun _ => rfl)).bind fun now => ?_
    exact shows_tryTier _ _ _
  next => exact shows_pure rfl

theorem shows_orElse {x : Attempt (Option Outcome)} {y : Attempt Outcome} {ce : String}
    (hx : Shows x (foundDeeds ce)) (hy : Shows y (outcomeDeeds ce)) :
    Shows (do match ← x with
      | some outcome => return outcome
      | none => y) (outcomeDeeds ce) := by
  refine enters_attempt_bind (hx.mono fun deeds found hdeeds => ?_)
  subst hdeeds
  match found with
  | .error e => rfl
  | .ok none => exact hy
  | .ok (some outcome) =>
    refine enters_done ?_
    rw [List.append_nil]
    rfl

theorem shows_searchTiers : Shows (searchTiers settings r) (outcomeDeeds r.request.ce) := by
  refine shows_orElse (shows_tryTier _ _ _) (shows_orElse shows_tryRemote ?_)
  exact (shows_ask rfl).bind fun _ => shows_pure rfl

theorem shows_findWork (settings : BrokerSettings) (request : Request) :
    Shows (findWork settings request) (outcomeDeeds request.ce) := by
  rw [findWork]
  split
  next => exact shows_throw rfl
  next =>
    refine (shows_ask rfl).bind fun queue => ?_
    split
    next => exact shows_pure rfl
    next => exact (shows_askSite _ _).bind fun requirements => shows_searchTiers

/-- What shows of a request for work, its answer included. -/
def answerDeeds (ce : String) (result : Except BrokerError Outcome) : List Deed :=
  deeds ce result ++ [.matchEnded (resultLabels result).1 (resultLabels result).2]

theorem enters_matchJob (settings : BrokerSettings) (request : Request) :
    Enters (matchJob settings request) fun deeds result =>
      deeds = answerDeeds request.ce result := by
  refine enters_bind (enters_quiet rfl fun started => ?_)
  refine enters_bind ((shows_findWork settings request).mono ?_)
  rintro _ result rfl
  refine enters_bind (enters_quiet rfl fun ended => ?_)
  refine enters_bind (enters_note ?_)
  exact enters_done rfl

end Matching

/-! ## Sweeps and batches -/

namespace Liveness

variable {sources : List Status} {target : Status} {cutoff : Instant}

/-- A pass that goes on from some counts moves so many jobs more. -/
def Moves (target : Status) (counts : PassCounts) (deeds : List Deed) (counts' : PassCounts) :
    Prop :=
  ∃ n, counts'.moved = counts.moved + n ∧ deeds = List.replicate n (.silentJob target.name)

theorem enters_move (counts : PassCounts) (job : StaleJob) :
    Enters (move sources target cutoff counts job) (Moves target counts) := by
  refine enters_bind (enters_quiet rfl fun a => ?_)
  match a with
  | .ok true => exact enters_bind (enters_note (enters_done ⟨1, rfl, rfl⟩))
  | .ok false => exact enters_bind (enters_note (enters_done ⟨0, rfl, rfl⟩))
  | .error e => exact enters_done ⟨0, rfl, rfl⟩

theorem enters_moveAll : ∀ (counts : PassCounts) (jobs : List StaleJob),
    Enters (moveAll sources target cutoff counts jobs) (Moves target counts)
  | counts, [] => enters_done ⟨0, rfl, rfl⟩
  | counts, job :: rest => by
      refine enters_bind ((enters_move counts job).mono ?_)
      rintro _ counts₁ ⟨n, hn, rfl⟩
      refine (enters_moveAll counts₁ rest).mono ?_
      rintro _ counts₂ ⟨m, hm, rfl⟩
      exact ⟨n + m, by omega, List.replicate_append_replicate⟩

def passDeeds (target : Status) (counts : PassCounts) : List Deed :=
  List.replicate counts.moved (.silentJob target.name)

theorem enters_pass (sources : List Status) (target : Status) (cutoff : Instant) :
    Enters (pass sources target cutoff) fun deeds result =>
      ∃ counts, result = .ok counts ∧ deeds = passDeeds target counts := by
  refine enters_bind (enters_perform fun b a b' hoffice => ⟨[], ?_, booked_quiet rfl hoffice⟩)
  obtain ⟨now, hperform⟩ := Surroundings.steady_store hoffice.1
  obtain rfl : .ok (b.1.staleJobs sources cutoff) = a := congrArg Prod.fst hperform
  refine enters_bind ((enters_moveAll _ _).mono ?_)
  rintro _ counts ⟨n, hn, rfl⟩
  refine enters_done ⟨counts, rfl, ?_⟩
  rw [List.append_nil, passDeeds, hn, Nat.zero_add]
  rfl

def reportDeeds : Report → List Deed
  | .skipped => []
  | .completed zombie expired _ => passDeeds .zombie zombie ++ passDeeds .expired expired

theorem enters_sweep (settings : LivenessSettings) (now : Instant) :
    Enters (sweep settings now) fun deeds result =>
      deeds = (result.toOption.map reportDeeds).getD [] := by
  refine enters_bind (enters_quiet rfl fun started => ?_)
  split
  next => exact enters_done rfl
  next zombieCutoff expiredCutoff _ =>
    have hpasses : Enters (passes zombieCutoff expiredCutoff) fun deeds result =>
        ∃ zombie expired, result = .ok (zombie, expired) ∧
          deeds = passDeeds .zombie zombie ++ passDeeds .expired expired := by
      refine enters_bind ((enters_pass _ _ _).mono ?_)
      rintro _ _ ⟨zombie, rfl, rfl⟩
      refine enters_bind ((enters_pass _ _ _).mono ?_)
      rintro _ _ ⟨expired, rfl, rfl⟩
      refine enters_done ⟨zombie, expired, rfl, ?_⟩
      rw [List.append_nil]
    refine enters_bind (hpasses.mono ?_)
    rintro _ _ ⟨zombie, expired, rfl, rfl⟩
    refine enters_bind (enters_quiet rfl fun ended => ?_)
    refine enters_bind (enters_note (enters_done ?_))
    simp only [List.nil_append, List.append_nil, Deed.ofEvent?, Option.toList_none]
    rfl

theorem enters_cycle (settings : LivenessSettings) (owner : String) :
    Enters (cycle settings owner) fun deeds result =>
      deeds = (result.toOption.map reportDeeds).getD [] := by
  refine enters_bind (enters_quiet rfl fun now => ?_)
  refine enters_bind (enters_quiet rfl fun a => ?_)
  match a with
  | .error e => exact enters_done rfl
  | .ok false => exact enters_done rfl
  | .ok true => exact enters_sweep settings now

end Liveness

namespace FairShare

/-- A batch that goes on from a report writes so many weights more. -/
def Writes (report : BatchReport) (deeds : List Deed) (report' : BatchReport) : Prop :=
  ∃ n, report'.updated = report.updated + n ∧ deeds = List.replicate n .weightWritten

theorem enters_writeWeight (report : BatchReport) (r : Record) :
    Enters (writeWeight report r) (Writes report) := by
  refine enters_bind (enters_quiet rfl fun started => ?_)
  refine enters_bind (enters_quiet rfl fun result => ?_)
  refine enters_bind (enters_quiet rfl fun ended => ?_)
  cases result with
  | ok _ => exact enters_bind (enters_note (enters_done ⟨1, rfl, rfl⟩))
  | error e => exact enters_bind (enters_note (enters_done ⟨0, rfl, rfl⟩))

theorem enters_writeWeights : ∀ (report : BatchReport) (records : List Record),
    Enters (writeWeights report records) (Writes report)
  | report, [] => enters_done ⟨0, rfl, rfl⟩
  | report, r :: rest => by
      refine enters_bind ((enters_writeWeight report r).mono ?_)
      rintro _ report₁ ⟨n, hn, rfl⟩
      refine (enters_writeWeights report₁ rest).mono ?_
      rintro _ report₂ ⟨m, hm, rfl⟩
      exact ⟨n + m, by omega, List.replicate_append_replicate⟩

def reportDeeds (report : BatchReport) : List Deed := List.replicate report.updated .weightWritten

theorem enters_batch (scope : Scope) :
    Enters (batch scope) fun deeds result => deeds = (result.toOption.map reportDeeds).getD [] := by
  refine enters_bind (enters_quiet rfl fun started => ?_)
  refine enters_bind (enters_quiet rfl fun a => ?_)
  cases a with
  | error e => exact enters_done rfl
  | ok records =>
    refine enters_bind ((enters_writeWeights _ records).mono ?_)
    rintro _ report ⟨n, hn, rfl⟩
    refine enters_bind (enters_quiet rfl fun ended => ?_)
    refine enters_bind (enters_note (enters_done ?_))
    simp only [List.nil_append, List.append_nil, Deed.ofEvent?, Option.toList_none]
    show _ = List.replicate report.updated _
    rw [hn, Nat.zero_add]

theorem enters_batchIfDue (scope : Scope) (owner : String) (interval : Span) :
    Enters (batchIfDue scope owner interval) fun deeds result =>
      deeds = (result.toOption.join.map reportDeeds).getD [] := by
  refine enters_bind (enters_quiet rfl fun now => ?_)
  refine enters_bind (enters_quiet rfl fun a => ?_)
  match a with
  | .error e => exact enters_done rfl
  | .ok false => exact enters_done rfl
  | .ok true =>
    refine enters_bind ((enters_batch scope).mono ?_)
    rintro _ result rfl
    cases result with
    | ok report =>
      refine enters_done ?_
      simp only [List.nil_append, List.append_nil]
      rfl
    | error e => exact enters_done rfl

end FairShare

/-! ## Commands -/

namespace Command

/-- How the request for work in a command was answered. -/
def answer? : Except CommandError Response → Option (Except BrokerError Matching.Outcome)
  | .ok (.matched _ _ outcome) => some (.ok outcome)
  | .error (.broker e) => some (.error e)
  | _ => none

/-- The line a command that asks for no work adds to the trace of a job. -/
def line? : Command → Except CommandError Response → Option (Int × String × String)
  | appendTrace jobId tag message, .ok _ => some (jobId, tag, message)
  | forceJobStatus jobId status, .ok (.status _ .applied) =>
      some (jobId, adminTag, "status forced to " ++ status.name)
  | _, _ => none

end Command

def Deed.ofLine (line : Int × String × String) : Deed := .traced line.1 line.2.1 line.2.2

namespace Command

/-- A command that asks for no work books its line. -/
def EntersLine (p : Action (Except CommandError Response)) (c : Command) : Prop :=
  Enters p fun deeds result => deeds = (c.line? result).toList.map Deed.ofLine

theorem enters_respond {c : Command} {call : StoreCall} {f : call.Value → Response}
    (hc : (Call.store call).shows = false)
    (hline : ∀ a : Except StoreError call.Value, c.line? (respond a f) = none) :
    EntersLine (do return respond (← Action.store call) f) c := by
  refine enters_bind (enters_quiet hc fun a => enters_done ?_)
  exact congrArg (fun line => line.toList.map Deed.ofLine) (hline a).symm

theorem enters_runGetJobs (ids : List Int) : EntersLine (runGetJobs ids) (getJobs ids) := by
  rw [runGetJobs]
  split
  next => exact enters_respond rfl fun _ => rfl
  next => exact enters_done rfl

theorem enters_runAppendTrace (jobId : Int) (tag message : String) :
    EntersLine (runAppendTrace jobId tag message) (appendTrace jobId tag message) := by
  rw [runAppendTrace]
  split
  next => exact enters_done rfl
  next =>
    refine enters_bind (enters_perform fun b a b' hoffice => ⟨_, ?_, booked_trace hoffice⟩)
    obtain ⟨now, hperform⟩ := Surroundings.steady_store hoffice.1
    obtain rfl : .ok () = a := congrArg Prod.fst hperform
    exact enters_done rfl

theorem enters_runForce (jobId : Int) (status : Status) :
    EntersLine (runForce jobId status) (forceJobStatus jobId status) := by
  rw [runForce]
  split
  next =>
    refine enters_bind (enters_quiet rfl fun a => ?_)
    match a with
    | .error e => exact enters_done rfl
    | .ok (.applied previous) =>
      refine enters_bind (enters_attempt (fun _ _ _ => booked_trace) ?_)
      exact enters_done rfl
    | .ok (.stale current) => exact enters_done rfl
    | .ok (.rejected current) => exact enters_done rfl
    | .ok .notFound => exact enters_done rfl
  next => exact enters_done rfl

theorem enters_runMatch (settings : BrokerSettings) (request : Matching.Request) :
    Enters (runMatch settings request) fun deeds result =>
      ∃ answer, answer? result = some answer ∧ deeds = Matching.answerDeeds request.ce answer := by
  refine enters_bind ((Matching.enters_matchJob settings request).mono ?_)
  rintro _ answer rfl
  cases answer with
  | ok outcome => exact enters_done ⟨.ok outcome, rfl, List.append_nil _⟩
  | error e => exact enters_done ⟨.error e, rfl, List.append_nil _⟩

theorem enters_dispatch {c : Command} {settings : BrokerSettings}
    {good : List Deed → Except CommandError Response → Prop}
    (h : Enters (c.execute settings) fun deeds result =>
      good (deeds ++ [.commandEnded c.name (succeeded result)]) result) :
    Enters (c.dispatch settings) good := by
  refine enters_bind (h.mono fun deeds result hgood => ?_)
  refine enters_bind (enters_note (enters_done ?_))
  rw [List.append_nil]
  exact hgood

end Command

end GridQueue
