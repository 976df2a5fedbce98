/-
# `GridQueue.Proofs.ErrorCode` — whose fault an error was

The code of an error tells the caller what to do next, so it has to say
whose fault the error was:

| fault                                        | code         |
| :------------------------------------------- | :----------- |
| the command is unacceptable in itself        | `invalid`    |
| the token service gave no token              | `credential` |
| the store or the directory failed for now    | `transient`  |
| the store or the directory failed for good   | `internal`   |

What failed is found in the calls of the command, in whatever order other
tasks make theirs in between (`failure?`, `gathering`).  The stages of a
request for work remember what stopped them, and nothing else stops them
(`Blamed.step`).

One fault is not told by its code: a request for work that no tier could
serve is refused before anything is called, as every unacceptable command
is, and yet the code is `internal` (`flawed_request_counts_as_internal`).
-/
import GridQueue.Proofs.Claim

namespace GridQueue

/-! ## Gathering along a program -/

section Gathering

open Program

variable {ι C σ β : Type} {A : C → Type} {α : ι → Type} [DecidableEq ι] {W : World C A σ}
  {start t : Threads ι C A α σ} {es : List (Event ι C A σ)} {i : ι}

/-- Any call may be made, and what is found in it is kept. -/
def gathering (f : (c : C) → A c → Option β) : Protocol C A (List β) :=
  fun found c a found' => found' = found ++ (f c a).toList

/-- What a program makes of what is found in its calls it makes of it in
every run. -/
theorem Run.ends_with_gathered {f : (c : C) → A c → Option β} {ends : List β → α i → Prop}
    {a : α i} (h : Run W start es t) (hfollows : (start.rest i).Follows (gathering f) ends [])
    (ha : t.Finished i a) : ends (Event.gather f i es) a := by
  obtain ⟨found, rfl, hrest⟩ := h.invariant_of_one i hfollows
    (fun es found _ => found = Event.gather f i es) rfl
    (fun es found s c a s' found' hfound hmove _ => by
      rw [Event.gather_own, ← hfound]
      exact hmove)
    (fun es found s j c a s' hj hfound _ => by
      rw [Event.gather_other hj]
      exact hfound)
  rw [show t.rest i = .done a from ha] at hrest
  exact hrest

end Gathering

/-! ## What can be at fault -/

/-- A call that failed, and how. -/
inductive Failure
  /-- The jobs or the traces could not be read or written. -/
  | store (e : StoreError)
  | directory (e : DirectoryError)
  /-- There was no token for a claimed job. -/
  | issuer (e : CredentialError)
  deriving DecidableEq

namespace Failure

/-- The store or the directory failed, for now or for good. -/
def IsOutage (transient : Bool) : Failure → Prop
  | store e => e.isTransient = transient
  | directory e => e.isTransient = transient
  | issuer _ => False

def IsRefusal : Failure → Prop
  | issuer _ => True
  | store _ | directory _ => False

end Failure

/-- The error of an answer, if it is one. -/
def failed? {ε α : Type} (cause : ε → Failure) : Except ε α → Option Failure
  | .ok _ => none
  | .error e => some (cause e)

/-- What failed at a call.  To have a token revoked may fail unnoticed. -/
def failure? : (c : Call) → c.Answer → Option Failure
  | .store _, answer => failed? .store answer
  | .lookup _ _, answer => failed? .directory answer
  | .issue _, answer => failed? .issuer answer
  | .revoke _, _ | .now, _ | .stopwatch, _ | .note _, _ => none

theorem failed?_eq_some {ε α : Type} {cause : ε → Failure} {answer : Except ε α} {f : Failure} :
    failed? cause answer = some f ↔ ∃ e, answer = .error e ∧ cause e = f := by
  cases answer <;> simp [failed?]

/-- What is behind an error, if a call failed. -/
def CommandError.failure? : CommandError → Option Failure
  | broker (.store e) | store e => some (.store e)
  | broker (.directory e) => some (.directory e)
  | broker (.credential _ e) => some (.issuer e)
  | broker (.invalidRequest _) | invalid _ | shuttingDown => none

namespace Command

/-- The command itself is at fault. -/
inductive Unacceptable : Command → Prop
  | noJobs : Unacceptable (getJobs [])
  | tooManyJobs {ids : List Int} : 1000 < ids.length → Unacceptable (getJobs ids)
  | blankTag {jobId tag message} : Text.isBlankText tag = true →
      Unacceptable (appendTrace jobId tag message)
  | emptyMessage {jobId tag} : Unacceptable (appendTrace jobId tag "")
  | noFailureStatus {jobId} {status : Status} : status.isFailure = false →
      Unacceptable (forceJobStatus jobId status)
  | flawedRequest {request : Matching.Request} {flaw} : request.flaw? = some flaw →
      Unacceptable (matchJob request)

/-- The command asks for work in a way that no tier could serve. -/
def IsFlawedRequest (c : Command) : Prop := ∃ request, c = matchJob request ∧ c.Unacceptable

end Command

/-- The code of a result, if it is an error. -/
def code? : Except CommandError Response → Option String
  | .ok _ => none
  | .error e => some e.code

/-- The call is of neither the store nor another collaborator. -/
inductive Call.Quiet : Call → Prop
  | now : Quiet .now
  | stopwatch : Quiet .stopwatch
  | note {event} : Quiet (.note event)

theorem Call.Quiet.unchanged {w : Surroundings} {c : Call} {a : c.Answer} {s s' : Store}
    (hc : c.Quiet) (h : w.world c s a s') : s' = s := by
  cases hc <;> exact h

theorem Call.Quiet.failure?_eq_none {c : Call} (hc : c.Quiet) (a : c.Answer) :
    failure? c a = none := by
  cases hc <;> rfl

/-! ## Unacceptable commands -/

namespace Command

variable {settings : BrokerSettings} {c : Command}

/-- The error with which the command is refused. -/
inductive RefusedWith : Command → CommandError → Prop
  | invalid {c reason} : ¬ c.IsFlawedRequest → RefusedWith c (.invalid reason)
  | flawed {c reason} : c.IsFlawedRequest → RefusedWith c (.broker (.invalidRequest reason))

theorem dispatch_of_flaw {request : Matching.Request} {flaw : Matching.Request.Flaw}
    (h : request.flaw? = some flaw) : (matchJob request).dispatch settings = do
      let started ← Action.stopwatch
      let ended ← Action.stopwatch
      Action.note (.matchEnded "error" "none" (Span.between started ended).inSeconds)
      Action.note (.commandEnded "match_job" false)
      return .error (.broker (.invalidRequest flaw.message)) := by
  have hsearch : (Matching.findWork settings request).run =
      .done (.error (.invalidRequest flaw.message)) := by
    rw [Matching.findWork, h]
    rfl
  rw [dispatch, execute, runMatch, Matching.matchJob, hsearch]
  rfl

/-- An unacceptable command calls no collaborator, and is refused. -/
theorem Unacceptable.follows (h : c.Unacceptable) :
    (c.dispatch settings).Follows (fun (_ : Unit) call _ _ => call.Quiet)
      (fun _ r => ∃ e, r = .error e ∧ c.RefusedWith e) () := by
  have hinvalid (reason : String) (hc : ∀ request, c ≠ matchJob request)
      (hexecute : c.execute settings = .done (.error (.invalid reason))) :
      (c.dispatch settings).Follows (fun (_ : Unit) call _ _ => call.Quiet)
        (fun _ r => ∃ e, r = .error e ∧ c.RefusedWith e) () := by
    rw [dispatch, hexecute]
    exact fun _ => ⟨(), .note, _, rfl, .invalid fun ⟨request, heq, _⟩ => hc request heq⟩
  cases h with
  | noJobs => exact hinvalid _ nofun rfl
  | tooManyJobs hmany =>
    refine hinvalid _ nofun (if_neg fun hlength => ?_)
    exact Nat.not_lt.mpr hlength.2 hmany
  | blankTag hblank => exact hinvalid _ nofun (if_pos (by rw [hblank]; rfl))
  | emptyMessage => exact hinvalid _ nofun (if_pos (Bool.or_eq_true_iff.mpr (.inr rfl)))
  | noFailureStatus hstatus =>
    refine hinvalid _ nofun (if_neg ?_)
    rw [hstatus]
    exact Bool.false_ne_true
  | @flawedRequest request flaw hflaw =>
    rw [dispatch_of_flaw hflaw]
    exact fun _ => ⟨(), .stopwatch, fun _ => ⟨(), .stopwatch, fun _ => ⟨(), .note,
      fun _ => ⟨(), .note, _, rfl, .flawed ⟨request, rfl, .flawedRequest hflaw⟩⟩⟩⟩⟩

end Command

/-! ## Acceptable commands -/

/-- A result is explained by what failed: an error is one of the failures,
and a token that was not given is the error. -/
inductive Explained (failures : List Failure) : Except CommandError Response → Prop
  | ok {response} : (∀ e, .issuer e ∉ failures) → Explained failures (.ok response)
  | error {e f} : e.failure? = some f → f ∈ failures →
      (∀ e', .issuer e' ∈ failures → f = .issuer e') → Explained failures (.error e)

theorem issuer_not_mem_failed? {α : Type} {answer : Except StoreError α} {e : CredentialError} :
    .issuer e ∉ (failed? .store answer).toList := by
  intro h
  obtain ⟨_, -, hne⟩ := failed?_eq_some.mp (Option.mem_toList.mp h)
  cases hne

theorem explained_store (e : StoreError) : Explained [.store e] (.error (.store e)) := by
  refine .error rfl (List.mem_singleton_self _) fun e' h => ?_
  cases List.mem_singleton.mp h

theorem explained_respond {c : StoreCall} (answer : Except StoreError c.Value)
    (f : c.Value → Response) :
    Explained (failure? (.store c) answer).toList (Command.respond answer f) := by
  cases answer with
  | ok v => exact .ok fun _ h => nomatch h
  | error e => exact explained_store e

namespace Matching

namespace Stage

/-- What stopped a request, or is about to. -/
def failure? : Stage → Option Failure
  | failed (.store e) => some (.store e)
  | failed (.directory e) => some (.directory e)
  | failed (.credential _ e) | refused _ e | withdrawn _ e | revoked _ e | undone _ e =>
      some (.issuer e)
  | failed (.invalidRequest _) | arriving | resolved _ | wanting _ | chosen _ _ | holding _ _ _
  | counted _ _ | issued _ _ _ | traced _ _ _ | install _ _ | nothing _ | delivered _ _ _ => none

end Stage

/-- What failed for a request stands in its stage, if it stopped the
request, and always if no token was given. -/
structure Blamed (m : Stage) (failures : List Failure) : Prop where
  cause : ∀ f, m.failure? = some f → f ∈ failures
  refusal : ∀ e, .issuer e ∈ failures → m.failure? = some (.issuer e)
  sound : ∀ reason, m ≠ .failed (.invalidRequest reason)

section Steps

variable {settings : BrokerSettings} {request : Request} {m m' : Stage} {c : Call} {a : c.Answer}

theorem Stage.Moves.cause (h : Stage.Moves settings request m c a m') {f : Failure}
    (hf : m'.failure? = some f) : m.failure? = some f ∨ GridQueue.failure? c a = some f := by
  cases h with
  | stopwatch | now | note | withdraw | revoke | traceRefusal => exact .inl hf
  | queueError | siteError | firstError | laterError | noMatchError | claimError | refuse =>
    exact .inr hf
  | _ => cases hf

theorem Stage.Moves.refusal (h : Stage.Moves settings request m c a m') {e : CredentialError}
    (he : m.failure? = some (.issuer e) ∨ GridQueue.failure? c a = some (.issuer e)) :
    m'.failure? = some (.issuer e) := by
  have hstore {sc : StoreCall} {answer : Except StoreError sc.Value} :
      failed? Failure.store answer ≠ some (.issuer e) := by
    intro heq
    obtain ⟨_, -, hne⟩ := failed?_eq_some.mp heq
    cases hne
  cases h with
  | stopwatch | now | note | revoke => exact he.resolve_right nofun
  | withdraw | traceRefusal | count | trace | adjust => exact he.resolve_right hstore
  | refuse => exact he.resolve_left nofun
  | _ => rcases he with he | he <;> cases he

end Steps

theorem Blamed.step {settings : BrokerSettings} {request : Request} {m m' : Stage} {c : Call}
    {a : c.Answer} {failures : List Failure} (h : Blamed m failures)
    (hmove : Stage.Moves settings request m c a m') :
    Blamed m' (failures ++ (GridQueue.failure? c a).toList) where
  cause f hf := by
    rcases hmove.cause hf with hbefore | hnow
    · exact List.mem_append_left _ (h.cause f hbefore)
    · exact List.mem_append_right _ (Option.mem_toList.mpr hnow)
  refusal e he := by
    refine hmove.refusal ((List.mem_append.mp he).imp (h.refusal e) ?_)
    exact fun hnow => Option.mem_toList.mp hnow
  sound reason hreason := by
    cases hmove with
    | stopwatch | now | note => exact h.sound reason hreason
    | _ => cases hreason

theorem Blamed.start {request : Request} (h : request.flaw? = none) :
    Blamed (.first request) [] := by
  rw [Stage.first, h]
  exact ⟨fun _ h => (by cases h), fun _ h => (by cases h), nofun⟩

theorem Stage.failure?_of_error {m : Stage} {e : BrokerError} (h : m.result? = some (.error e)) :
    m.failure? = (CommandError.broker e).failure? := by
  cases m with
  | failed => cases h; cases e <;> rfl
  | undone => cases h; rfl
  | _ => cases h

theorem Stage.failure?_of_ok {m : Stage} {outcome : Outcome}
    (h : m.result? = some (.ok outcome)) : m.failure? = none := by
  cases m with
  | install | nothing | delivered => rfl
  | _ => cases h

theorem Blamed.explained_ok {m : Stage} {failures : List Failure} {outcome : Outcome}
    {response : Response} (h : Blamed m failures) (hresult : m.result? = some (.ok outcome)) :
    Explained failures (.ok response) := by
  refine .ok fun e he => ?_
  cases (Stage.failure?_of_ok hresult).symm.trans (h.refusal e he)

theorem Blamed.explained_error {m : Stage} {failures : List Failure} {e : BrokerError}
    (h : Blamed m failures) (hresult : m.result? = some (.error e)) :
    Explained failures (.error (.broker e)) := by
  have hcause := Stage.failure?_of_error hresult
  have hfailure : ∃ f, (CommandError.broker e).failure? = some f := by
    cases e with
    | store | directory | credential => exact ⟨_, rfl⟩
    | invalidRequest reason =>
      cases m with
      | failed => cases hresult; exact absurd rfl (h.sound reason)
      | _ => cases hresult
  obtain ⟨f, hf⟩ := hfailure
  refine .error hf (h.cause f (hcause.trans hf)) fun e' he' => ?_
  exact Option.some.inj (hf.symm.trans (hcause.symm.trans (h.refusal e' he')))

end Matching

namespace Command

open Program

variable {settings : BrokerSettings} {c : Command}

theorem explained_runMatch {request : Matching.Request} (h : request.flaw? = none) :
    (runMatch settings request).Follows (gathering failure?) Explained [] := by
  refine follows_bind.mpr ?_
  refine (Matching.matchJob_follows.simulate (Q := gathering failure?) (R := Matching.Blamed)
    (.start h) fun m failures c a m' hblamed hmove => ⟨_, rfl, hblamed.step hmove⟩).mono ?_
  rintro failures result ⟨m, hblamed, hresult⟩
  cases result with
  | ok outcome => exact hblamed.explained_ok hresult
  | error e => exact hblamed.explained_error hresult

theorem explained_runForce {jobId : Int} {status : Status} (h : status.isFailure = true) :
    (runForce jobId status).Follows (gathering failure?) Explained [] := by
  rw [runForce, if_pos h]
  intro answer
  refine ⟨_, rfl, ?_⟩
  cases answer with
  | error e => exact explained_store e
  | ok update =>
    change Follows _ (if StatusUpdate.isApplied update then _ else _) _ _
    split
    · exact fun _ => ⟨_, rfl, .ok fun _ => issuer_not_mem_failed?⟩
    · exact .ok fun _ he => nomatch he

/-- What a command that is not refused answers is explained by what failed. -/
theorem explained_execute (h : ¬ c.Unacceptable) :
    (c.execute settings).Follows (gathering failure?) Explained [] := by
  cases c with
  | getJobs ids =>
    have hsome : 1 ≤ ids.length := by
      by_contra hnone
      obtain rfl : ids = [] := List.eq_nil_of_length_eq_zero (by omega)
      exact h .noJobs
    have hfew : ids.length ≤ maxJobs := Nat.not_lt.mp fun hmany => h (.tooManyJobs hmany)
    rw [execute, runGetJobs, if_pos ⟨hsome, hfew⟩]
    exact fun answer => ⟨_, rfl, explained_respond (c := .getJobs ids) answer _⟩
  | setJobStatus jobId n status => exact fun answer => ⟨_, rfl, explained_respond answer _⟩
  | heartbeat jobId n => exact fun answer => ⟨_, rfl, explained_respond answer _⟩
  | appendTrace jobId tag message =>
    have htag : Text.isBlankText tag = false :=
      Bool.eq_false_iff.mpr fun hblank => h (.blankTag hblank)
    have hmessage : message.isEmpty = false := by
      refine Bool.eq_false_iff.mpr fun hempty => ?_
      obtain rfl := String.isEmpty_iff.mp hempty
      exact h .emptyMessage
    have haccept : ¬ (Text.isBlankText tag || message.isEmpty) = true := by
      rw [htag, hmessage]
      exact Bool.false_ne_true
    rw [execute, runAppendTrace, if_neg haccept]
    exact fun answer => ⟨_, rfl, explained_respond answer _⟩
  | matchJob request =>
    refine explained_runMatch ?_
    cases hflaw : request.flaw? with
    | none => rfl
    | some flaw => exact absurd (.flawedRequest hflaw) h
  | forceJobStatus jobId status =>
    exact explained_runForce (Bool.of_not_eq_false fun hstatus => h (.noFailureStatus hstatus))

theorem explained_dispatch (h : ¬ c.Unacceptable) :
    (c.dispatch settings).Follows (gathering failure?) Explained [] := by
  refine follows_bind.mpr ((explained_execute h).mono ?_)
  intro failures result hresult
  exact fun _ => ⟨failures, (List.append_nil failures).symm, hresult⟩

end Command

/-! ## Codes -/

theorem code_of_outage (transient : Bool) :
    (if transient then "transient" else "internal") ≠ "invalid" ∧
      (if transient then "transient" else "internal") ≠ "credential" ∧
      ((if transient then "transient" else "internal") = "transient" ↔ transient = true) ∧
      ((if transient then "transient" else "internal") = "internal" ↔ transient = false) := by
  cases transient <;> decide

theorem CommandError.code_of_failure? {e : CommandError} {f : Failure} (h : e.failure? = some f) :
    e.code ≠ "invalid" ∧ (e.code = "credential" ↔ f.IsRefusal) ∧
      (e.code = "transient" ↔ f.IsOutage true) ∧ (e.code = "internal" ↔ f.IsOutage false) := by
  have houtage {transient : Bool} (hcode : e.code = if transient then "transient" else "internal")
      (hrefusal : ¬ f.IsRefusal) (hf : ∀ b, f.IsOutage b ↔ transient = b) :
      e.code ≠ "invalid" ∧ (e.code = "credential" ↔ f.IsRefusal) ∧
        (e.code = "transient" ↔ f.IsOutage true) ∧ (e.code = "internal" ↔ f.IsOutage false) := by
    obtain ⟨hinvalid, hcredential, htransient, hinternal⟩ := code_of_outage transient
    rw [hcode, hf, hf]
    exact ⟨hinvalid, iff_of_false hcredential hrefusal, htransient, hinternal⟩
  cases e with
  | store e => cases h; exact houtage rfl id fun _ => .rfl
  | broker e =>
    cases e with
    | store e => cases h; exact houtage rfl id fun _ => .rfl
    | directory e => cases h; exact houtage rfl id fun _ => .rfl
    | credential jobId e =>
      cases h
      have hcode : (broker (.credential jobId e)).code = "credential" := rfl
      rw [hcode]
      exact ⟨by decide, iff_of_true rfl trivial, iff_of_false (by decide) id,
        iff_of_false (by decide) id⟩
    | invalidRequest => cases h
  | invalid | shuttingDown => cases h

theorem Command.RefusedWith.code {c : Command} {e : CommandError} (h : c.RefusedWith e) :
    ¬ c.IsFlawedRequest ∧ e.code = "invalid" ∨ c.IsFlawedRequest ∧ e.code = "internal" := by
  cases h with
  | invalid h => exact .inl ⟨h, rfl⟩
  | flawed h => exact .inr ⟨h, rfl⟩

/-- What the code with which a command ended tells of the command and of
what failed. -/
structure Told (c : Command) (failures : List Failure) (result : Except CommandError Response) :
    Prop where
  invalid : code? result = some "invalid" ↔ c.Unacceptable ∧ ¬ c.IsFlawedRequest
  credential : code? result = some "credential" ↔ ∃ f ∈ failures, f.IsRefusal
  transient : code? result = some "transient" → ∃ f ∈ failures, f.IsOutage true
  internal : code? result = some "internal" →
    (∃ f ∈ failures, f.IsOutage false) ∨ c.IsFlawedRequest
  flawed : c.IsFlawedRequest → code? result = some "internal"
  sound : (∀ f ∈ failures, f.IsRefusal) → ¬ c.IsFlawedRequest →
    (∃ response, result = .ok response) ∨ code? result = some "invalid" ∨
      code? result = some "credential"

theorem Command.RefusedWith.told {c : Command} {e : CommandError} (h : c.RefusedWith e)
    (hc : c.Unacceptable) : Told c [] (.error e) := by
  have hnone {fault : Failure → Prop} : ¬ ∃ f ∈ ([] : List Failure), fault f := nofun
  rcases h.code with ⟨hflawed, hcode⟩ | ⟨hflawed, hcode⟩
  · have hinvalid : code? (.error e) = some "invalid" := congrArg some hcode
    constructor
    case invalid => exact iff_of_true hinvalid ⟨hc, hflawed⟩
    case credential => exact iff_of_false (by rw [hinvalid]; decide) hnone
    case transient => exact fun h => absurd (hinvalid.symm.trans h) (by decide)
    case internal => exact fun h => absurd (hinvalid.symm.trans h) (by decide)
    case flawed => exact fun h => absurd h hflawed
    case sound => exact fun _ _ => .inr (.inl hinvalid)
  · have hinternal : code? (.error e) = some "internal" := congrArg some hcode
    constructor
    case invalid => exact iff_of_false (by rw [hinternal]; decide) fun h => h.2 hflawed
    case credential => exact iff_of_false (by rw [hinternal]; decide) hnone
    case transient => exact fun h => absurd (hinternal.symm.trans h) (by decide)
    case internal => exact fun _ => .inr hflawed
    case flawed => exact fun _ => hinternal
    case sound => exact fun _ h => absurd hflawed h

theorem Explained.told {c : Command} {failures : List Failure}
    {result : Except CommandError Response} (h : Explained failures result)
    (hc : ¬ c.Unacceptable) : Told c failures result := by
  have hflawed : ¬ c.IsFlawedRequest := fun ⟨_, _, hunacceptable⟩ => hc hunacceptable
  cases h with
  | ok hnone =>
    have hrefusal : ¬ ∃ f ∈ failures, f.IsRefusal := by
      rintro ⟨f, hf, hrefusal⟩
      cases f with
      | issuer e => exact hnone e hf
      | store | directory => exact hrefusal
    exact ⟨iff_of_false nofun fun h => hc h.1, iff_of_false nofun hrefusal, nofun, nofun,
      fun h => absurd h hflawed, fun _ _ => .inl ⟨_, rfl⟩⟩
  | @error e f hf hmem hrefusal =>
    obtain ⟨hinvalid, hcredential, htransient, hinternal⟩ := CommandError.code_of_failure? hf
    have hcode (code : String) : code? (.error e) = some code ↔ e.code = code := Option.some_inj
    refine ⟨?_, ?_, ?_, ?_, fun h => absurd h hflawed, fun hall _ => ?_⟩
    · rw [hcode]
      exact iff_of_false hinvalid fun h => hc h.1
    · rw [hcode, hcredential]
      refine ⟨fun h => ⟨f, hmem, h⟩, ?_⟩
      rintro ⟨f', hf', hissuer⟩
      cases f' with
      | issuer e' =>
        rw [hrefusal e' hf']
        exact hissuer
      | store | directory => exact hissuer.elim
    · rw [hcode, htransient]
      exact fun h => ⟨f, hmem, h⟩
    · rw [hcode, hinternal]
      exact fun h => .inl ⟨f, hmem, h⟩
    · rw [hcode, hcode, hcredential]
      exact .inr (.inr (hall f hmem))

section Runs

variable {ι : Type} [DecidableEq ι] {settings : BrokerSettings} {c : Command}
  {others : ι → Task} {s : Store} {es : List (Event (Option ι) Call Call.Answer Store)}
  {t : Threads (Option ι) Call Call.Answer
    (fun i => (Task.beside (.command settings c) others i).Result) Store}

/-- An unacceptable command leaves the store alone, nothing fails for it,
and it is refused. -/
theorem Command.Unacceptable.run (hc : c.Unacceptable)
    (h : Run Surroundings.hostile.world
      (Task.threads (Task.beside (.command settings c) others) s) es t) :
    (∀ e ∈ es, e.thread = none → e.after = e.before) ∧ Event.gather failure? none es = [] ∧
      ∀ result, t.Finished none result → ∃ e, result = .error e ∧ c.RefusedWith e := by
  obtain ⟨_, ⟨hunchanged, hfailures⟩, hrest⟩ := h.invariant_of_one none hc.follows
    (fun es _ _ => (∀ e ∈ es, e.thread = none → e.after = e.before) ∧
      Event.gather failure? none es = [])
    ⟨fun _ he => (nomatch he), Event.gather_nil⟩
    (fun es _ s call a s' _ hes hquiet hW => by
      refine ⟨List.forall_mem_append.mpr ⟨hes.1, List.forall_mem_singleton.mpr fun _ => ?_⟩, ?_⟩
      · exact hquiet.unchanged hW
      · rw [Event.gather_quiet (hquiet.failure?_eq_none a), hes.2])
    (fun es _ s j call a s' hj hes _ => by
      refine ⟨List.forall_mem_append.mpr ⟨hes.1, List.forall_mem_singleton.mpr ?_⟩, ?_⟩
      · exact fun hi => absurd hi hj
      · rw [Event.gather_other hj, hes.2])
  refine ⟨hunchanged, hfailures, fun result hdone => ?_⟩
  rw [show t.rest none = .done result from hdone] at hrest
  exact hrest

/-- A command among other tasks, in any order of their calls and whatever
fails, can be brought to its end.  Its code is then `invalid` just if it is
unacceptable, and `credential` just if there was no token; it is
`transient` or `internal` only if the store or the directory failed so.
But a request for work that no tier could serve ends with `internal`.  An
unacceptable command leaves the store as it is. -/
theorem error_code_tells_fault
    (h : Run Surroundings.hostile.world
      (Task.threads (Task.beside (.command settings c) others) s) es t) :
    (∃ es' u result, Run Surroundings.hostile.world t es' u ∧ u.Finished none result) ∧
      (∀ result, t.Finished none result → Told c (Event.gather failure? none es) result) ∧
      (c.Unacceptable → ∀ e ∈ es, e.thread = none → e.after = e.before) := by
  refine ⟨?_, fun result hdone => ?_, fun hc => (hc.run h).1⟩
  · have hanswer := Surroundings.exists_answer (w := .hostile)
      (fun _ _ => ⟨.ok {}, trivial⟩) (fun _ => ⟨.error (.unreachable ""), trivial⟩)
      (fun _ => ⟨.ok (), trivial⟩)
    obtain ⟨es', u, result, hrun, hu⟩ := Run.exists_finished_one hanswer none _ t rfl
    refine ⟨es', u, result, hrun, ?_⟩
    rw [Threads.Finished, hu, Function.update_self]
  · by_cases hc : c.Unacceptable
    · obtain ⟨-, hfailures, hresult⟩ := hc.run h
      obtain ⟨e, rfl, hrefused⟩ := hresult result hdone
      rw [hfailures]
      exact hrefused.told hc
    · exact (h.ends_with_gathered (Command.explained_dispatch hc) hdone).told hc

end Runs

/-- There is no token for the claimed job, whoever comes in between. -/
theorem error_code_tells_fault_of_refusal :
    let c := Command.matchJob agentRequest
    let tasks := Task.beside (.command {} c) lateSweep
    let p : Partners := { issue := fun _ => .error (.unreachable "") }
    let order := List.replicate 8 none ++ List.replicate 9 (some ()) ++ List.replicate 6 none
    let start := Task.threads tasks (storeOfOne 7 1)
    let es := start.log p.reply order
    let t := start.play p.reply order
    Run Surroundings.hostile.world start es t ∧
      Event.gather failure? none es = [.issuer (.unreachable "")] ∧
      ∃ result, t.Finished none result ∧ code? result = some "credential" := by
  intro c tasks p order start es t
  have hrun := Run.play (Surroundings.hostile_reply p) start order
  have hfailures : Event.gather failure? none es = [.issuer (.unreachable "")] := by
    decide +kernel
  obtain ⟨result, hresult⟩ : ∃ result, t.result? none = some result :=
    Option.isSome_iff_exists.mp (by decide +kernel)
  have hdone := Threads.finished_of_result? hresult
  have htold := (error_code_tells_fault hrun).2.1 result hdone
  rw [hfailures] at htold
  exact ⟨hrun, hfailures, result, hdone,
    htold.credential.mpr ⟨_, List.mem_singleton_self _, trivial⟩⟩

/-- A request for no time is refused before anything fails, and yet its
code is not that of an unacceptable command. -/
theorem flawed_request_counts_as_internal :
    let c := Command.matchJob { agentRequest with ttl := 0 }
    let start := Task.threads (fun _ : Unit => Task.command {} c) (storeOfOne 7 1)
    let order := List.replicate 4 ()
    let es := start.log generousPartners.reply order
    let t := start.play generousPartners.reply order
    Run Surroundings.steady.world start es t ∧ c.Unacceptable ∧
      Event.gather failure? () es = [] ∧
      ∃ result, t.Finished () result ∧ code? result = some "internal" := by
  intro c start order es t
  have hrun := Run.play (Surroundings.steady_reply generousPartners) start order
  have hflaw : ({ agentRequest with ttl := 0 } : Matching.Request).flaw? = some (.ttl 0) := rfl
  exact ⟨hrun, .flawedRequest hflaw, rfl, _, rfl, rfl⟩

end GridQueue
