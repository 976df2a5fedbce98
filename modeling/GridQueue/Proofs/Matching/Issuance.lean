/-
# `GridQueue.Proofs.Matching.Issuance` — only usable tokens are handed out

A request for work is served alone, with the store in memory and the
token service at the other end of a network.  The service may answer each
post as it likes, with regard to all that went before.  What was posted
depends on where the request stands:

| stage                              | posted                         |
| :--------------------------------- | :----------------------------- |
| up to the count of a claim         | nothing                        |
| with a token                       | the request for it             |
| without one                        | the request for it             |
| from the revocation on             | that, and its revocation       |

The reply to the first post decides between the two ends, since a token is
taken from a reply just if it grants one (`TokenService.token_eq_ok_iff`).
-/
import GridQueue.Proofs.Claim
import GridQueue.Proofs.Wire.Token
import GridQueue.Proofs.Yield
import Mathlib.Data.List.DropRight

namespace GridQueue

open Matching Program

/-! ## The token service at work -/

/-- A post, and what came back. -/
structure Delivery where
  post : Post
  reply : Except String PostReply

/-- What comes back for a post, after all that was exchanged before. -/
abbrev Correspondent := List Delivery → Post → Except String PostReply

/-- Posts are delivered, and kept with their replies. -/
def Correspondent.answer (service : Correspondent) :
    Program.Answering Post (fun _ => Except String PostReply) (List Delivery) :=
  fun p log => (some (service log p), log ++ [⟨p, service log p⟩])

namespace TokenService

/-- An address without the slashes at its end. -/
structure WithoutSlashes (url base : String) : Prop where
  rest : ∃ n, url = base ++ String.ofList (List.replicate n '/')
  bare : ∀ front, base ≠ front ++ "/"

theorem toList_base (url : String) :
    (ofUrl url).base.toList = url.toList.rdropWhile (· == '/') :=
  String.toList_ofList

theorem withoutSlashes_base (url : String) : WithoutSlashes url (ofUrl url).base where
  rest := by
    have hall : ∀ c ∈ url.toList.rtakeWhile (· == '/'), c = '/' := by
      intro c hc
      have hslash := List.mem_rtakeWhile_imp hc
      exact beq_iff_eq.mp hslash
    have hslashes := List.eq_replicate_of_mem hall
    refine ⟨(url.toList.rtakeWhile (· == '/')).length, String.toList_inj.mp ?_⟩
    rw [String.toList_append, String.toList_ofList, toList_base, ← hslashes,
      List.rdropWhile_append_rtakeWhile]
  bare front heq := by
    have hlist : url.toList.rdropWhile (· == '/') = front.toList ++ ['/'] := by
      rw [← toList_base, heq, String.toList_append]
      rfl
    refine List.rdropWhile_last_not (· == '/') url.toList (hlist ▸ List.concat_ne_nil '/' _) ?_
    simp [hlist]

/-- Tokens come from a service on the network; other calls post nothing. -/
def deliveries (tokens : TokenService) (service : Correspondent) :
    World Call Call.Answer (List Delivery)
  | .issue r, log, a, log' => (tokens.issue r).run service.answer log = (some a, log')
  | .revoke r, log, a, log' => (tokens.revoke r).run service.answer log = (some a, log')
  | .store _, log, _, log' | .lookup _ _, log, _, log' | .now, log, _, log'
  | .stopwatch, log, _, log' | .note _, log, _, log' => log' = log

/-- The store is in memory, and tokens come from the network. -/
def online (tokens : TokenService) (service : Correspondent) :
    World Call Call.Answer (Store × List Delivery) := fun c s a s' =>
  Surroundings.steady.world c s.1 a s'.1 ∧ tokens.deliveries service c s.2 a s'.2

/-- One way to answer, at one time and with nothing required by any site. -/
def answer (tokens : TokenService) (service : Correspondent) :
    Program.Answering Call Call.Answer (Store × List Delivery)
  | .issue r, (s, log) =>
      let result := (tokens.issue r).run service.answer log
      (result.1, s, result.2)
  | .revoke r, (s, log) =>
      let result := (tokens.revoke r).run service.answer log
      (result.1, s, result.2)
  | c, (s, log) =>
      let result := generousPartners.reply c s
      (some result.1, result.2, log)

variable {tokens : TokenService} {service : Correspondent} {r : TokenRequest}
  {log log' : List Delivery}

theorem deliveries_issue {a : Except CredentialError Token}
    (h : tokens.deliveries service (.issue r) log a log') :
    ∃ reply, (bodyOf reply >>= tokenOf) = a ∧ log' = log ++ [⟨tokens.issuePost r, reply⟩] := by
  obtain ⟨ha, hlog⟩ := Prod.mk.inj (h : _ = (some a, log'))
  exact ⟨_, Option.some.inj ha, hlog.symm⟩

theorem deliveries_revoke {a : Except CredentialError Unit}
    (h : tokens.deliveries service (.revoke r) log a log') :
    ∃ reply, log' = log ++ [⟨tokens.revokePost r, reply⟩] := by
  obtain ⟨-, hlog⟩ := Prod.mk.inj (h : _ = (some a, log'))
  exact ⟨_, hlog.symm⟩

theorem online_of_answer (c : Call) (s : Store × List Delivery) (a : c.Answer)
    (s' : Store × List Delivery) (h : tokens.answer service c s = (some a, s')) :
    tokens.online service c s a s' := by
  have hsteady := Surroundings.steady_reply generousPartners c s.1
  cases c with
  | issue | revoke =>
    cases h
    exact ⟨⟨trivial, rfl⟩, rfl⟩
  | _ =>
    cases h
    exact ⟨hsteady, rfl⟩

theorem exists_online (tokens : TokenService) (service : Correspondent) (c : Call)
    (s : Store × List Delivery) : ∃ a s', tokens.online service c s a s' := by
  have hanswer : ∃ a s', tokens.answer service c s = (some a, s') := by
    cases c <;> exact ⟨_, _, rfl⟩
  obtain ⟨a, s', h⟩ := hanswer
  exact ⟨a, s', online_of_answer c s a s' h⟩

end TokenService

/-! ## The jobs of the store -/

namespace Matching

namespace Stage

/-- The job that was claimed, and the status it was put in last. -/
def puts? : Stage → Option (ClaimedJob × Status)
  | holding _ _ job | counted _ job | issued _ job _ | traced _ job _ | delivered _ job _
  | refused job _ => some (job, .assigned)
  | withdrawn job _ | revoked job _ | undone job _ => some (job, .errorA)
  | arriving | resolved _ | wanting _ | chosen _ _ | failed _ | install _ _ | nothing _ => none

end Stage

/-- Of all jobs this one was taken, which waited, and was put in a status. -/
structure TakesJob (s s' : Store) (job : ClaimedJob) (status : Status) : Prop where
  waited : ∃ j, s.jobs.get? job.jobId = some j ∧ j.status = .waiting
  put : ∃ j, s'.jobs.get? job.jobId = some j ∧ j.status = status ∧
    j.resubmission = job.resubmission
  others : ∀ id, id ≠ job.jobId → s'.jobs.get? id = s.jobs.get? id

/-- What a request that came to a stage made of the jobs. -/
def Stage.JobsOf (s s' : Store) (m : Stage) : Prop :=
  match m.puts? with
  | none => s'.jobs = s.jobs
  | some (job, status) => TakesJob s s' job status

section Jobs

variable {settings : BrokerSettings} {request : Request} {m m' : Stage} {c : Call} {a : c.Answer}
  {s s₁ s' : Store} {job : ClaimedJob}

theorem Stage.JobsOf.of_jobs (h : m.JobsOf s s₁) (hputs : m'.puts? = m.puts?)
    (hjobs : s'.jobs = s₁.jobs) : m'.JobsOf s s' := by
  unfold JobsOf at h ⊢
  rw [hputs]
  split at h
  · exact hjobs.trans h
  · exact ⟨h.waited, by rw [hjobs]; exact h.put, by rw [hjobs]; exact h.others⟩

theorem takesJob_of_claim {aggregateId : Int} (hjobs : s₁.jobs = s.jobs)
    (hW : Surroundings.steady.world (.store (.claimWaiting aggregateId request.target)) s₁
      (.ok (some job)) s') : TakesJob s s' job .assigned := by
  obtain ⟨now, h⟩ := Surroundings.steady_store hW
  obtain ⟨j, rest, rfl, hj, hwaits, -, rfl⟩ :=
    Store.claimWaiting_eq_some (Store.perform_claimWaiting.mp h)
  refine ⟨⟨j, by rw [← hjobs]; exact hj, hwaits⟩, ⟨_, Store.get?_insertJob.trans (if_pos rfl), ?_⟩,
    fun id hid => ?_⟩
  · exact ⟨rfl, rfl⟩
  · rw [← hjobs]
    exact Store.get?_insertJob.trans (if_neg hid)

/-- A job that was just taken cannot have moved on, so the report of
`ERROR_A` applies. -/
theorem TakesJob.withdraw {a : Except StoreError StatusUpdate} (h : TakesJob s s₁ job .assigned)
    (hW : Surroundings.steady.world
      (.store (.updateStatus ⟨job.jobId, job.resubmission, .errorA, .broker⟩)) s₁ a s') :
    TakesJob s s' job .errorA := by
  obtain ⟨now, hp⟩ := Surroundings.steady_store hW
  obtain ⟨j, hj, hassigned, hn⟩ := h.put
  have hid : j.id = job.jobId := Store.id_of_get? hj
  have hpasses : j.isHandOut job.resubmission
      (StatusChange.allowedFrom ⟨job.jobId, job.resubmission, .errorA, .broker⟩) = true := by
    refine Job.isHandOut_iff.mpr ⟨hn, ?_⟩
    rw [hassigned]
    rfl
  have hs' : s' = (s₁.updateStatus ⟨job.jobId, job.resubmission, .errorA, .broker⟩ now).2 :=
    (congrArg Prod.snd hp).symm
  rw [Store.updateStatus_of_hit hj hpasses] at hs'
  subst hs'
  refine ⟨h.waited, ⟨_, Store.get?_insertJob.trans (if_pos hid.symm), rfl, hn⟩, fun id hne => ?_⟩
  rw [← h.others id hne]
  exact Store.get?_insertJob.trans (if_neg fun heq => hne (heq.trans hid))

theorem Stage.JobsOf.step (h : m.JobsOf s s₁) (hmove : Stage.Moves settings request m c a m')
    (hW : Surroundings.steady.world c s₁ a s') : m'.JobsOf s s' := by
  cases hmove with
  | won => exact takesJob_of_claim h hW
  | withdraw => exact h.withdraw hW
  | claimError | lost => exact (jobs_of_no_claim hW rfl).trans h
  | _ =>
    exact h.of_jobs rfl (Surroundings.world_jobs hW (by simp [Call.writes, StoreCall.writes]))

end Jobs

/-! ## The posts -/

/-- What was posted for a request that came to a stage. -/
def Stage.Posted (tokens : TokenService) (settings : BrokerSettings) (log : List Delivery) :
    Stage → Prop
  | issued _ job token | traced _ job token | delivered _ job token =>
      ∃ reply, TokenService.Grants reply token ∧
        log = [⟨tokens.issuePost (tokenRequest settings job), reply⟩]
  | refused job _ | withdrawn job _ =>
      ∃ reply, (∀ token, ¬ TokenService.Grants reply token) ∧
        log = [⟨tokens.issuePost (tokenRequest settings job), reply⟩]
  | revoked job _ | undone job _ =>
      ∃ reply reply', (∀ token, ¬ TokenService.Grants reply token) ∧
        log = [⟨tokens.issuePost (tokenRequest settings job), reply⟩,
          ⟨tokens.revokePost (tokenRequest settings job), reply'⟩]
  | arriving | resolved _ | wanting _ | chosen _ _ | holding _ _ _ | counted _ _ | failed _
  | install _ _ | nothing _ => log = []

theorem Stage.Posted.step {tokens : TokenService} {service : Correspondent}
    {settings : BrokerSettings} {request : Request} {m m' : Stage} {c : Call} {a : c.Answer}
    {s s' : Store × List Delivery} (h : m.Posted tokens settings s.2)
    (hmove : Stage.Moves settings request m c a m') (hW : tokens.online service c s a s') :
    m'.Posted tokens settings s'.2 := by
  obtain ⟨-, hlog⟩ := hW
  cases hmove with
  | issue =>
    obtain ⟨reply, htoken, hs'⟩ := TokenService.deliveries_issue hlog
    rw [show s.2 = [] from h] at hs'
    exact ⟨reply, TokenService.token_eq_ok_iff.mp htoken, hs'⟩
  | refuse =>
    obtain ⟨reply, htoken, hs'⟩ := TokenService.deliveries_issue hlog
    rw [show s.2 = [] from h] at hs'
    refine ⟨reply, fun token hgrants => ?_, hs'⟩
    cases (TokenService.token_eq_ok_iff.mpr hgrants).symm.trans htoken
  | revoke =>
    obtain ⟨reply, hnone, hposted⟩ := h
    obtain ⟨reply', hs'⟩ := TokenService.deliveries_revoke hlog
    rw [hposted] at hs'
    exact ⟨reply, reply', hnone, hs'⟩
  | _ =>
    rw [show s'.2 = s.2 from hlog]
    exact h

/-! ## The two ends of a claim -/

/-- The job waited before and does not now. -/
def LeavesQueue (s s' : Store) (id : Int) : Prop :=
  (∃ j, s.jobs.get? id = some j ∧ j.status = .waiting) ∧
    ∀ j, s'.jobs.get? id = some j → j.status ≠ .waiting

/-- The service granted a token to the one post it got, and the job was
handed out with this token. -/
inductive TokenHandedOut (base : String) (id : Int) :
    Except BrokerError Outcome → Store → List Delivery → Prop
  | mk {job : AssignedJob} {s j body reply} : job.jobId = id →
      TokenService.Grants reply job.token → s.jobs.get? id = some j → j.status = .assigned →
      TokenHandedOut base id (.ok (.assigned job)) s [⟨{ url := base ++ "/tokens", body }, reply⟩]

/-- The service granted no token, the job failed, and whatever was issued
was to be revoked. -/
inductive ClaimUndone (base : String) (id : Int) :
    Except BrokerError Outcome → Store → List Delivery → Prop
  | mk {e s j body reply reply'} : (∀ token, ¬ TokenService.Grants reply token) →
      s.jobs.get? id = some j → j.status = .errorA →
      ClaimUndone base id (.error (.credential id e)) s
        [⟨{ url := base ++ "/tokens", body }, reply⟩,
          ⟨{ url := base ++ "/tokens/revoke", body }, reply'⟩]

theorem TokenHandedOut.not_claimUndone {base : String} {id : Int}
    {result : Except BrokerError Outcome} {s : Store} {log : List Delivery}
    (h : TokenHandedOut base id result s log) :
    ¬ ClaimUndone base id result s log := by
  cases h
  nofun

theorem ends_of_leavesQueue {tokens : TokenService} {settings : BrokerSettings} {m : Stage}
    {result : Except BrokerError Outcome} {s s' : Store} {log : List Delivery} {id : Int}
    (hjobs : m.JobsOf s s') (hposted : m.Posted tokens settings log)
    (hresult : m.result? = some result) (hleaves : LeavesQueue s s' id) :
    TokenHandedOut tokens.base id result s' log ∨ ClaimUndone tokens.base id result s' log := by
  obtain ⟨⟨j, hj, hwaits⟩, hgone⟩ := hleaves
  have htakes {job : ClaimedJob} {status : Status} (h : TakesJob s s' job status) :
      job.jobId = id := by
    by_contra hne
    exact hgone j ((h.others id (Ne.symm hne)).trans hj) hwaits
  have hsame (h : s'.jobs = s.jobs) : False := hgone j (by rw [h]; exact hj) hwaits
  cases m with
  | failed | install | nothing => exact (hsame hjobs).elim
  | delivered tier job token =>
    obtain rfl := htakes hjobs
    obtain ⟨reply, hgrants, rfl⟩ := hposted
    obtain ⟨j', hj', hstatus, -⟩ := TakesJob.put hjobs
    cases hresult
    exact .inl (.mk rfl hgrants hj' hstatus)
  | undone job e =>
    obtain rfl := htakes hjobs
    obtain ⟨reply, reply', hnone, rfl⟩ := hposted
    obtain ⟨j', hj', hstatus, -⟩ := TakesJob.put hjobs
    cases hresult
    exact .inr (.mk hnone hj' hstatus)
  | _ => cases hresult

/-- A request for work that is served alone comes to its end, whatever the
token service answers to each post.  If it claimed a job, just one of two
things happened: the service granted a token to the one post it got, and
the job was handed out with this token; or it granted none, the job failed,
and the same text was posted once more, to have the token revoked.  The
posts go to the configured address without the slashes at its end. -/
theorem usable_token_or_claim_undone (url : String) (service : Correspondent)
    (settings : BrokerSettings) (request : Request) (s : Store) :
    let tokens := TokenService.ofUrl url
    TokenService.WithoutSlashes url tokens.base ∧
      (∃ result s' log, (matchJob settings request).Yields (tokens.online service) (s, []) result
        (s', log)) ∧
      ∀ result s' log,
        (matchJob settings request).Yields (tokens.online service) (s, []) result (s', log) →
        ∀ id, LeavesQueue s s' id →
          Xor (TokenHandedOut tokens.base id result s' log)
            (ClaimUndone tokens.base id result s' log) := by
  intro tokens
  have hstart : (Stage.first request).JobsOf s s ∧
      (Stage.first request).Posted tokens settings [] := by
    unfold Stage.first
    cases request.flaw? <;> exact ⟨rfl, rfl⟩
  refine ⟨TokenService.withoutSlashes_base url, ?_, fun result s' log h id hleaves => ?_⟩
  · obtain ⟨result, ⟨s', log⟩, h⟩ := exists_yields (s := (s, []))
      (W := tokens.online service) matchJob_follows (I := fun _ _ => True)
      trivial (fun _ _ _ _ _ _ _ _ _ => trivial) fun _ s c _ _ => tokens.exists_online service c s
    exact ⟨result, s', log, h⟩
  · obtain ⟨m, ⟨hjobs, hposted⟩, hresult⟩ := h.invariant matchJob_follows
      (I := fun m s' => m.JobsOf s s'.1 ∧ m.Posted tokens settings s'.2) hstart
      fun m s c a s' m' hI hmove hW => ⟨hI.1.step hmove hW.1, hI.2.step hmove hW⟩
    rcases ends_of_leavesQueue hjobs hposted hresult hleaves with h | h
    · exact .inl ⟨h, h.not_claimUndone⟩
    · exact .inr ⟨h, fun h' => h'.not_claimUndone h⟩

/-- A service that gives every post the same body. -/
def constantService (body : String) : Correspondent := fun _ _ => .ok ⟨200, body⟩

/-- A job that waits, and the request for it when such a service is at the
other end. -/
def matchedWith (body : String) : Option (Except BrokerError Outcome) × Store × List Delivery :=
  (matchJob {} agentRequest).run
    ((TokenService.ofUrl "http://tokens//").answer (constantService body)) (storeOfOne 7 1, [])

theorem yields_matchedWith {body : String} {result : Except BrokerError Outcome}
    (h : (matchedWith body).1 = some result) :
    (matchJob {} agentRequest).Yields
      ((TokenService.ofUrl "http://tokens//").online (constantService body)) (storeOfOne 7 1, [])
      result (matchedWith body).2 :=
  yields_of_run TokenService.online_of_answer (Prod.ext h rfl)

theorem leavesQueue_matchedWith {body : String} (status : Status) (hstatus : status ≠ .waiting)
    (h : ((matchedWith body).2.1.jobs.get? 7).map (·.status) = some status) :
    LeavesQueue (storeOfOne 7 1) (matchedWith body).2.1 7 := by
  refine ⟨⟨waitingJob 7 1, rfl, rfl⟩, fun j hj => ?_⟩
  rw [hj] at h
  cases h
  exact hstatus

/-- A token without a key is none. -/
theorem usable_token_or_claim_undone_of_empty_key :
    let body := "\x7b\"certificate\": \"certificate\", \"private_key\": \"\"\x7d"
    let result := Except.error (.credential 7 (.malformed "empty certificate or key"))
    (matchedWith body).1 = some result ∧ LeavesQueue (storeOfOne 7 1) (matchedWith body).2.1 7 ∧
      ClaimUndone "http://tokens" 7 result (matchedWith body).2.1 (matchedWith body).2.2 := by
  intro body result
  have hresult : (matchedWith body).1 = some result := by decide +kernel
  have hleaves : LeavesQueue (storeOfOne 7 1) (matchedWith body).2.1 7 :=
    leavesQueue_matchedWith .errorA nofun (by decide +kernel)
  have hbase : (TokenService.ofUrl "http://tokens//").base = "http://tokens" := by decide +kernel
  obtain ⟨-, -, hends⟩ := usable_token_or_claim_undone "http://tokens//" (constantService body) {}
    agentRequest (storeOfOne 7 1)
  have hend := hends result _ _ (yields_matchedWith hresult) 7 hleaves
  rw [hbase] at hend
  rcases hend with ⟨h, -⟩ | ⟨h, -⟩
  · have hassigned : TokenHandedOut "http://tokens" 7 (.error _) _ _ := h
    cases hassigned
  · exact ⟨hresult, hleaves, h⟩

def isList : Json → Bool
  | .arr _ => true
  | _ => false

/-- A list of the fields of a token is no object, and is taken for one. -/
theorem listed_token_is_handed_out :
    let body := "[\"certificate\",\"key\"]"
    (∀ members, Json.ofText? body ≠ some (.obj members)) ∧
      (matchJob {} agentRequest).Yields
        ((TokenService.ofUrl "http://tokens//").online (constantService body))
        (storeOfOne 7 1, []) (.ok (.assigned (firstHandOut 7 .full))) (matchedWith body).2 ∧
      LeavesQueue (storeOfOne 7 1) (matchedWith body).2.1 7 ∧
      (matchedWith body).2.2.map (·.reply) = [.ok ⟨200, body⟩] := by
  intro body
  have hread : (Json.ofText? body).any isList = true := by decide +kernel
  refine ⟨fun members h => ?_, yields_matchedWith (by decide +kernel),
    leavesQueue_matchedWith .assigned nofun (by decide +kernel), by decide +kernel⟩
  rw [h] at hread
  cases hread

end Matching
end GridQueue
