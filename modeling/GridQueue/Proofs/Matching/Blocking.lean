/-
# `GridQueue.Proofs.Matching.Blocking` — requests at a blocked queue

A request for work looks at its queue once, at the door, and is turned away
where the queue is blocked.  What it writes to the queue it writes later,
and then it does not look again:

    request      looks: open                      writes: no match
    operator                       blocks
    the status   open              blocked        no match

So a queue that is blocked looks blocked (`Overtaken` is how it may not)
unless a request that was let in before it was blocked came to its end
after.  A request that comes while the queue is blocked is turned away and
writes nothing.

The calls of all programs fall into three kinds by what they do to a
queue: those that block or unblock it, those that write a status at the end
of a request, and those that leave both alone (`QueueEffect`).  `Kept` goes
along the log and remembers which requests were let in, and `TurnedAway`
follows one that comes while the queue is blocked.
-/
import GridQueue.Proofs.Surroundings

namespace GridQueue

open Program

namespace Matching

/-! ## At the door -/

/-- Where a request stands to its queue. -/
inductive Door
  | outside
  | inside
  /-- it was told that the queue is blocked -/
  | away
  /-- the look at the queue failed -/
  | failed

namespace Door

/-- A request calls the store once to get in, and when it is turned away it
makes no more calls of it. -/
inductive Moves (settings : BrokerSettings) (r : Request) :
    Door → (c : Call) → c.Answer → Door → Prop
  | stopwatch {d t} : Moves settings r d .stopwatch t d
  | note {d event u} : Moves settings r d (.note event) u d
  | turnAway {q : Option SiteQueue} : q.any (·.blocked) = true →
      Moves settings r outside (.store (.siteQueue r.ce)) (.ok q) away
  | letIn {q : Option SiteQueue} : q.any (·.blocked) = false →
      Moves settings r outside (.store (.siteQueue r.ce)) (.ok q) inside
  | fail {e} : Moves settings r outside (.store (.siteQueue r.ce)) (.error e) failed
  | work {c a} {m m' : Stage} : Stage.Moves settings r m c a m' → Moves settings r inside c a inside

/-- Only a request with a flaw ends outside. -/
def Ends (r : Request) : Door → Except BrokerError Outcome → Prop
  | outside, _ => r.flaw? ≠ none
  | away, result => result = .ok (.nothingToRun .queueBlocked)
  | inside, _ | failed, _ => True

end Door

section Follows

variable {settings : BrokerSettings} {r : Request} {M α : Type}

theorem follows_ask_bind {P : Protocol Call Call.Answer M} {c : StoreCall}
    {f : c.Value → Attempt α} {ends : M → Except BrokerError α → Prop} {m : M}
    (hok : ∀ v, ∃ m', P m (.store c) (.ok v) m' ∧ (f v).run.Follows P ends m')
    (herror : ∀ e, ∃ m', P m (.store c) (.error e) m' ∧ ends m' (.error (.store e))) :
    (ask c >>= f).run.Follows P ends m := by
  intro answer
  cases answer with
  | ok v => exact hok v
  | error e => exact herror e

theorem askSite_works {ends : Door → Except BrokerError Outcome → Prop}
    (hends : ∀ result, ends .inside result) :
    (do
      let requirements ← askSite r.ce r.site
      searchTiers settings (.of r requirements) : Attempt Outcome).run.Follows
        (Door.Moves settings r) ends .inside := by
  have hrest : Tries settings r (do
      let requirements ← askSite r.ce r.site
      searchTiers settings (.of r requirements)) Settles .arriving :=
    tries_bind.mpr (askSite_tries (fun _ => searchTiers_tries rfl) fun _ => rfl)
  refine (hrest.simulate (R := fun _ d => d = Door.inside) rfl ?_).mono ?_
  · rintro m _ c a m' rfl hmove
    exact ⟨_, .work hmove, rfl⟩
  · rintro _ result ⟨_, rfl, -⟩
    exact hends result

theorem findWork_enters :
    (findWork settings r).run.Follows (Door.Moves settings r) (Door.Ends r) .outside := by
  unfold findWork
  cases hflaw : r.flaw? with
  | some flaw => exact fun h => nomatch hflaw.symm.trans h
  | none =>
    refine follows_ask_bind ?_ fun e => ⟨_, .fail, trivial⟩
    intro q
    cases hq : q.any (·.blocked) with
    | true => exact ⟨_, .turnAway hq, by simp only [if_true]; exact rfl⟩
    | false =>
      refine ⟨_, .letIn hq, ?_⟩
      simp only [Bool.false_eq_true, if_false]
      exact askSite_works fun _ => trivial

theorem matchJob_enters :
    (matchJob settings r).Follows (Door.Moves settings r) (Door.Ends r) .outside := by
  refine follows_bind.mpr fun _ => ⟨_, .stopwatch, ?_⟩
  refine follows_bind.mpr (findWork_enters.mono ?_)
  intro d result h
  exact follows_bind.mpr fun _ => ⟨_, .stopwatch, follows_bind.mpr fun _ => ⟨_, .note, h⟩⟩

end Follows

/-! ## Requests and operators -/

/-- Who comes to a queue: an agent that asks for work, or an operator who
blocks the queue or opens it. -/
inductive Visitor
  | request (settings : BrokerSettings) (r : Request)
  | operator (ce : String) (blocked : Bool)

namespace Visitor

def Result : Visitor → Type
  | request _ _ => Except BrokerError Outcome
  | operator _ _ => Except StoreError Unit

def program : (v : Visitor) → Action v.Result
  | request settings r => matchJob settings r
  | operator ce blocked => Action.store (.setQueueBlocked ce blocked)

/-- The answer to the request, if there is one. -/
def answer? : (v : Visitor) → v.Result → Option (Except BrokerError Outcome)
  | request _ _, result => some result
  | operator _ _, _ => none

/-- A request goes by the door; an operator calls once, and that is all. -/
def Moves : Visitor → Protocol Call Call.Answer Door
  | request settings r => Door.Moves settings r
  | operator ce blocked => fun d c _ d' => c = .store (.setQueueBlocked ce blocked) ∧ d' = d

/-- A request ends as its door says. -/
def Ends : (v : Visitor) → Door → v.Result → Prop
  | request _ r => Door.Ends r
  | operator _ _ => fun _ _ => True

theorem follows (v : Visitor) : v.program.Follows v.Moves v.Ends .outside := by
  cases v with
  | request settings r => exact matchJob_enters
  | operator ce blocked => exact fun answer => ⟨_, ⟨rfl, rfl⟩, trivial⟩

/-- Visitors that have not begun, on a store. -/
def threads {ι : Type} (visitors : ι → Visitor) (s : Store) :
    Threads ι Call Call.Answer (fun i => (visitors i).Result) Store :=
  ⟨s, fun i => (visitors i).program⟩

/-- Only a request that was let in writes the status of a queue: that it
found nothing there. -/
theorem Moves.marks {v : Visitor} {d d' : Door} {ce site status : String}
    {a : Call.Answer (.store (.setQueueStatus ce site status))}
    (h : v.Moves d (.store (.setQueueStatus ce site status)) a d') :
    d = .inside ∧ status = noMatchStatus ∧ ∃ settings r, v = .request settings r ∧ r.ce = ce := by
  cases v with
  | request settings r =>
      cases h with
      | work h => cases h <;> exact ⟨rfl, rfl, settings, r, rfl, rfl⟩
  | operator => cases h.1

theorem answer?_of_turnedAway {v : Visitor} {settings : BrokerSettings} {r : Request} {d : Door}
    {result : v.Result} (hv : v = .request settings r) (hflaw : r.flaw? = none)
    (hd : d = .outside ∨ d = .away) (hend : v.Ends d result) :
    v.answer? result = some (.ok (.nothingToRun .queueBlocked)) := by
  subst hv
  rcases hd with rfl | rfl
  · exact absurd hflaw hend
  · exact congrArg some hend

end Visitor

end Matching

/-! ## What a call does to a queue -/

/-- The status of a queue, if there is one. -/
def Store.queueStatus? (s : Store) (ce : String) : Option String :=
  (s.queues.get? ce).map (·.status)

section Queues

variable {s s' : Store} {ce : String} {now : Instant}

theorem Store.queueStatus?_putQueue {q : SiteQueue} :
    (s.putQueue q).queueStatus? ce = if ce = q.ce then some q.status else s.queueStatus? ce := by
  rw [queueStatus?, get?_putQueue]
  split <;> rfl

/-- What a call does to a queue: it blocks or opens it, writes its status,
or leaves both as they are. -/
inductive QueueEffect (ce : String) (s s' : Store) : Call → Prop
  | block {blocked : Bool} : s'.isBlocked ce = blocked →
      s'.queueStatus? ce = some (if blocked then "blocked" else "open") →
      QueueEffect ce s s' (.store (.setQueueBlocked ce blocked))
  | mark {site status : String} : s'.isBlocked ce = s.isBlocked ce →
      s'.queueStatus? ce = some status →
      QueueEffect ce s s' (.store (.setQueueStatus ce site status))
  | keep {c : Call} : (∀ blocked, c ≠ .store (.setQueueBlocked ce blocked)) →
      (∀ site status, c ≠ .store (.setQueueStatus ce site status)) →
      s'.isBlocked ce = s.isBlocked ce →
      (∀ status, s.queueStatus? ce = some status → s'.queueStatus? ce = some status) →
      QueueEffect ce s s' c

theorem QueueEffect.of_queues {c : Call} (hc : c.writes ≠ some .queues)
    (h : s'.queues = s.queues) : QueueEffect ce s s' c := by
  refine .keep ?_ ?_ (Store.isBlocked_congr h ce) fun _ hstatus => ?_
  · rintro blocked rfl
    exact hc rfl
  · rintro site status rfl
    exact hc rfl
  · rw [Store.queueStatus?, h]
    exact hstatus

theorem Store.isBlocked_putQueue_eq {q : SiteQueue} :
    (s.putQueue q).isBlocked ce = if ce = q.ce then q.blocked else s.isBlocked ce := by
  rw [isBlocked, get?_putQueue]
  split <;> rfl

theorem QueueEffect.other {c : Call} {q : SiteQueue}
    (hc : ∀ blocked, c ≠ .store (.setQueueBlocked ce blocked))
    (hc' : ∀ site status, c ≠ .store (.setQueueStatus ce site status)) (hce : ce ≠ q.ce) :
    QueueEffect ce s (s.putQueue q) c :=
  .keep hc hc' (Store.isBlocked_putQueue_eq.trans (if_neg hce)) fun _ hstatus =>
    (Store.queueStatus?_putQueue.trans (if_neg hce)).trans hstatus

theorem queueEffect_adjust (s : Store) (now : Instant) (ce ce' site : String) (n m : Int) :
    QueueEffect ce s (s.adjustCounters ce' site n m now)
      (.store (.adjustCounters ce' site n m)) := by
  by_cases hce : ce = ce'
  · subst hce
    refine .keep (fun _ => nofun) (fun _ _ => nofun) ?_ ?_
    · exact (Store.isBlocked_putQueue_eq.trans (if_pos rfl)).trans Store.queueOr_blocked
    · intro status hstatus
      obtain ⟨q, hq, rfl⟩ := Option.map_eq_some_iff.mp hstatus
      rw [Store.adjustCounters, Store.queueStatus?_putQueue, if_pos rfl, Store.queueOr, hq,
        Option.getD_some]
  · exact .other (fun _ => nofun) (fun _ _ => nofun) hce

theorem queueEffect_mark (s : Store) (now : Instant) (ce ce' site status : String) :
    QueueEffect ce s (s.setQueueStatus ce' site status now)
      (.store (.setQueueStatus ce' site status)) := by
  unfold Store.setQueueStatus
  dsimp only
  by_cases hce : ce = ce'
  · subst hce
    split
    · next hsame =>
      exact .mark ((Store.isBlocked_putQueue_eq.trans (if_pos rfl)).trans Store.queueOr_blocked)
        ((Store.queueStatus?_putQueue.trans (if_pos rfl)).trans (congrArg some hsame))
    · exact .mark ((Store.isBlocked_putQueue_eq.trans (if_pos rfl)).trans Store.queueOr_blocked)
        (Store.queueStatus?_putQueue.trans (if_pos rfl))
  · have hother : ∀ site' status', Call.store (.setQueueStatus ce' site status) ≠
        .store (.setQueueStatus ce site' status') := fun _ _ heq => hce (by cases heq; rfl)
    split <;> exact .other (fun _ => nofun) hother hce

theorem queueEffect_perform (s : Store) (now : Instant) (c : StoreCall) (ce : String) :
    QueueEffect ce s (s.perform now c).2 (.store c) := by
  cases c with
  | setQueueBlocked ce' blocked =>
      by_cases hce : ce = ce'
      · subst hce
        exact .block (Store.isBlocked_putQueue_eq.trans (if_pos rfl))
          (Store.queueStatus?_putQueue.trans (if_pos rfl))
      · exact .other (fun _ heq => hce (by cases heq; rfl)) (fun _ _ => nofun) hce
  | setQueueStatus => exact queueEffect_mark ..
  | adjustCounters => exact queueEffect_adjust ..
  | _ =>
      exact .of_queues (by simp [Call.writes, StoreCall.writes])
        (Store.perform_queues (by simp [StoreCall.writes]))

theorem Surroundings.steady_queueEffect {c : Call} {a : c.Answer}
    (h : steady.world c s a s') (ce : String) : QueueEffect ce s s' c := by
  cases c with
  | store c =>
      obtain ⟨now, h⟩ := steady_store h
      have heffect := queueEffect_perform s now c ce
      rwa [h] at heffect
  | lookup | issue | revoke => exact .of_queues nofun (congrArg _ h.2)
  | now | stopwatch | note => exact .of_queues nofun (congrArg _ h)

end Queues

/-! ## Requests that are overtaken -/

namespace Matching

section Overtaken

variable {ι : Type} {ce : String} {i : ι} {es : List (Event ι Call Call.Answer Store)}
  {e : Event ι Call Call.Answer Store} {s s' : Store}

/-- An operator blocks the queue or opens it. -/
def Switches (ce : String) (e : Event ι Call Call.Answer Store) : Prop :=
  ∃ blocked, e.call = .store (.setQueueBlocked ce blocked)

/-- A request writes to the queue that it found nothing. -/
def Marks (ce : String) (e : Event ι Call Call.Answer Store) : Prop :=
  ∃ site, e.call = .store (.setQueueStatus ce site noMatchStatus)

/-- A request looks at the queue, and it is open. -/
def LooksOpen (ce : String) (e : Event ι Call Call.Answer Store) : Prop :=
  e.call = .store (.siteQueue ce) ∧ e.before.isBlocked ce = false

/-- The latest write to the queue is by a request that looked at it before an
operator switched it. -/
def Overtaken (ce : String) (es : List (Event ι Call Call.Answer Store)) : Prop :=
  ∃ earlier look between mark later, es = earlier ++ look :: between ++ mark :: later ∧
    look.thread = mark.thread ∧ LooksOpen ce look ∧ (∃ e ∈ between, Switches ce e) ∧
    Marks ce mark ∧ ∀ e ∈ later, ¬ Switches ce e

/-- A request was let in, and an operator switched the queue since or it is
still open. -/
def LetIn (i : ι) (ce : String) (es : List (Event ι Call Call.Answer Store)) (s : Store) : Prop :=
  ∃ earlier look later, es = earlier ++ look :: later ∧ look.thread = i ∧ LooksOpen ce look ∧
    ((∃ e ∈ later, Switches ce e) ∨ s.isBlocked ce = false)

theorem Overtaken.append (h : Overtaken ce es) (he : ¬ Switches ce e) :
    Overtaken ce (es ++ [e]) := by
  obtain ⟨earlier, look, between, mark, later, rfl, hthread, hlook, hswitch, hmark, hlater⟩ := h
  refine ⟨earlier, look, between, mark, later ++ [e], by simp, hthread, hlook, hswitch, hmark, ?_⟩
  exact List.forall_mem_append.mpr ⟨hlater, List.forall_mem_singleton.mpr he⟩

theorem overtaken_append (h : Overtaken ce (es ++ [e])) :
    Marks ce e ∨ (¬ Switches ce e ∧ Overtaken ce es) := by
  obtain ⟨earlier, look, between, mark, later, hes, hthread, hlook, hswitch, hmark, hlater⟩ := h
  rcases split_append hes with ⟨rfl, rfl, rfl⟩ | ⟨middle, rfl, rfl⟩
  · exact .inl hmark
  · exact .inr ⟨hlater e (by simp), earlier, look, between, mark, middle, rfl, hthread, hlook,
      hswitch, hmark, fun d hd => hlater d (List.mem_append_left _ hd)⟩

theorem LetIn.append {c : Call} {a : c.Answer} {j : ι} (h : LetIn i ce es s)
    (heffect : QueueEffect ce s s' c) : LetIn i ce (es ++ [⟨j, c, a, s, s'⟩]) s' := by
  obtain ⟨earlier, look, later, rfl, hthread, hlook, hopen⟩ := h
  refine ⟨earlier, look, later ++ [⟨j, c, a, s, s'⟩], by simp, hthread, hlook, ?_⟩
  have hsame (hblocked : s'.isBlocked ce = s.isBlocked ce) :
      (∃ e ∈ later ++ [⟨j, c, a, s, s'⟩], Switches ce e) ∨ s'.isBlocked ce = false := by
    rcases hopen with ⟨e, he, hswitch⟩ | hopen
    · exact .inl ⟨e, List.mem_append_left _ he, hswitch⟩
    · exact .inr (hblocked.trans hopen)
  cases heffect with
  | block => exact .inl ⟨_, List.mem_append_right _ (List.mem_singleton_self _), _, rfl⟩
  | mark hblocked => exact hsame hblocked
  | keep _ _ hblocked => exact hsame hblocked

/-- A request that was let in and writes to a blocked queue was overtaken. -/
theorem LetIn.overtaken (h : LetIn i ce es s) (hblocked : s.isBlocked ce = true)
    (hthread : e.thread = i) (hmark : Marks ce e) : Overtaken ce (es ++ [e]) := by
  obtain ⟨earlier, look, later, rfl, hlook, hopen, hswitch | hstill⟩ := h
  · exact ⟨earlier, look, later, e, [], rfl, hlook.trans hthread.symm, hopen, hswitch, hmark,
      fun _ hd => nomatch hd⟩
  · cases hblocked.symm.trans hstill

end Overtaken

/-! ## Runs -/

section Runs

variable {ι : Type} {visitors : ι → Visitor} {es : List (Event ι Call Call.Answer Store)}
  {d : ι → Door} {i : ι} {d' : Door} {c : Call} {a : c.Answer} {s s' : Store} {ce : String}

theorem letIn_of_moves {settings : BrokerSettings} {r : Request} {d : Door}
    (hm : Door.Moves settings r d c a .inside) (hW : Surroundings.steady.world c s a s')
    (h : d = .inside → LetIn i r.ce es s) : LetIn i r.ce (es ++ [⟨i, c, a, s, s'⟩]) s' := by
  have heffect := Surroundings.steady_queueEffect hW r.ce
  cases hm with
  | stopwatch | note | work => exact (h rfl).append heffect
  | letIn hq =>
      obtain ⟨now, hp⟩ := Surroundings.steady_store hW
      cases hp
      exact ⟨es, _, [], rfl, rfl, ⟨rfl, hq⟩, .inr hq⟩

/-- What is kept of the queues: who is inside was let in, a blocked queue
looks blocked or as if nothing was found, and that if a request was
overtaken. -/
structure Kept (visitors : ι → Visitor) (es : List (Event ι Call Call.Answer Store)) (d : ι → Door)
    (s : Store) : Prop where
  letIn : ∀ i settings r, visitors i = .request settings r → d i = .inside → LetIn i r.ce es s
  blocked : ∀ ce, s.isBlocked ce = true → s.queueStatus? ce = some "blocked" ∨
    (s.queueStatus? ce = some noMatchStatus ∧ Overtaken ce es)
  overtaken : ∀ ce, Overtaken ce es → s.queueStatus? ce = some noMatchStatus

theorem Kept.start
    (hs : ∀ ce q, s.queues.get? ce = some q → q.blocked = true → q.status = "blocked") :
    Kept visitors [] (fun _ => .outside) s where
  letIn _ _ _ _ h := nomatch h
  blocked ce h := by
    obtain ⟨q, hq, hblocked⟩ := (Option.any_eq_true ..).mp h
    exact .inl (by rw [Store.queueStatus?, hq, Option.map_some, hs ce q hq hblocked])
  overtaken ce h := by
    obtain ⟨earlier, look, between, mark, later, hes, -⟩ := h
    simp at hes

section Step

variable (h : Kept visitors es d s) (hm : (visitors i).Moves (d i) c a d')
  (hW : Surroundings.steady.world c s a s')
include h hm hW

theorem Kept.step_blocked (hblocked : s'.isBlocked ce = true) :
    s'.queueStatus? ce = some "blocked" ∨
      (s'.queueStatus? ce = some noMatchStatus ∧ Overtaken ce (es ++ [⟨i, c, a, s, s'⟩])) := by
  cases Surroundings.steady_queueEffect hW ce with
  | block hswitch hstatus =>
      rw [hswitch] at hblocked
      rw [hblocked, if_pos rfl] at hstatus
      exact .inl hstatus
  | @mark site status hsame hstatus =>
      obtain ⟨hinside, rfl, settings, r, hvisitor, rfl⟩ := hm.marks
      exact .inr ⟨hstatus, (h.letIn i settings r hvisitor hinside).overtaken (hsame ▸ hblocked) rfl
        ⟨site, rfl⟩⟩
  | keep hswitch _ hsame hkeep =>
      have hnot : ¬ Switches ce (⟨i, c, a, s, s'⟩ : Event ι Call Call.Answer Store) :=
        fun ⟨blocked, hcall⟩ => hswitch blocked hcall
      exact (h.blocked ce (hsame ▸ hblocked)).imp (hkeep _)
        fun ⟨hstatus, hover⟩ => ⟨hkeep _ hstatus, hover.append hnot⟩

theorem Kept.step_overtaken (hover : Overtaken ce (es ++ [⟨i, c, a, s, s'⟩])) :
    s'.queueStatus? ce = some noMatchStatus := by
  have hold := overtaken_append hover
  cases Surroundings.steady_queueEffect hW ce with
  | block =>
      rcases hold with ⟨site, hcall⟩ | ⟨hnot, -⟩
      · cases hcall
      · exact absurd ⟨_, rfl⟩ hnot
  | mark _ hstatus =>
      obtain ⟨-, rfl, -⟩ := hm.marks
      exact hstatus
  | keep _ hmark _ hkeep =>
      rcases hold with ⟨site, hcall⟩ | ⟨-, hold⟩
      · exact absurd hcall (hmark _ _)
      · exact hkeep _ (h.overtaken ce hold)

variable [DecidableEq ι]

theorem Kept.step : Kept visitors (es ++ [⟨i, c, a, s, s'⟩]) (Function.update d i d') s' where
  letIn j settings r hvisitor hinside := by
    by_cases hj : j = i
    · subst hj
      rw [Function.update_self] at hinside
      subst hinside
      rw [hvisitor] at hm
      exact letIn_of_moves hm hW (h.letIn j settings r hvisitor)
    · rw [Function.update_of_ne hj] at hinside
      exact (h.letIn j settings r hvisitor hinside).append (Surroundings.steady_queueEffect hW r.ce)
  blocked _ hblocked := h.step_blocked hm hW hblocked
  overtaken _ hover := h.step_overtaken hm hW hover

end Step

variable [DecidableEq ι] {t u : Threads ι Call Call.Answer (fun i => (visitors i).Result) Store}

theorem kept_of_run
    (hs : ∀ ce q, s.queues.get? ce = some q → q.blocked = true → q.status = "blocked")
    (h : Run Surroundings.steady.world (Visitor.threads visitors s) es t) :
    ∃ d, Kept visitors es d t.state := by
  obtain ⟨d, hkept, -⟩ := h.invariant (fun i => (visitors i).Moves) (fun i => (visitors i).Ends)
    (fun _ => .outside) (fun i => (visitors i).follows) (Kept visitors) (.start hs)
    (fun _ _ _ _ _ _ _ _ hkept hm hW => hkept.step hm hW)
  exact ⟨d, hkept⟩

/-- A request has not been let in, and it wrote nothing. -/
structure TurnedAway (ce : String) (i : ι) (es : List (Event ι Call Call.Answer Store)) (d : Door)
    (s : Store) : Prop where
  blocked : s.isBlocked ce = true
  door : d = .outside ∨ d = .away
  idle : ∀ e ∈ es, e.thread = i → e.after = e.before

omit [DecidableEq ι] in
theorem TurnedAway.own {settings : BrokerSettings} {r : Request} {d : Door}
    (h : TurnedAway r.ce i es d s) (hm : Door.Moves settings r d c a d')
    (hW : Surroundings.steady.world c s a s') :
    TurnedAway r.ce i (es ++ [⟨i, c, a, s, s'⟩]) d' s' := by
  have hidle (hsame : s' = s) : ∀ e ∈ es ++ [⟨i, c, a, s, s'⟩], e.thread = i → e.after = e.before :=
    List.forall_mem_append.mpr ⟨h.idle, List.forall_mem_singleton.mpr fun _ => hsame⟩
  cases hm with
  | stopwatch | note =>
      have hsame : s' = s := hW
      exact ⟨hsame ▸ h.blocked, h.door, hidle hsame⟩
  | turnAway =>
      obtain ⟨now, hp⟩ := Surroundings.steady_store hW
      cases hp
      exact ⟨h.blocked, .inr rfl, hidle rfl⟩
  | letIn hq =>
      obtain ⟨now, hp⟩ := Surroundings.steady_store hW
      cases hp
      cases hq.symm.trans h.blocked
  | fail =>
      obtain ⟨now, hp⟩ := Surroundings.steady_store hW
      cases hp
  | work => rcases h.door with hd | hd <;> cases hd

omit [DecidableEq ι] in
/-- Nobody opens the queue, so it stays blocked. -/
theorem TurnedAway.other {j : ι} {d : Door} (h : TurnedAway ce i es d s) (hj : j ≠ i)
    (hW : Surroundings.steady.world c s a s') (hc : c ≠ .store (.setQueueBlocked ce false)) :
    TurnedAway ce i (es ++ [⟨j, c, a, s, s'⟩]) d s' where
  blocked := by
    cases Surroundings.steady_queueEffect hW ce with
    | @block blocked hswitch =>
        cases blocked with
        | true => exact hswitch
        | false => exact absurd rfl hc
    | mark hsame | keep _ _ hsame => exact hsame.trans h.blocked
  door := h.door
  idle := List.forall_mem_append.mpr
    ⟨h.idle, List.forall_mem_singleton.mpr fun heq => absurd heq hj⟩

theorem turnedAway_of_run {settings : BrokerSettings} {r : Request}
    (hvisitor : visitors i = .request settings r) (hflaw : r.flaw? = none)
    (hblocked : t.state.isBlocked r.ce = true) (hfirst : t.rest i = (visitors i).program)
    (h : Run Surroundings.steady.world t es u)
    (hnone : ∀ e ∈ es, e.call ≠ .store (.setQueueBlocked r.ce false))
    {result : (visitors i).Result} (hdone : u.Finished i result) :
    (visitors i).answer? result = some (.ok (.nothingToRun .queueBlocked)) ∧
      ∀ e ∈ es, e.thread = i → e.after = e.before := by
  have hfollows : (t.rest i).Follows (visitors i).Moves (visitors i).Ends .outside :=
    hfirst ▸ (visitors i).follows
  have hinvariant := h.invariant_of_one i hfollows
    (fun es d s => (∀ e ∈ es, e.call ≠ .store (.setQueueBlocked r.ce false)) →
      TurnedAway r.ce i es d s)
    (fun _ => ⟨hblocked, .inl rfl, fun _ he => nomatch he⟩)
    (fun es d s c a s' d' ih hm hW hnone => by
      rw [hvisitor] at hm
      exact (ih fun e he => hnone e (List.mem_append_left _ he)).own hm hW)
    (fun es d s j c a s' hj ih hW hnone =>
      (ih fun e he => hnone e (List.mem_append_left _ he)).other hj hW
        (hnone _ (List.mem_append_right _ (List.mem_singleton_self _))))
  obtain ⟨d, haway, hf⟩ := hinvariant
  have haway := haway hnone
  rw [show u.rest i = .done result from hdone] at hf
  exact ⟨Visitor.answer?_of_turnedAway hvisitor hflaw haway.door hf, haway.idle⟩

/-- Requests for work and operators at any queues, in any order of their
calls.  Where every blocked queue looks blocked at the start, a blocked
queue looks so in every state that is reached, unless a request was
overtaken there; then it looks as if nothing was found.  A request without
flaws that comes while its queue is blocked, and is through before the
queue is opened, is told so and writes nothing. -/
theorem blocked_queues_look_blocked_unless_overtaken
    (hs : ∀ ce q, s.queues.get? ce = some q → q.blocked = true → q.status = "blocked")
    (h : Run Surroundings.steady.world (Visitor.threads visitors s) es t) :
    (∀ ce q, t.state.queues.get? ce = some q → q.blocked = true →
      (q.status = "blocked" ∨ q.status = noMatchStatus) ∧
        (q.status = noMatchStatus ↔ Overtaken ce es)) ∧
    ∀ i settings r, visitors i = .request settings r → r.flaw? = none →
      t.state.isBlocked r.ce = true → t.rest i = (visitors i).program →
      ∀ es' u, Run Surroundings.steady.world t es' u →
        (∀ e ∈ es', e.call ≠ .store (.setQueueBlocked r.ce false)) →
        ∀ result, u.Finished i result →
          (visitors i).answer? result = some (.ok (.nothingToRun .queueBlocked)) ∧
            ∀ e ∈ es', e.thread = i → e.after = e.before := by
  refine ⟨?_, ?_⟩
  · intro ce q hq hblocked
    obtain ⟨d, hkept⟩ := kept_of_run hs h
    have hstatus : t.state.queueStatus? ce = some q.status := by rw [Store.queueStatus?, hq]; rfl
    have hover (h : Overtaken ce es) : q.status = noMatchStatus :=
      Option.some.inj (hstatus.symm.trans (hkept.overtaken ce h))
    have hlooks := hkept.blocked ce (by rw [Store.isBlocked, hq]; exact hblocked)
    rw [hstatus, Option.some_inj, Option.some_inj] at hlooks
    refine ⟨hlooks.imp_right And.left, ?_, hover⟩
    intro hmarked
    rcases hlooks with hlooks | ⟨-, hover⟩
    · exact absurd (hlooks.symm.trans hmarked) (by decide)
    · exact hover
  · intro i settings r hvisitor hflaw hblocked hfirst es' u hrun hnone result hdone
    exact turnedAway_of_run hvisitor hflaw hblocked hfirst hrun hnone hdone

end Runs

/-- An agent asks for work at a queue, and an operator blocks it. -/
def askAndBlock : Bool → Visitor
  | false => .request {} agentRequest
  | true => .operator "ce" true

theorem looksBlocked_empty (ce : String) (q : SiteQueue)
    (hq : ({} : Store).queues.get? ce = some q) : q.blocked = true → q.status = "blocked" := by
  have hnone : ({} : Store).queues.get? ce = none := rfl
  cases hnone.symm.trans hq

/-- The operator is first, and the request is turned away. -/
theorem blocked_queues_look_blocked_unless_overtaken_of_operator :
    let answer := Partners.reply generousPartners
    let t := (Visitor.threads askAndBlock {}).play answer [true]
    let u := t.play answer [false, false, false, false]
    ∃ es es', Run Surroundings.steady.world (Visitor.threads askAndBlock {}) es t ∧
      Run Surroundings.steady.world t es' u ∧
      (∃ q, t.state.queues.get? "ce" = some q ∧ q.blocked = true ∧
        (q.status = "blocked" ∨ q.status = noMatchStatus) ∧
          (q.status = noMatchStatus ↔ Overtaken "ce" es)) ∧
      u.Finished false (.ok (.nothingToRun .queueBlocked)) ∧
      ∀ e ∈ es', e.thread = false → e.after = e.before := by
  intro answer t u
  have h := Run.play (Surroundings.steady_reply generousPartners)
    (Visitor.threads askAndBlock {}) [true]
  have h' := Run.play (Surroundings.steady_reply generousPartners) t [false, false, false, false]
  have hdone : u.Finished false (.ok (.nothingToRun .queueBlocked)) := rfl
  obtain ⟨hlooks, haway⟩ := blocked_queues_look_blocked_unless_overtaken looksBlocked_empty h
  have hnone : ∀ e ∈ t.log answer [false, false, false, false],
      e.call ≠ .store (.setQueueBlocked "ce" false) := by
    have hall : ((t.log answer [false, false, false, false]).all fun e =>
        e.call matches .stopwatch | .note _ | .store (.siteQueue _)) = true := rfl
    intro e he hcall
    have hkind := List.all_eq_true.mp hall e he
    rw [hcall] at hkind
    cases hkind
  refine ⟨_, _, h, h', ⟨_, rfl, rfl, hlooks "ce" _ rfl rfl⟩, hdone, ?_⟩
  exact (haway false {} agentRequest rfl (by decide) rfl rfl _ _ h' hnone _ hdone).2

/-- The request was let in before the operator comes, and afterwards it
writes that it found nothing: a blocked queue does not look blocked. -/
theorem late_request_marks_blocked_queue :
    let t := (Visitor.threads askAndBlock {}).play (Partners.reply generousPartners)
      ([false, false, true] ++ List.replicate 9 false)
    (∀ ce q, ({} : Store).queues.get? ce = some q → q.blocked = true → q.status = "blocked") ∧
      (∃ es, Run Surroundings.steady.world (Visitor.threads askAndBlock {}) es t) ∧
      ∃ q, t.state.queues.get? "ce" = some q ∧ q.blocked = true ∧ q.status ≠ "blocked" := by
  intro t
  refine ⟨looksBlocked_empty, Run.exists_play (Surroundings.steady_reply generousPartners) _ _, ?_⟩
  have hmarked : (t.state.queues.get? "ce").map (fun q => (q.blocked, q.status)) =
      some (true, noMatchStatus) := by decide +kernel
  obtain ⟨q, hq, hrow⟩ := Option.map_eq_some_iff.mp hmarked
  obtain ⟨hblocked, hstatus⟩ := Prod.mk.inj hrow
  exact ⟨q, hq, hblocked, by rw [hstatus]; decide⟩

end Matching

end GridQueue
