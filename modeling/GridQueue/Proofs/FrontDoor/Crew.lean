/-
# `GridQueue.Proofs.FrontDoor.Crew` — what a pool at work replies

What was asked for is a list of requests, of which each has its place for
a ticket.  Whatever a crew does, the commands that wait are those asked
for under their tickets, and a reply goes to what was asked under its
ticket (`Kept`): a reply has its `id` from the request that a worker
holds, or that is refused.

A crew is attentive while its pool runs, a worker is free and no call
hangs.  Then nothing is left without a reply once it settles.  A worker that
ends with its command is one less to serve those that wait: where counters
are checked, there have to be workers for all of them (`Serving`).

    Kept         every reply and every command in the pool stands for a
                 request that was asked, at its ticket
    Responsive   no fault makes a call hang
    Attentive    a command that is submitted now finds a worker
    Serving      so do all the commands that wait

`Kept` is kept by whatever a crew does and needs nothing of the
environment.  The other three are for the replies that have to come.
-/
import GridQueue.Proofs.Pool.Workshop
import GridQueue.Simulation.Crew

namespace GridQueue.Simulation

open FrontDoor (Request Reply)

/-! ## Who is replied to -/

/-- The commands that wait are those asked for under their tickets, and
the replies are to what was asked under theirs. -/
structure Kept (asked : List Request) (pool : Pool Request) (replies : List (ℕ × Reply)) :
    Prop where
  waiting : ∀ e ∈ pool.queue ++ pool.waiting, asked[e.1]? = some e.2
  replied : ∀ e ∈ replies, ∃ r result, asked[e.1]? = some r ∧ e.2 = .ofResult r.id result

namespace Kept

variable {asked asked' : List Request} {pool pool' : Pool Request} {replies : List (ℕ × Reply)}
  {ticket : ℕ} {r : Request} {c : Crew} {settings : BrokerSettings}

theorem nothing {ps : PoolSettings} : Kept asked { settings := ps } [] :=
  ⟨nofun, nofun⟩

theorem more (h : Kept asked pool replies) (later : List Request) :
    Kept (asked ++ later) pool replies := by
  have hkeep : ∀ {t : ℕ} {r : Request}, asked[t]? = some r → (asked ++ later)[t]? = some r :=
    fun {t r} hr => by rw [List.getElem?_append_left (List.getElem?_eq_some_iff.mp hr).1, hr]
  refine ⟨fun e he => hkeep (h.waiting e he), fun e he => ?_⟩
  obtain ⟨r, result, hr, hreply⟩ := h.replied e he
  exact ⟨r, result, hkeep hr, hreply⟩

theorem not_replied (h : Kept asked pool replies) (ht : asked.length ≤ ticket) {reply : Reply} :
    (ticket, reply) ∉ replies := by
  intro hmem
  obtain ⟨r, -, hr, -⟩ := h.replied _ hmem
  rw [List.getElem?_eq_none ht] at hr
  cases hr

theorem reply (h : Kept asked pool replies) (hr : asked[ticket]? = some r)
    (result : Except CommandError Response) :
    Kept asked pool (replies ++ [(ticket, .ofResult r.id result)]) := by
  refine ⟨h.waiting, fun e he => ?_⟩
  rcases List.mem_append.mp he with he | he
  · exact h.replied e he
  · cases List.mem_singleton.mp he
    exact ⟨r, result, hr, rfl⟩

theorem fewer (h : Kept asked pool replies)
    (hsub : pool'.queue ++ pool'.waiting ⊆ pool.queue ++ pool.waiting) :
    Kept asked pool' replies :=
  ⟨fun e he => h.waiting e (hsub he), h.replied⟩

theorem submit (h : Kept asked c.pool c.replies) (hr : asked[ticket]? = some r) :
    Kept asked (c.submit ticket r).pool (c.submit ticket r).replies := by
  have hpool : Kept asked (c.pool.submit ticket r) c.replies := by
    refine ⟨fun e he => ?_, h.replied⟩
    have hin : e ∈ c.pool.queue ++ c.pool.waiting ∨ e = (ticket, r) := by
      unfold Pool.submit at he
      split at he <;> simp only [List.mem_append, List.mem_singleton] at he ⊢ <;> tauto
    rcases hin with hin | rfl
    · exact h.waiting e hin
    · exact hr
  unfold Crew.submit
  split
  · dsimp only
    split
    · exact hpool
    · exact hpool
  · exact h.reply hr _

theorem take (h : Kept asked pool replies) (htake : pool.take = some ((ticket, r), pool')) :
    asked[ticket]? = some r ∧ Kept asked pool' replies := by
  unfold Pool.take Pool.receive at htake
  split at htake
  · split at htake
    · cases htake
    · next e rest hqueue =>
      cases htake
      refine ⟨h.waiting (ticket, r) (by simp [hqueue]), h.fewer ?_⟩
      rw [hqueue, List.append_assoc, List.take_append_drop]
      exact List.subset_cons_self ..
  · cases htake

theorem serve (h : Kept asked c.pool c.replies) (hr : asked[ticket]? = some r) :
    Kept asked (c.serve settings ticket r).pool (c.serve settings ticket r).replies := by
  unfold Crew.serve
  split
  · split
    · have hpool : Kept asked c.pool.lose c.replies := ⟨h.waiting, h.replied⟩
      exact hpool.reply hr _
    · exact h
  · next result env hrun =>
    have hpool : Kept asked (c.pool.finish ticket (Command.succeeded result)) c.replies :=
      ⟨h.waiting, h.replied⟩
    exact hpool.reply hr result

theorem settle (h : Kept asked c.pool c.replies) :
    Kept asked (c.settle settings).pool (c.settle settings).replies := by
  fun_induction Crew.settle settings c with
  | case1 c hnone => exact h
  | case2 c ticket r pool htake taken ih =>
    obtain ⟨hr, hpool⟩ := h.take htake
    exact ih (Kept.serve (c := taken) hpool hr)

theorem refuseAll {l : List (ℕ × Request)} (hl : ∀ e ∈ l, asked[e.1]? = some e.2)
    (h : Kept asked c.pool c.replies) :
    let refused := l.foldl
      (fun c e => c.reply e.1 (.ofResult e.2.id (.error .shuttingDown))) c
    Kept asked refused.pool refused.replies := by
  induction l generalizing c with
  | nil => exact h
  | cons e rest ih =>
    obtain ⟨hfirst, hrest⟩ := List.forall_mem_cons.mp hl
    exact ih hrest (h.reply hfirst _)

theorem refuse (h : Kept asked c.pool c.replies) :
    Kept asked c.refuse.pool c.refuse.replies :=
  h.refuseAll h.waiting

theorem start (h : Kept asked c.pool c.replies) {c' : Crew} (hstart : c.start = .ok c') :
    Kept asked c'.pool c'.replies := by
  unfold Crew.start at hstart
  cases hpool : c.pool.start with
  | error e =>
    rw [hpool] at hstart
    cases hstart
  | ok pool =>
    rw [hpool] at hstart
    cases hstart
    obtain ⟨-, rfl⟩ := Pool.start_eq_ok hpool
    exact ⟨h.waiting, h.replied⟩

theorem shutdown (h : Kept asked c.pool c.replies) :
    Kept asked c.shutdown.2.pool c.shutdown.2.replies := by
  unfold Crew.shutdown
  split
  · exact h
  · next pool hstop =>
    obtain ⟨-, rfl⟩ := Pool.stop_eq_ok hstop
    have hrefused := Kept.refuse (c := { c with pool := { c.pool with phase := .stopping } })
      ⟨h.waiting, h.replied⟩
    exact ⟨nofun, hrefused.replied⟩

end Kept

/-! ## Who is sure of a reply -/

def Environment.Responsive (env : Environment) : Prop := ∀ f ∈ env.faults, f.effect ≠ .hang

theorem trigger_effect (name : String) {faults : List Fault}
    (h : ∀ f ∈ faults, f.effect ≠ .hang) :
    (trigger name faults).1 ≠ some .hang ∧
      ∀ f ∈ (trigger name faults).2, f.effect ≠ .hang := by
  induction faults with
  | nil => exact ⟨nofun, nofun⟩
  | cons f rest ih =>
    obtain ⟨hf, hrest⟩ := List.forall_mem_cons.mp h
    obtain ⟨heffect, hleft⟩ := ih hrest
    unfold trigger
    split
    · exact ⟨heffect, List.forall_mem_cons.mpr ⟨hf, hleft⟩⟩
    · split
      · exact ⟨fun heq => hf (Option.some.inj heq), List.forall_mem_cons.mpr ⟨hf, hrest⟩⟩
      · exact ⟨heffect, List.forall_mem_cons.mpr ⟨hf, hleft⟩⟩

namespace Environment

variable {env : Environment}

/-- Calls keep returning, and only a counter that is checked ended this one. -/
structure GoesOn {α : Type} (env : Environment) (outcome : Option α × Environment) : Prop where
  responsive : outcome.2.Responsive
  checked : outcome.2.checked = env.checked
  ended : outcome.1 = none → env.checked = true ∧ outcome.2.overran = true

theorem Responsive.answer (h : env.Responsive) (c : Call) : env.GoesOn (answer c env) := by
  cases c with
  | now | stopwatch | note => exact ⟨h, rfl, nofun⟩
  | store c =>
    obtain ⟨heffect, hleft⟩ := trigger_effect c.name h
    simp only [Environment.answer, storeCall]
    split
    · next hhang => exact absurd hhang heffect
    · exact ⟨hleft, rfl, nofun⟩
    · exact ⟨hleft, rfl, nofun⟩
    · split
      · next hover =>
        refine ⟨hleft, rfl, fun _ => ⟨?_, rfl⟩⟩
        by_contra hunchecked
        rw [if_neg hunchecked] at hover
        cases hover
      · exact ⟨hleft, rfl, nofun⟩
  | lookup ce site =>
    obtain ⟨heffect, hleft⟩ := trigger_effect "lookup" h
    simp only [Environment.answer, lookupCall]
    split
    · next hhang => exact absurd hhang heffect
    all_goals exact ⟨hleft, rfl, nofun⟩
  | issue request =>
    obtain ⟨heffect, hleft⟩ := trigger_effect "issue" h
    simp only [Environment.answer, issueCall]
    split
    · next hhang => exact absurd hhang heffect
    all_goals exact ⟨hleft, rfl, nofun⟩
  | revoke request =>
    obtain ⟨heffect, hleft⟩ := trigger_effect "revoke" h
    simp only [Environment.answer, revokeCall]
    split
    · next hhang => exact absurd hhang heffect
    all_goals exact ⟨hleft, rfl, nofun⟩

theorem Responsive.runFrom {α : Type} (h : env.Responsive) (p : Action α) :
    env.GoesOn (Program.run Environment.answer p env) := by
  induction p generalizing env with
  | done a => exact ⟨h, rfl, nofun⟩
  | call c next ih =>
    have hcall := h.answer c
    unfold Program.run
    split
    · next a env' ha =>
      rw [ha] at hcall
      have hrest := ih a hcall.responsive
      exact ⟨hrest.responsive, hrest.checked.trans hcall.checked,
        fun hnone => ⟨hcall.checked ▸ (hrest.ended hnone).1, (hrest.ended hnone).2⟩⟩
    · next env' ha =>
      rw [ha] at hcall
      exact ⟨hcall.responsive, hcall.checked, fun _ => hcall.ended rfl⟩

theorem Responsive.run {α : Type} (h : env.Responsive) (p : Action α) :
    env.GoesOn (env.run p) := by
  have hstart : { env with overran := false }.Responsive := h
  obtain ⟨hresponsive, hchecked, hended⟩ := hstart.runFrom p
  exact ⟨hresponsive, hchecked, hended⟩

end Environment

namespace Crew

variable {c : Crew} {settings : BrokerSettings} {ticket : ℕ} {r : Request}

theorem replies_subset_serve : c.replies ⊆ (c.serve settings ticket r).replies := by
  unfold serve
  split
  · split
    · exact List.subset_append_left ..
    · exact List.Subset.refl _
  · exact List.subset_append_left ..

theorem replies_subset_settle : c.replies ⊆ (c.settle settings).replies := by
  fun_induction Crew.settle settings c with
  | case1 c hnone => exact List.Subset.refl _
  | case2 c ticket r pool htake taken =>
    rename_i ih
    exact List.Subset.trans (replies_subset_serve (c := taken)) ih

theorem settle_of_not_running (h : c.pool.phase ≠ .running) : c.settle settings = c := by
  have hnone : c.pool.take = none := by
    unfold Pool.take
    rw [if_neg fun hrunning => h hrunning.1]
  unfold settle
  split
  · rfl
  · next htake =>
    rw [hnone] at htake
    cases htake

end Crew

/-- The pool runs, a worker is free, the queue has room for some command
and is not passed over, and no call hangs.  Where counters are checked, a
worker is free for every command that waits, and one more. -/
structure Attentive (c : Crew) : Prop where
  running : c.pool.phase = .running
  free : c.pool.busy.length < c.pool.settings.workers
  spare : c.env.checked = true → c.pool.busy.length + c.pool.backlog < c.pool.settings.workers
  room : 0 < c.pool.settings.capacity
  inLine : c.pool.waiting ≠ [] → c.pool.queue ≠ []
  responsive : c.env.Responsive

/-- An attentive crew, while it has commands to serve. -/
structure Serving (c : Crew) : Prop where
  running : c.pool.phase = .running
  free : c.env.checked = false → c.pool.busy.length < c.pool.settings.workers
  enough : c.env.checked = true → c.pool.busy.length + c.pool.backlog ≤ c.pool.settings.workers
  inLine : c.pool.waiting ≠ [] → c.pool.queue ≠ []
  responsive : c.env.Responsive

section

variable {c : Crew} {pool : Pool Request} {ticket : ℕ} {r : Request}

theorem submit_of_running (hrunning : c.pool.phase = .running) (ticket : ℕ) (r : Request) :
    (c.submit ticket r).pool = c.pool.submit ticket r ∧
      (c.submit ticket r).env.faults = c.env.faults ∧
      (c.submit ticket r).env.checked = c.env.checked := by
  have hopen : c.pool.isOpen = true := by
    rw [Pool.isOpen, hrunning]
    rfl
  unfold Crew.submit
  rw [if_pos hopen]
  dsimp only
  split <;> exact ⟨rfl, rfl, rfl⟩

/-- A command has its place in the queue or in the line before it. -/
theorem mem_submit (p : Pool Request) (ticket : ℕ) (r : Request) :
    (ticket, r) ∈ (p.submit ticket r).queue ++ (p.submit ticket r).waiting := by
  unfold Pool.submit
  split <;> simp

theorem inLine_submit {p : Pool Request} (hroom : 0 < p.settings.capacity)
    (ticket : ℕ) (r : Request) :
    (p.submit ticket r).waiting ≠ [] → (p.submit ticket r).queue ≠ [] := by
  unfold Pool.submit
  split
  · simp
  · next hfull =>
    intro _ hempty
    have hnone : p.queue = [] := hempty
    rw [hnone] at hfull
    exact hfull hroom

theorem Attentive.submit (h : Attentive c) (ticket : ℕ) (r : Request) :
    Serving (c.submit ticket r) ∧
      (ticket, r) ∈ (c.submit ticket r).pool.queue ++ (c.submit ticket r).pool.waiting := by
  obtain ⟨hpool, hfaults, hchecked⟩ := submit_of_running h.running ticket r
  rw [hpool]
  refine ⟨⟨?_, fun _ => ?_, fun hcounted => ?_, ?_, fun f hf => h.responsive f (hfaults ▸ hf)⟩,
    mem_submit c.pool ticket r⟩ <;> rw [hpool]
  · exact Pool.phase_submit.trans h.running
  · rw [Pool.busy_submit, Pool.settings_submit]
    exact h.free
  · have hspare := h.spare (hchecked.symm.trans hcounted)
    rw [Pool.busy_submit, Pool.settings_submit, Pool.backlog_submit]
    omega
  · exact inLine_submit h.room ticket r

namespace Serving

theorem nothing_waits (h : Serving c) (hnone : c.pool.take = none) :
    c.pool.queue ++ c.pool.waiting = [] := by
  have hqueue : c.pool.queue = [] := by
    unfold Pool.take Pool.receive at hnone
    split at hnone
    · split at hnone
      · next hempty => exact hempty
      · cases hnone
    · next hfull =>
      have hall : ¬ c.pool.busy.length < c.pool.settings.workers :=
        fun hfree => hfull ⟨h.running, hfree⟩
      have henough := h.enough (Bool.not_eq_false _ ▸ fun hunchecked => hall (h.free hunchecked))
      refine List.eq_nil_of_length_eq_zero ?_
      unfold Pool.backlog at henough
      omega
  have hwaiting : c.pool.waiting = [] := not_imp_not.mp h.inLine hqueue
  rw [hqueue, hwaiting]
  rfl

theorem line_of_take (htake : c.pool.take = some ((ticket, r), pool)) :
    c.pool.queue ++ c.pool.waiting = (ticket, r) :: (pool.queue ++ pool.waiting) ∧
      (pool.waiting ≠ [] → pool.queue ≠ []) := by
  have hreceived := Pool.receive_of_take htake
  unfold Pool.receive at hreceived
  split at hreceived
  · cases hreceived
  · next e rest hqueue =>
    cases hreceived
    constructor
    · rw [hqueue]
      simp only [List.append_assoc, List.take_append_drop, List.cons_append]
    · intro hwaiting hnone
      have hmoved : c.pool.waiting.take 1 = [] := (List.append_eq_nil_iff.mp hnone).2
      have hempty : c.pool.waiting = [] := by
        simpa using (List.take_eq_nil_iff.mp hmoved).resolve_left Nat.one_ne_zero
      exact hwaiting (by rw [hempty]; rfl)

theorem hands_of_take (htake : c.pool.take = some ((ticket, r), pool)) :
    c.pool.phase = .running ∧ c.pool.busy.length < c.pool.settings.workers ∧
      pool.phase = c.pool.phase ∧ pool.settings = c.pool.settings ∧
      pool.busy = c.pool.busy ++ [(ticket, r)] ∧ pool.backlog < c.pool.backlog := by
  have hless := Pool.backlog_take htake
  unfold Pool.take Pool.receive at htake
  split at htake
  · next hmay =>
    split at htake
    · cases htake
    · cases htake
      exact ⟨hmay.1, hmay.2, rfl, rfl, rfl, hless⟩
  · cases htake

theorem serve (settings : BrokerSettings) (h : Serving c)
    (htake : c.pool.take = some ((ticket, r), pool)) :
    let served := ({ c with pool }.noteDepth).serve settings ticket r
    Serving served ∧ (∃ reply, (ticket, reply) ∈ served.replies) ∧
      c.pool.queue ++ c.pool.waiting =
        (ticket, r) :: (served.pool.queue ++ served.pool.waiting) := by
  intro served
  obtain ⟨hline, hinLine⟩ := line_of_take htake
  obtain ⟨hrunning, hfree, hphase, hsettings, hbusy, hless⟩ := hands_of_take htake
  have hnoted : ({ c with pool }.noteDepth).env.Responsive := h.responsive
  obtain ⟨hresponsive, hchecked, hended⟩ := hnoted.run (r.command.dispatch settings)
  have henough := h.enough
  rw [← hsettings] at hfree henough
  simp only [served, Crew.serve]
  split
  · next env hrun =>
    rw [hrun] at hresponsive hchecked hended
    obtain ⟨hcounted, hoverran⟩ := hended rfl
    rw [if_pos hoverran]
    refine ⟨⟨hphase.trans hrunning, fun hunchecked => ?_, fun _ => ?_, hinLine, hresponsive⟩,
      ⟨_, List.mem_append_right _ (List.mem_singleton_self _)⟩, hline⟩
    · exact absurd (hchecked.trans hcounted) (hunchecked ▸ Bool.false_ne_true)
    · have hmany := henough hcounted
      have hone : pool.busy.length = c.pool.busy.length + 1 := by rw [hbusy, List.length_append]; rfl
      change pool.busy.length + pool.backlog ≤ pool.settings.workers
      omega
  · next result env hrun =>
    rw [hrun] at hresponsive hchecked
    -- the worker gives the command back that it took
    have hleave : (pool.busy.filter fun e => e.1 != ticket).length ≤ c.pool.busy.length := by
      rw [hbusy, List.filter_append, List.filter_singleton]
      simpa using List.length_filter_le ..
    refine ⟨⟨hphase.trans hrunning, fun _ => Nat.lt_of_le_of_lt hleave hfree, fun hcounted => ?_,
        hinLine, hresponsive⟩,
      ⟨_, List.mem_append_right _ (List.mem_singleton_self _)⟩, hline⟩
    have hmany := henough (hchecked.symm.trans hcounted)
    change (pool.busy.filter fun e => e.1 != ticket).length + pool.backlog ≤ pool.settings.workers
    omega

theorem settle (settings : BrokerSettings) (h : Serving c) :
    ∀ e ∈ c.pool.queue ++ c.pool.waiting,
      ∃ reply, (e.1, reply) ∈ (c.settle settings).replies := by
  fun_induction Crew.settle settings c with
  | case1 c hnone =>
    rw [h.nothing_waits hnone]
    exact nofun
  | case2 c ticket r pool htake taken ih =>
    obtain ⟨hserved, ⟨reply, hreply⟩, hline⟩ := h.serve settings htake
    rw [hline]
    refine List.forall_mem_cons.mpr ⟨⟨reply, Crew.replies_subset_settle hreply⟩, ih hserved⟩

end Serving

end

end GridQueue.Simulation
