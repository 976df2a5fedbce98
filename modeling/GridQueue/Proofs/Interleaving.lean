/-
# `GridQueue.Proofs.Interleaving` — programs that take turns over one world

Several programs run against one world.  A step is one call of one of
them: the world answers it as a whole, and the program goes on with the
answer.  Nothing else happens to the world, and nothing is said about who
comes next, so a `Run` is any order of steps.

    World       what may happen when a call is made in a state
    amid        the world of others who change the state between calls
    Step        one program makes its next call
    Run         the steps from a start, with the log of all calls
    Protocol    the calls a program may make, as moves between modes
    Follows     every path of a program is a path of a protocol
    Ensures     every path the world allows ends with a value as wanted

An invariant of all runs is proved about modes, never about program
texts: each program is shown to follow its protocol once, and
`Run.invariant` turns an invariant that every move of a protocol keeps
into one of every run.  `Run.exists_finished` says that no run is stuck.
-/
import GridQueue.Program
import Mathlib.Logic.Function.Basic
import Mathlib.Logic.Relation
import Mathlib.Data.Fintype.Basic

namespace GridQueue

/-- What may happen when a call is made: the answer and the state after
it. -/
abbrev World (C : Type) (A : C → Type) (σ : Type) : Type :=
  (c : C) → σ → A c → σ → Prop

/-- The same world, in which others change the state between two calls. -/
def World.amid {C σ : Type} {A : C → Type} (W : World C A σ) (others : σ → σ → Prop) :
    World C A σ :=
  fun c s a s' => ∃ s₁, Relation.ReflTransGen others s s₁ ∧ W c s₁ a s'

/-- The calls a program may make in a mode, and the modes to which an
answer may lead. -/
abbrev Protocol (C : Type) (A : C → Type) (M : Type) : Type :=
  M → (c : C) → A c → M → Prop

namespace Program

variable {C : Type} {A : C → Type} {M α β : Type} {P : Protocol C A M}

/-! ## Following a protocol -/

/-- From a mode on, whatever is answered, every call of the program is a
move of the protocol, and `ends` holds where the program is done. -/
def Follows (P : Protocol C A M) : Program C A α → (M → α → Prop) → M → Prop
  | done a, ends, m => ends m a
  | call c next, ends, m => ∀ answer, ∃ m', P m c answer m' ∧ (next answer).Follows P ends m'

theorem follows_call {c : C} {next : A c → Program C A α} {ends : M → α → Prop} {m : M} :
    (call c next).Follows P ends m ↔
      ∀ answer, ∃ m', P m c answer m' ∧ (next answer).Follows P ends m' := Iff.rfl

/-- Programs in sequence follow a protocol if the second follows it from
where the first one ends. -/
theorem follows_bind {p : Program C A α} {f : α → Program C A β} {ends : M → β → Prop} {m : M} :
    (p.bind f).Follows P ends m ↔ p.Follows P (fun m a => (f a).Follows P ends m) m := by
  induction p generalizing m with
  | done a => rfl
  | call c next ih => simp only [bind_call, follows_call, ih]

theorem Follows.mono {p : Program C A α} {ends ends' : M → α → Prop} {m : M}
    (h : p.Follows P ends m) (himp : ∀ m a, ends m a → ends' m a) :
    p.Follows P ends' m := by
  induction p generalizing m with
  | done a => exact himp m a h
  | call c next ih =>
      intro answer
      obtain ⟨m', hmove, hnext⟩ := h answer
      exact ⟨m', hmove, ih answer hnext⟩

/-- A program that follows one protocol follows another one whose modes can
keep up with those of the first. -/
theorem Follows.simulate {N : Type} {Q : Protocol C A N} {R : M → N → Prop} {p : Program C A α}
    {ends : M → α → Prop} {m : M} {n : N} (h : p.Follows P ends m) (hR : R m n)
    (hstep : ∀ m n c a m', R m n → P m c a m' → ∃ n', Q n c a n' ∧ R m' n') :
    p.Follows Q (fun n a => ∃ m, R m n ∧ ends m a) n := by
  induction p generalizing m n with
  | done a => exact ⟨m, hR, h⟩
  | call c next ih =>
      intro answer
      obtain ⟨m', hmove, hnext⟩ := h answer
      obtain ⟨n', hmove', hR'⟩ := hstep m n c answer m' hR hmove
      exact ⟨n', hmove', ih answer hnext hR'⟩

/-! ## Calls of a kind -/

/-- Every call of the program, whatever was answered before, is of a kind. -/
def Only (kind : C → Prop) : Program C A α → Prop
  | done _ => True
  | call c next => kind c ∧ ∀ answer, (next answer).Only kind

theorem Only.mono {kind kind' : C → Prop} {p : Program C A α} (h : p.Only kind)
    (himp : ∀ c, kind c → kind' c) : p.Only kind' := by
  induction p with
  | done a => trivial
  | call c next ih => exact ⟨himp c h.1, fun answer => ih answer (h.2 answer)⟩

theorem Only.bind {kind : C → Prop} {p : Program C A α} {f : α → Program C A β}
    (hp : p.Only kind) (hf : ∀ a, (f a).Only kind) : (p.bind f).Only kind := by
  induction p with
  | done a => exact hf a
  | call c next ih => exact ⟨hp.1, fun answer => ih answer (hp.2 answer)⟩

/-- A program that makes calls of a kind follows the protocol that allows
them in any mode and stays in it. -/
theorem Only.follows {kind : C → Prop} {p : Program C A α} (h : p.Only kind) (m : M) :
    p.Follows (fun m c _ m' => kind c ∧ m' = m) (fun _ _ => True) m := by
  induction p with
  | done a => trivial
  | call c next ih => exact fun answer => ⟨m, ⟨h.1, rfl⟩, ih answer (h.2 answer)⟩

/-- Calls after which a protocol stays in a mode leave a program there. -/
theorem Only.stays {kind : C → Prop} {p : Program C A α} {m : M} (h : p.Only kind)
    (hP : ∀ c a, kind c → P m c a m) : p.Follows P (fun m' _ => m' = m) m := by
  induction p with
  | done a => rfl
  | call c next ih => exact fun answer => ⟨m, hP c answer h.1, ih answer (h.2 answer)⟩

/-! ## What a world ensures -/

/-- Whatever the world may answer, in whatever state it is at each call,
the program ends with a value as wanted. -/
def Ensures {σ : Type} (W : World C A σ) (good : α → Prop) : Program C A α → Prop
  | done a => good a
  | call c next => ∀ s a s', W c s a s' → (next a).Ensures W good

section Ensures

variable {σ : Type} {W W' : World C A σ} {good good' : α → Prop}

/-- Programs in sequence end well if the second does wherever the first
one may end. -/
theorem ensures_bind {p : Program C A α} {f : α → Program C A β} {good : β → Prop} :
    (p.bind f).Ensures W good ↔ p.Ensures W fun a => (f a).Ensures W good := by
  induction p with
  | done a => rfl
  | call c next ih => simp only [bind_call, Ensures, ih]

theorem Ensures.mono {p : Program C A α} (h : p.Ensures W good)
    (himp : ∀ a, good a → good' a) : p.Ensures W good' := by
  induction p with
  | done a => exact himp a h
  | call c next ih => exact fun s a s' hW => ih a (h s a s' hW)

theorem Ensures.narrow {p : Program C A α} (h : p.Ensures W good)
    (hW : ∀ c s a s', W' c s a s' → W c s a s') : p.Ensures W' good := by
  induction p with
  | done a => exact h
  | call c next ih => exact fun s a s' hW' => ih a (h s a s' (hW c s a s' hW'))

theorem ensures_true (p : Program C A α) : p.Ensures W fun _ => True := by
  induction p with
  | done a => trivial
  | call c next ih => exact fun _ a _ _ => ih a

end Ensures

end Program

/-! ## Logs -/

/-- A place in a log with one event more is the last one, or one in the log
before. -/
theorem split_append {α : Type} {es earlier later : List α} {d e : α}
    (h : es ++ [e] = earlier ++ d :: later) :
    (later = [] ∧ earlier = es ∧ d = e) ∨
      ∃ between, later = between ++ [e] ∧ es = earlier ++ d :: between := by
  rcases List.eq_nil_or_concat later with rfl | ⟨between, b, rfl⟩
  · obtain ⟨rfl, he⟩ := List.append_inj' h rfl
    cases he
    exact .inl ⟨rfl, rfl, rfl⟩
  · rw [List.concat_eq_append, ← List.cons_append, ← List.append_assoc] at h
    obtain ⟨rfl, he⟩ := List.append_inj' h rfl
    cases he
    exact .inr ⟨between, List.concat_eq_append, rfl⟩

/-! ## Steps -/

section Threads

variable {ι C σ : Type} {A : C → Type} {α : ι → Type}

/-- Programs that take turns, each with what it has left to do. -/
structure Threads (ι C : Type) (A : C → Type) (α : ι → Type) (σ : Type) where
  state : σ
  rest : (i : ι) → Program C A (α i)

/-- One call of one program. -/
structure Event (ι C : Type) (A : C → Type) (σ : Type) where
  thread : ι
  call : C
  answer : A call
  before : σ
  after : σ

def Threads.Finished (t : Threads ι C A α σ) (i : ι) (a : α i) : Prop := t.rest i = .done a

variable [DecidableEq ι]

/-- What is found in the calls of one program, oldest first. -/
def Event.gather {β : Type} (f : (c : C) → A c → Option β) (i : ι) (es : List (Event ι C A σ)) :
    List β :=
  (es.filter (·.thread = i)).filterMap fun e => f e.call e.answer

section Gather

variable {β : Type} {f : (c : C) → A c → Option β} {i j : ι} {es : List (Event ι C A σ)}
  {c : C} {a : A c} {s s' : σ}

@[simp] theorem Event.gather_nil : Event.gather f i ([] : List (Event ι C A σ)) = [] := rfl

theorem Event.gather_own :
    Event.gather f i (es ++ [⟨i, c, a, s, s'⟩]) = Event.gather f i es ++ (f c a).toList := by
  simp only [Event.gather, List.filter_append, List.filterMap_append, List.filter_singleton,
    decide_true, cond_true]
  cases hf : f c a <;> simp [hf]

theorem Event.exists_of_mem_gather {b : β} (h : b ∈ Event.gather f i es) :
    ∃ e ∈ es, e.thread = i ∧ f e.call e.answer = some b := by
  obtain ⟨e, he, hb⟩ := List.mem_filterMap.mp h
  obtain ⟨hmem, hi⟩ := List.mem_filter.mp he
  exact ⟨e, hmem, of_decide_eq_true hi, hb⟩

theorem Event.mem_gather_own {b : β} (h : f c a = some b) :
    b ∈ Event.gather f i (es ++ [⟨i, c, a, s, s'⟩]) := by
  rw [gather_own, h]
  exact List.mem_append_right _ (List.mem_singleton_self b)

theorem Event.gather_quiet (h : f c a = none) :
    Event.gather f i (es ++ [⟨i, c, a, s, s'⟩]) = Event.gather f i es := by
  rw [gather_own, h]
  exact List.append_nil _

theorem Event.gather_other (h : j ≠ i) :
    Event.gather f i (es ++ [⟨j, c, a, s, s'⟩]) = Event.gather f i es := by
  simp [Event.gather, h]

end Gather

/-- A program makes its next call. -/
inductive Step (W : World C A σ) :
    Threads ι C A α σ → Event ι C A σ → Threads ι C A α σ → Prop
  | call {s s' : σ} {rest : (i : ι) → Program C A (α i)} {i : ι} {c : C}
      {next : A c → Program C A (α i)} {a : A c} :
      rest i = .call c next → W c s a s' →
      Step W ⟨s, rest⟩ ⟨i, c, a, s, s'⟩ ⟨s', Function.update rest i (next a)⟩

/-- Steps from a start, with the log of what was called, oldest first. -/
inductive Run (W : World C A σ) (start : Threads ι C A α σ) :
    List (Event ι C A σ) → Threads ι C A α σ → Prop
  | start : Run W start [] start
  | step {es t e u} : Run W start es t → Step W t e u → Run W start (es ++ [e]) u

namespace Run

variable {W : World C A σ} {start t u : Threads ι C A α σ} {es es' : List (Event ι C A σ)}

theorem trans (h : Run W start es t) (h' : Run W t es' u) : Run W start (es ++ es') u := by
  induction h' with
  | start => simpa using h
  | step _ hstep ih => simpa only [List.append_assoc] using ih.step hstep

/-- The general invariant.  Every program follows a protocol from its
first mode on.  `I` relates the log, the modes of all programs and the
state; it holds at the start, and it is kept when one program moves and
the world answers.  Then it holds in every run, for some modes from which
the programs go on as their protocols say. -/
theorem invariant {M : ι → Type} (P : (i : ι) → Protocol C A (M i))
    (ends : (i : ι) → M i → α i → Prop) (first : (i : ι) → M i)
    (hfollows : ∀ i, (start.rest i).Follows (P i) (ends i) (first i))
    (I : List (Event ι C A σ) → ((i : ι) → M i) → σ → Prop)
    (hstart : I [] first start.state)
    (hmove : ∀ es m s i c a s' m', I es m s → P i (m i) c a m' → W c s a s' →
      I (es ++ [⟨i, c, a, s, s'⟩]) (Function.update m i m') s')
    (h : Run W start es t) :
    ∃ m, I es m t.state ∧ ∀ i, (t.rest i).Follows (P i) (ends i) (m i) := by
  induction h with
  | start => exact ⟨first, hstart, hfollows⟩
  | @step es t e u _ hs ih =>
      obtain ⟨m, hI, hf⟩ := ih
      cases hs with
      | @call s s' rest i c next a hrest hW =>
          have hi := hf i
          rw [show (Threads.rest ⟨s, rest⟩ i) = .call c next from hrest,
            Program.follows_call] at hi
          obtain ⟨m', hm', hnext⟩ := hi a
          -- the others stand where they stood, at the modes they had
          refine ⟨Function.update m i m', hmove _ _ _ _ _ _ _ _ hI hm' hW, ?_⟩
          intro j
          by_cases hj : j = i
          · subst hj
            simpa only [Function.update_self] using hnext
          · simpa only [Function.update_of_ne hj] using hf j

/-- The invariant of one program among others.  Nothing is known of the
others but what the world answers them. -/
theorem invariant_of_one {M : Type} (i : ι) {P : Protocol C A M} {ends : M → α i → Prop}
    {first : M} (hfollows : (start.rest i).Follows P ends first)
    (I : List (Event ι C A σ) → M → σ → Prop) (hstart : I [] first start.state)
    (hown : ∀ es m s c a s' m', I es m s → P m c a m' → W c s a s' →
      I (es ++ [⟨i, c, a, s, s'⟩]) m' s')
    (hother : ∀ es m s j c a s', j ≠ i → I es m s → W c s a s' →
      I (es ++ [⟨j, c, a, s, s'⟩]) m s')
    (h : Run W start es t) :
    ∃ m, I es m t.state ∧ (t.rest i).Follows P ends m := by
  induction h with
  | start => exact ⟨first, hstart, hfollows⟩
  | @step es t e u _ hs ih =>
      obtain ⟨m, hI, hf⟩ := ih
      cases hs with
      | @call s s' rest j c next a hrest hW =>
          by_cases hj : j = i
          · subst hj
            rw [show (Threads.rest ⟨s, rest⟩ j) = .call c next from hrest,
              Program.follows_call] at hf
            obtain ⟨m', hm', hnext⟩ := hf a
            exact ⟨m', hown _ _ _ _ _ _ _ hI hm' hW, by simpa only [Function.update_self]⟩
          · refine ⟨m, hother _ _ _ _ _ _ _ hj hI hW, ?_⟩
            simpa only [Function.update_of_ne (Ne.symm hj)] using hf

/-- The invariant of all programs.  Nothing is known of them but what the
world answers. -/
theorem invariant_of_world (I : List (Event ι C A σ) → σ → Prop) (hstart : I [] start.state)
    (hanswer : ∀ es s i c a s', I es s → W c s a s' → I (es ++ [⟨i, c, a, s, s'⟩]) s')
    (h : Run W start es t) : I es t.state := by
  induction h with
  | start => exact hstart
  | step _ hs ih =>
      cases hs with
      | call _ hW => exact hanswer _ _ _ _ _ _ ih hW

/-- What the world ensures of a program it ensures of what is left of it. -/
theorem ensures {i : ι} {good : α i → Prop} (h : Run W start es t)
    (hstart : (start.rest i).Ensures W good) : (t.rest i).Ensures W good := by
  induction h with
  | start => exact hstart
  | step _ hs ih =>
      cases hs with
      | @call s s' rest j c next a hrest hW =>
          by_cases hj : j = i
          · subst hj
            rw [show (Threads.rest ⟨s, rest⟩ j) = .call c next from hrest] at ih
            simpa only [Function.update_self] using ih s a s' hW
          · simpa only [Function.update_of_ne (Ne.symm hj)] using ih

theorem good_of_finished {i : ι} {good : α i → Prop} {a : α i} (h : Run W start es t)
    (hstart : (start.rest i).Ensures W good) (ha : t.Finished i a) : good a := by
  have hrest := h.ensures hstart
  rwa [show t.rest i = .done a from ha] at hrest

theorem answered (h : Run W start es t) : ∀ e ∈ es, W e.call e.before e.answer e.after := by
  refine h.invariant_of_world (fun es _ => ∀ e ∈ es, W e.call e.before e.answer e.after)
    (fun _ he => nomatch he) ?_
  intro es s i c a s' hes hW
  exact List.forall_mem_append.mpr ⟨hes, List.forall_mem_singleton.mpr hW⟩

/-- Every event of a run is an answer of the world and a move of the
protocol its program follows. -/
theorem event {M : ι → Type} (P : (i : ι) → Protocol C A (M i))
    (ends : (i : ι) → M i → α i → Prop) (first : (i : ι) → M i)
    (hfollows : ∀ i, (start.rest i).Follows (P i) (ends i) (first i))
    (h : Run W start es t) :
    ∀ e ∈ es, W e.call e.before e.answer e.after ∧
      ∃ m m', P e.thread m e.call e.answer m' := by
  obtain ⟨_, hall, -⟩ := h.invariant P ends first hfollows
    (fun es _ _ => ∀ e ∈ es, W e.call e.before e.answer e.after ∧
      ∃ m m', P e.thread m e.call e.answer m') (fun _ he => nomatch he)
    (fun es m s i c a s' m' hes hm hW e he => by
      rcases List.mem_append.mp he with he | he
      · exact hes e he
      · cases List.mem_singleton.mp he
        exact ⟨hW, m i, m', hm⟩)
  exact hall

end Run

/-! ## Schedules -/

/-- The next call of one program, answered by a function; nothing if the
program is done. -/
def Threads.next (answer : (c : C) → σ → A c × σ) (t : Threads ι C A α σ) (i : ι) :
    Threads ι C A α σ :=
  match t.rest i with
  | .done _ => t
  | .call c next =>
      ⟨(answer c t.state).2, Function.update t.rest i (next (answer c t.state).1)⟩

/-- The programs take their turns in this order. -/
def Threads.play (answer : (c : C) → σ → A c × σ) (t : Threads ι C A α σ) (order : List ι) :
    Threads ι C A α σ :=
  order.foldl (·.next answer) t

/-- The event of the next call of one program, if it is not done. -/
def Threads.nextEvent (answer : (c : C) → σ → A c × σ) (t : Threads ι C A α σ) (i : ι) :
    List (Event ι C A σ) :=
  match t.rest i with
  | .done _ => []
  | .call c _ => [⟨i, c, (answer c t.state).1, t.state, (answer c t.state).2⟩]

/-- The log of turns in this order. -/
def Threads.log (answer : (c : C) → σ → A c × σ) (t : Threads ι C A α σ) :
    List ι → List (Event ι C A σ)
  | [] => []
  | i :: rest => t.nextEvent answer i ++ (t.next answer i).log answer rest

theorem Run.next {W : World C A σ} {answer : (c : C) → σ → A c × σ}
    (hW : ∀ c s, W c s (answer c s).1 (answer c s).2) (t : Threads ι C A α σ) (i : ι) :
    Run W t (t.nextEvent answer i) (t.next answer i) := by
  unfold Threads.next Threads.nextEvent
  cases hrest : t.rest i with
  | done a => exact .start
  | call c next => exact Run.step .start (.call hrest (hW c t.state))

/-- What a program is done with, if it is. -/
def Threads.result? (t : Threads ι C A α σ) (i : ι) : Option (α i) :=
  match t.rest i with
  | .done a => some a
  | .call _ _ => none

omit [DecidableEq ι] in
theorem Threads.finished_of_result? {t : Threads ι C A α σ} {i : ι} {a : α i}
    (h : t.result? i = some a) : t.Finished i a := by
  unfold Threads.result? at h
  split at h
  · next b hb =>
    cases h
    exact hb
  · cases h

/-- Turns in any order are a run, where the answers are the world's. -/
theorem Run.play {W : World C A σ} {answer : (c : C) → σ → A c × σ}
    (hW : ∀ c s, W c s (answer c s).1 (answer c s).2) (t : Threads ι C A α σ)
    (order : List ι) : Run W t (t.log answer order) (t.play answer order) := by
  induction order generalizing t with
  | nil => exact .start
  | cons i rest ih => exact (Run.next hW t i).trans (ih (t.next answer i))

theorem Run.exists_play {W : World C A σ} {answer : (c : C) → σ → A c × σ}
    (hW : ∀ c s, W c s (answer c s).1 (answer c s).2) (t : Threads ι C A α σ)
    (order : List ι) : ∃ es, Run W t es (t.play answer order) :=
  ⟨_, Run.play hW t order⟩

/-! ## Progress -/

theorem Run.exists_finished_one {W : World C A σ} (hW : ∀ c s, ∃ a s', W c s a s')
    (i : ι) (p : Program C A (α i)) (t : Threads ι C A α σ) (hp : t.rest i = p) :
    ∃ es u a, Run W t es u ∧ u.rest = Function.update t.rest i (.done a) := by
  induction p generalizing t with
  | done a =>
      refine ⟨[], t, a, .start, ?_⟩
      rw [← hp, Function.update_eq_self]
  | call c next ih =>
      obtain ⟨a, s', hans⟩ := hW c t.state
      let v : Threads ι C A α σ := ⟨s', Function.update t.rest i (next a)⟩
      have hstep : Step W t ⟨i, c, a, t.state, s'⟩ v := .call hp hans
      obtain ⟨es, u, b, hrun, hu⟩ := ih a v (Function.update_self ..)
      refine ⟨_, u, b, (Run.step .start hstep).trans hrun, ?_⟩
      rw [hu, Function.update_idem]

/-- No run is stuck: where every call is answered, finitely many programs
can all be brought to their ends. -/
theorem Run.exists_finished [Fintype ι] {W : World C A σ}
    (hW : ∀ c s, ∃ a s', W c s a s') (t : Threads ι C A α σ) :
    ∃ es u, Run W t es u ∧ ∀ i, ∃ a, u.Finished i a := by
  suffices h : ∀ l : List ι, ∃ es u, Run W t es u ∧ ∀ i ∈ l, ∃ a, u.Finished i a by
    obtain ⟨es, u, hrun, hu⟩ := h Finset.univ.toList
    exact ⟨es, u, hrun, fun i => hu i (Finset.mem_toList.mpr (Finset.mem_univ i))⟩
  intro l
  induction l with
  | nil => exact ⟨[], t, .start, fun i hi => nomatch hi⟩
  | cons i rest ih =>
      obtain ⟨es, u, hrun, hu⟩ := ih
      obtain ⟨es', v, a, hrun', hv⟩ := Run.exists_finished_one hW i (u.rest i) u rfl
      refine ⟨_, v, hrun.trans hrun', ?_⟩
      intro j hj
      by_cases hji : j = i
      · subst hji
        exact ⟨a, by rw [Threads.Finished, hv, Function.update_self]⟩
      · obtain ⟨b, hb⟩ := hu j ((List.mem_cons.mp hj).resolve_left hji)
        exact ⟨b, by rw [Threads.Finished, hv, Function.update_of_ne hji]; exact hb⟩

end Threads

end GridQueue
