/-
# `GridQueue.Proofs.Yield` — what a program yields when it runs alone

`p.Yields W s a s'` says that `p`, begun in the state `s`, may end with the
value `a` in the state `s'`: every call is answered as the world `W`
allows, and nobody changes the state between two calls.  What a sequence
yields is found piece by piece (`yields_bind`, `yields_attempt_bind`).  A
program that follows a protocol keeps what its moves keep
(`Yields.invariant`), and comes to its end if every call is answered
(`exists_yields`).

`Surroundings.moment` is the world at one time.  The store in memory
answers there for itself, and the clock shows that time throughout; the
directory and the token service answer as the surroundings say.

The difference from `GridQueue.Proofs.Execution` is the clock: there it may
show another time at each call, here one time is fixed, as what a request
is given depends on it.  `Partners.yields_serve` gives the run in which the
partners answer.
-/
import GridQueue.Proofs.Surroundings

namespace GridQueue

namespace Program

variable {C σ α β : Type} {A : C → Type} {W : World C A σ} {s s' : σ}

/-- A program that runs alone in a world may end so. -/
def Yields (W : World C A σ) : Program C A α → σ → α → σ → Prop
  | done a, s, b, s' => b = a ∧ s' = s
  | call c next, s, b, s' => ∃ answer s₁, W c s answer s₁ ∧ (next answer).Yields W s₁ b s'

theorem Yields.mono {W' : World C A σ} {p : Program C A α} {a : α} (h : p.Yields W s a s')
    (hW : ∀ c s answer s', W c s answer s' → W' c s answer s') : p.Yields W' s a s' := by
  induction p generalizing s with
  | done b => exact h
  | call c next ih =>
      obtain ⟨answer, s₁, hstep, hrest⟩ := h
      exact ⟨answer, s₁, hW _ _ _ _ hstep, ih answer hrest⟩

theorem yields_perform {c : C} {answer : A c} :
    (perform c : Program C A (A c)).Yields W s answer s' ↔ W c s answer s' := by
  constructor
  · rintro ⟨a, s₁, hW, rfl, rfl⟩
    exact hW
  · intro hW
    exact ⟨answer, s', hW, rfl, rfl⟩

theorem yields_of_run {answer : Answering C A σ} {p : Program C A α} {a : α}
    (hW : ∀ c s reply s', answer c s = (some reply, s') → W c s reply s')
    (h : p.run answer s = (some a, s')) : p.Yields W s a s' := by
  induction p generalizing s with
  | done b =>
      cases h
      exact ⟨rfl, rfl⟩
  | call c next ih =>
      rw [run] at h
      split at h
      · next reply s₁ hanswer => exact ⟨reply, s₁, hW _ _ _ _ hanswer, ih reply h⟩
      · cases h

/-- Programs in sequence yield what the second one yields after the first. -/
theorem yields_bind {p : Program C A α} {f : α → Program C A β} {b : β} :
    (p >>= f).Yields W s b s' ↔ ∃ a s₁, p.Yields W s a s₁ ∧ (f a).Yields W s₁ b s' := by
  change (p.bind f).Yields W s b s' ↔ _
  induction p generalizing s with
  | done a =>
      constructor
      · intro h
        exact ⟨a, s, ⟨rfl, rfl⟩, h⟩
      · rintro ⟨_, _, ⟨rfl, rfl⟩, h⟩
        exact h
  | call c next ih =>
      constructor
      · rintro ⟨answer, s₁, hW, h⟩
        obtain ⟨a, s₂, hp, hf⟩ := (ih answer).mp h
        exact ⟨a, s₂, ⟨answer, s₁, hW, hp⟩, hf⟩
      · rintro ⟨a, s₂, ⟨answer, s₁, hW, hp⟩, hf⟩
        exact ⟨answer, s₁, hW, (ih answer).mpr ⟨a, s₂, hp, hf⟩⟩

/-! ### Along a protocol -/

section Protocol

variable {M : Type} {P : Protocol C A M} {ends : M → α → Prop} {p : Program C A α} {m : M}
  {I : M → σ → Prop}

/-- What every move keeps holds where a program ends that follows the
protocol. -/
theorem Yields.invariant {a : α} (h : p.Yields W s a s') (hfollows : p.Follows P ends m)
    (hstart : I m s)
    (hmove : ∀ m s c answer s' m', I m s → P m c answer m' → W c s answer s' → I m' s') :
    ∃ m', I m' s' ∧ ends m' a := by
  induction p generalizing m s with
  | done b =>
      obtain ⟨rfl, rfl⟩ := h
      exact ⟨m, hstart, hfollows⟩
  | call c next ih =>
      obtain ⟨answer, s₁, hW, hrest⟩ := h
      obtain ⟨m₁, hP, hnext⟩ := hfollows answer
      exact ih answer hrest hnext (hmove _ _ _ _ _ _ hstart hP hW)

theorem exists_yields (hfollows : p.Follows P ends m) (hstart : I m s)
    (hmove : ∀ m s c answer s' m', I m s → P m c answer m' → W c s answer s' → I m' s')
    (hanswer : ∀ m s c, I m s → (∀ answer, ∃ m', P m c answer m') →
      ∃ answer s', W c s answer s') :
    ∃ a s', p.Yields W s a s' := by
  induction p generalizing m s with
  | done b => exact ⟨b, s, rfl, rfl⟩
  | call c next ih =>
      have hasks : ∀ answer, ∃ m', P m c answer m' := fun answer =>
        (hfollows answer).imp fun _ h => h.1
      obtain ⟨answer, s₁, hW⟩ := hanswer m s c hstart hasks
      obtain ⟨m₁, hP, hnext⟩ := hfollows answer
      obtain ⟨a, s', hrest⟩ := ih answer hnext (hmove _ _ _ _ _ _ hstart hP hW)
      exact ⟨a, s', answer, s₁, hW, hrest⟩

end Protocol

end Program

/-! ## The world at one time -/

namespace Surroundings

/-- The world at one time, for a program that nobody interrupts. -/
def moment (w : Surroundings) (now : Instant) : World Call Call.Answer Store
  | .store c, s, a, s' => s.perform now c = (a, s')
  | .lookup ce site, s, a, s' => w.lookup ce site a ∧ s' = s
  | .issue request, s, a, s' => w.issue request a ∧ s' = s
  | .revoke request, s, a, s' => w.revoke request a ∧ s' = s
  | .now, s, t, s' => t = now ∧ s' = s
  | .stopwatch, s, _, s' | .note _, s, _, s' => s' = s

end Surroundings

/-- Partners as surroundings that leave no choice. -/
def Partners.surroundings (p : Partners) : Surroundings where
  mayFail _ := False
  foreignTraces := False
  lookup ce site answer := answer = .ok (p.requirements ce site)
  issue request answer := answer = p.issue request
  revoke request answer := answer = p.revoke request

theorem Partners.yields_serve {α : Type} (p : Partners) (action : Action α) (s : Store) :
    action.Yields (p.surroundings.moment p.now) s (p.serve action s).1 (p.serve action s).2 := by
  induction action generalizing s with
  | done a => exact ⟨rfl, rfl⟩
  | call c next ih =>
      refine ⟨(p.reply c s).1, (p.reply c s).2, ?_, ih _ _⟩
      cases c with
      | store c => rfl
      | lookup | issue | revoke | now => exact ⟨rfl, rfl⟩
      | stopwatch | note => rfl

section Attempt

open Matching

variable {α β : Type} {w : Surroundings} {now : Instant} {s s₁ s' : Store}

/-- What comes after an attempt counts if it succeeded; an error ends all. -/
theorem yields_attempt_bind {σ : Type} {W : World Call Call.Answer σ} {s s' : σ} {x : Attempt α}
    {f : α → Attempt β} {r : Except BrokerError β} :
    (x >>= f).run.Yields W s r s' ↔
      (∃ a s₁, x.run.Yields W s (.ok a) s₁ ∧ (f a).run.Yields W s₁ r s') ∨
        ∃ e, x.run.Yields W s (.error e) s' ∧ r = .error e := by
  rw [ExceptT.run_bind, Program.yields_bind]
  constructor
  · rintro ⟨v, s₁, hx, hf⟩
    cases v with
    | ok a => exact .inl ⟨a, s₁, hx, hf⟩
    | error e =>
        obtain ⟨rfl, rfl⟩ := hf
        exact .inr ⟨e, hx, rfl⟩
  · rintro (⟨a, s₁, hx, hf⟩ | ⟨e, hx, rfl⟩)
    · exact ⟨.ok a, s₁, hx, hf⟩
    · exact ⟨.error e, s', hx, rfl, rfl⟩

theorem yields_map {W : World Call Call.Answer Store} {x : Attempt α} {f : α → β}
    {r : Except BrokerError β} :
    (do return f (← x) : Attempt β).run.Yields W s r s' ↔
      ∃ v, x.run.Yields W s v s' ∧ r = v.map f := by
  refine yields_attempt_bind.trans ?_
  constructor
  · rintro (⟨a, s₁, hx, rfl, rfl⟩ | ⟨e, hx, rfl⟩)
    · exact ⟨.ok a, hx, rfl⟩
    · exact ⟨.error e, hx, rfl⟩
  · rintro ⟨v, hx, rfl⟩
    cases v with
    | ok a => exact .inl ⟨a, s', hx, rfl, rfl⟩
    | error e => exact .inr ⟨e, hx, rfl⟩

theorem yields_attempt {c : StoreCall} {u : Unit} :
    (Action.attempt c).Yields (w.moment now) s u s' ↔ s' = (s.perform now c).2 := by
  rw [Action.attempt, Program.yields_bind]
  constructor
  · rintro ⟨a, s₁, h, -, rfl⟩
    rw [show s.perform now c = (a, _) from Program.yields_perform.mp h]
  · rintro rfl
    exact ⟨(s.perform now c).1, _, Program.yields_perform.mpr rfl, rfl, rfl⟩

theorem yields_ask {c : StoreCall} {v : c.Value} {r : Except BrokerError c.Value}
    (h : s.perform now c = (.ok v, s₁)) :
    (ask c).run.Yields (w.moment now) s r s' ↔ r = .ok v ∧ s' = s₁ := by
  rw [ask, ExceptT.run_mk, Program.yields_bind]
  constructor
  · rintro ⟨a, s₂, ha, hrest⟩
    have hW : s.perform now c = (a, s₂) := Program.yields_perform.mp ha
    obtain ⟨rfl, rfl⟩ := Prod.mk.inj (hW.symm.trans h)
    exact hrest
  · rintro ⟨rfl, rfl⟩
    exact ⟨.ok v, _, Program.yields_perform.mpr h, rfl, rfl⟩

theorem yields_ask_bind {c : StoreCall} {v : c.Value} {f : c.Value → Attempt β}
    {r : Except BrokerError β} (h : s.perform now c = (.ok v, s₁)) :
    (ask c >>= f).run.Yields (w.moment now) s r s' ↔ (f v).run.Yields (w.moment now) s₁ r s' := by
  refine yields_attempt_bind.trans ?_
  constructor
  · rintro (⟨a, s₂, ha, hf⟩ | ⟨e, he, -⟩)
    · obtain ⟨ha, rfl⟩ := (yields_ask h).mp ha
      cases ha
      exact hf
    · cases ((yields_ask h).mp he).1
  · intro hf
    exact .inl ⟨v, s₁, (yields_ask h).mpr ⟨rfl, rfl⟩, hf⟩

theorem yields_now_bind {f : Instant → Attempt β} {r : Except BrokerError β} :
    (ExceptT.lift Action.now >>= f).run.Yields (w.moment now) s r s' ↔
      (f now).run.Yields (w.moment now) s r s' := by
  constructor
  · rintro ⟨t, s₁, ⟨rfl, rfl⟩, h⟩
    exact h
  · intro h
    exact ⟨now, s, ⟨rfl, rfl⟩, h⟩

end Attempt

end GridQueue
