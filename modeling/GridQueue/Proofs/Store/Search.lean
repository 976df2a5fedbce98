/-
# `GridQueue.Proofs.Store.Search` — what a look-up finds

`Store.Offers` says which aggregates a filter lets an agent have, and
`Store.First` which of a class of aggregates comes first:

    the higher weight of the owner, or of its own without a record
    then the higher price
    then the older oldest job
    then the smaller identifier

The last makes `Candidate.Precedes` a strict total order, so that a class
has one first aggregate at most.  A look-up finds the first of those on
offer, and fails only if there are none.

    findWaiting_eq_none    nothing is on offer
    findWaiting_eq_some    the aggregate is the first on offer
    First.eq               there is one first aggregate at most

These three are the specification of the look-up that the modules on
requests rely on.  Weights and prices are floats of any kind, not-a-number
among them, and the order of candidates is lawful all the same, since it
compares floats by a key (`FloatOrder.rankKey`).
-/
import GridQueue.Store.Memory

namespace GridQueue

/-! ## The order of candidates -/

namespace Matching.Candidate

theorem rank_eq_compareLex : rank = compareLex
    (fun x y : Candidate => compareOn (fun c : Candidate => FloatOrder.rankKey c.weight) y x)
    (compareLex
      (fun x y : Candidate =>
        compareOn (fun c : Candidate => FloatOrder.rankKey c.aggregate.price) y x)
      (compareOn fun c : Candidate => c.aggregate.oldestJob)) := by
  funext x y
  simp only [rank, compareLex, compareOn, FloatOrder.cmp]

/-- The rank is a total preorder, as the orders it is made of are. -/
instance : Std.TransCmp rank := by
  rw [rank_eq_compareLex]
  infer_instance

/-- The order of rank and, of equals, of identifiers. -/
def order (c d : Candidate) : Ordering :=
  (c.rank d).then (compare c.aggregate.id d.aggregate.id)

instance : Std.TransCmp order :=
  inferInstanceAs
    (Std.TransCmp (compareLex rank (compareOn fun c : Candidate => c.aggregate.id)))

def Precedes (c d : Candidate) : Prop := c.order d = .lt

theorem precedes_iff {c d : Candidate} :
    c.Precedes d ↔ c.rank d = .lt ∨ c.rank d = .eq ∧ c.aggregate.id < d.aggregate.id := by
  rw [Precedes, order, Ordering.then_eq_lt, Int.compare_eq_lt]

theorem Precedes.trans {c d e : Candidate} (h : c.Precedes d) (h' : d.Precedes e) :
    c.Precedes e :=
  Std.TransCmp.lt_trans h h'

theorem Precedes.asymm {c d : Candidate} (h : c.Precedes d) : ¬ d.Precedes c := by
  intro h'
  have hgt := Std.OrientedCmp.gt_of_lt h
  rw [h'] at hgt
  cases hgt

/-- One that is not beaten by a later one in the list precedes it. -/
theorem precedes_of_not_lt {c d : Candidate} (h : d.rank c ≠ .lt)
    (hid : c.aggregate.id < d.aggregate.id) : c.Precedes d := by
  rw [precedes_iff]
  cases hr : c.rank d with
  | lt => exact .inl rfl
  | eq => exact .inr ⟨rfl, hid⟩
  | gt => exact absurd (Std.OrientedCmp.lt_of_gt hr) h

theorem best?_eq_none {l : List Candidate} : best? l = none ↔ l = [] := by
  cases l with
  | nil => simp [best?]
  | cons c rest =>
      simp only [best?, reduceCtorEq, iff_false]
      split
      · nofun
      · split <;> nofun

/-- The best of candidates in ascending order is the one that precedes all
others. -/
theorem best?_precedes {l : List Candidate}
    (hl : l.Pairwise fun c d => c.aggregate.id < d.aggregate.id) {c : Candidate}
    (h : best? l = some c) : c ∈ l ∧ ∀ d ∈ l, d = c ∨ c.Precedes d := by
  induction l generalizing c with
  | nil => cases h
  | cons x rest ih =>
      obtain ⟨hx, hrest⟩ := List.pairwise_cons.mp hl
      unfold best? at h
      split at h
      · next hnone =>
        cases h
        rw [best?_eq_none.mp hnone]
        exact ⟨List.mem_singleton_self _, fun d hd => .inl (List.mem_singleton.mp hd)⟩
      · next y hy =>
        obtain ⟨hmem, hfirst⟩ := ih hrest hy
        split at h
        · next hlt =>
          cases h
          refine ⟨List.mem_cons_of_mem _ hmem, ?_⟩
          intro d hd
          rcases List.mem_cons.mp hd with rfl | hd
          · exact .inr (precedes_iff.mpr (.inl hlt))
          · exact hfirst d hd
        · next hnot =>
          cases h
          -- of equals the earlier one is kept, whose identifier is smaller
          have hxy := precedes_of_not_lt hnot (hx y hmem)
          refine ⟨List.mem_cons_self .., ?_⟩
          intro d hd
          rcases List.mem_cons.mp hd with rfl | hd
          · exact .inl rfl
          · rcases hfirst d hd with rfl | hyd
            · exact .inr hxy
            · exact .inr (hxy.trans hyd)

end Matching.Candidate

theorem Matching.Filter.counter_pos {f : Matching.Filter} {a : Aggregate}
    (h : f.accepts a = true) : 0 < a.counter := by
  simp only [accepts, Bool.and_eq_true, decide_eq_true_eq, and_assoc] at h
  exact h.1

theorem Matching.Filter.accepts_counter {f : Matching.Filter} {a : Aggregate} {n : Int}
    (h : f.accepts a = true) (hn : 0 < n) : f.accepts { a with counter := n } = true := by
  have hpos := counter_pos h
  unfold accepts at h ⊢
  rw [decide_eq_true hpos] at h
  rw [decide_eq_true hn]
  exact h

/-! ## What is on offer -/

namespace Store

open Matching

variable {s : Store} {f : Filter} {a b : Aggregate}

/-- The record of the user says not to match the user's jobs. -/
def Excludes (s : Store) (user : String) : Prop :=
  ∃ r, s.records.get? user = some r ∧ r.isExcluded = true

/-- The aggregates an agent may get a job of. -/
def Offers (s : Store) (f : Filter) (a : Aggregate) : Prop :=
  a ∈ s.aggregates.values ∧ f.accepts a = true ∧ ¬ s.Excludes a.user

/-- An aggregate with the weight of its owner, or else its own. -/
def weighed (s : Store) (a : Aggregate) : Candidate :=
  ⟨((s.records.get? a.user).map (·.weight)).getD a.priority, a⟩

/-- An aggregate is of a class and comes before all others of it. -/
structure First (s : Store) (among : Aggregate → Prop) (a : Aggregate) : Prop where
  mem : among a
  precedes : ∀ b, among b → b = a ∨ (s.weighed a).Precedes (s.weighed b)

theorem First.eq {among : Aggregate → Prop} (h : s.First among a) (h' : s.First among b) :
    a = b := by
  rcases h.precedes b h'.mem with rfl | hab
  · rfl
  · rcases h'.precedes a h.mem with rfl | hba
    · rfl
    · exact absurd hba hab.asymm

theorem candidate?_eq_some {c : Candidate} :
    s.candidate? f a = some c ↔ f.accepts a = true ∧ ¬ s.Excludes a.user ∧ s.weighed a = c := by
  unfold candidate? Excludes weighed effectiveWeight
  cases f.accepts a with
  | false => simp
  | true =>
      cases s.records.get? a.user with
      | none => simp
      | some r => cases he : r.isExcluded <;> simp [he]

theorem mem_candidates {c : Candidate} :
    c ∈ s.candidates f ↔ ∃ a, s.Offers f a ∧ s.weighed a = c := by
  simp only [candidates, List.mem_filterMap, candidate?_eq_some, Offers, and_assoc]

theorem pairwise_candidates (s : Store) (f : Filter) :
    (s.candidates f).Pairwise fun c d => c.aggregate.id < d.aggregate.id := by
  refine List.Pairwise.filterMap _ (?_)
    s.aggregatesKeyed.pairwise_values
  intro a b hlt c hc d hd
  obtain ⟨-, -, rfl⟩ := candidate?_eq_some.mp hc
  obtain ⟨-, -, rfl⟩ := candidate?_eq_some.mp hd
  exact Int.compare_eq_lt.mp hlt

theorem findWaiting_eq_none : s.findWaiting f = none ↔ ∀ a, ¬ s.Offers f a := by
  rw [findWaiting, Option.map_eq_none_iff, Candidate.best?_eq_none, List.eq_nil_iff_forall_not_mem]
  constructor
  · exact fun h a ha => h _ (mem_candidates.mpr ⟨a, ha, rfl⟩)
  · intro h c hc
    obtain ⟨a, ha, -⟩ := mem_candidates.mp hc
    exact h a ha

theorem findWaiting_eq_some : s.findWaiting f = some a ↔ s.First (s.Offers f) a := by
  have hfound : ∀ {a}, s.findWaiting f = some a → s.First (s.Offers f) a := by
    intro a h
    obtain ⟨c, hc, rfl⟩ := Option.map_eq_some_iff.mp h
    obtain ⟨hmem, hfirst⟩ := Candidate.best?_precedes (s.pairwise_candidates f) hc
    obtain ⟨a, ha, rfl⟩ := mem_candidates.mp hmem
    refine ⟨ha, ?_⟩
    intro b hb
    rcases hfirst _ (mem_candidates.mpr ⟨b, hb, rfl⟩) with hba | hab
    · exact .inl (congrArg Candidate.aggregate hba)
    · exact .inr hab
  refine ⟨hfound, ?_⟩
  intro h
  cases hf : s.findWaiting f with
  | none => exact absurd h.mem (findWaiting_eq_none.mp hf a)
  | some b => rw [(hfound hf).eq h]

theorem exists_first (h : ∃ a, s.Offers f a) : ∃ a, s.First (s.Offers f) a := by
  cases hf : s.findWaiting f with
  | none =>
      obtain ⟨a, ha⟩ := h
      exact absurd ha (findWaiting_eq_none.mp hf a)
  | some a => exact ⟨a, findWaiting_eq_some.mp hf⟩

end Store

end GridQueue
