/-
# `GridQueue.Proofs.Matching.Ranking` — the look-up finds the least in rank

Candidates are compared by two floats, the higher first, and by the age of
their oldest job.  The floats may be anything:

    -infinity  <  ...  <  -0 = 0  <  ...  <  infinity  <  not-a-number

so the comparison is made in an order in which all floats have a place,
and the rank is a total preorder whatever the weights and prices are
(`Candidate.rank_isTotalPreorder`).  Candidates that are level differ in
none of the three.  Of the aggregates on offer a look-up finds one that no
other beats, and of those that are level with it the one with the least
identifier; that is one aggregate, so it depends on the rows that are
there and not on how they came there (`Store.SameRows.findWaiting_eq`).

`SameRows` says of two lists of rows that they end with the same aggregate
under each identifier and the same record under each user, which is so if
one is a permutation of the other and no name comes twice.
-/
import GridQueue.Proofs.FloatOrder
import GridQueue.Proofs.Lookup.Agreement
import GridQueue.Proofs.Table

namespace GridQueue

open Matching

/-! ## The rank -/

/-- A comparison by which everything has a place, and only what is level
shares one. -/
structure IsTotalPreorder {α : Type} (cmp : α → α → Ordering) (level : α → α → Prop) : Prop where
  refl : ∀ c, cmp c c = .eq
  trans : ∀ c d e, (cmp c d).isLE → (cmp d e).isLE → (cmp c e).isLE
  total : ∀ c d, (cmp c d).isLE ∨ (cmp d c).isLE
  antisymm : ∀ c d, (cmp c d).isLE ∧ (cmp d c).isLE ↔ level c d
  swap : ∀ c d, cmp d c = (cmp c d).swap

theorem FloatOrder.alike_comm {x y : Float} : Alike x y ↔ Alike y x := by
  rw [← cmp_eq_eq, ← cmp_eq_eq, cmp, cmp, Std.compare_eq_iff_eq, Std.compare_eq_iff_eq, eq_comm]

namespace Matching.Candidate

open FloatOrder (Below Alike)

variable {c d e : Candidate}

/-- Nothing but identifiers tells two candidates apart. -/
structure Level (c d : Candidate) : Prop where
  weight : Alike c.weight d.weight
  price : Alike c.aggregate.price d.aggregate.price
  oldestJob : c.aggregate.oldestJob = d.aggregate.oldestJob

/-- A candidate is ranked before another: by the higher weight, then by
the higher price, then by the older job. -/
def Beats (c d : Candidate) : Prop :=
  Below d.weight c.weight ∨ Alike d.weight c.weight ∧
    (Below d.aggregate.price c.aggregate.price ∨ Alike d.aggregate.price c.aggregate.price ∧
      c.aggregate.oldestJob < d.aggregate.oldestJob)

theorem rank_eq_lt : c.rank d = .lt ↔ c.Beats d := by
  rw [rank, Ordering.then_eq_lt, Ordering.then_eq_lt, Int.compare_eq_lt, FloatOrder.cmp_eq_lt,
    FloatOrder.cmp_eq_lt, FloatOrder.cmp_eq_eq, FloatOrder.cmp_eq_eq, Beats]

theorem rank_eq_eq : c.rank d = .eq ↔ c.Level d := by
  rw [rank, Ordering.then_eq_eq, Ordering.then_eq_eq, Std.compare_eq_iff_eq, FloatOrder.cmp_eq_eq,
    FloatOrder.cmp_eq_eq, FloatOrder.alike_comm, FloatOrder.alike_comm (x := d.aggregate.price)]
  constructor
  · rintro ⟨hweight, hprice, holdest⟩
    exact ⟨hweight, hprice, holdest⟩
  · exact fun h => ⟨h.weight, h.price, h.oldestJob⟩

/-- Whatever the weights and prices are, every two candidates compare, and
the comparisons agree with each other. -/
theorem rank_isTotalPreorder : IsTotalPreorder rank Level := by
  have hswap (c d : Candidate) : d.rank c = (c.rank d).swap := Std.OrientedCmp.eq_swap
  refine ⟨fun _ => Std.ReflCmp.compare_self, fun _ _ _ => Std.TransCmp.isLE_trans,
    fun c d => ?_, fun c d => ?_, hswap⟩
  · rw [hswap c d]
    cases c.rank d
    case gt => exact .inr rfl
    all_goals exact .inl rfl
  · rw [← rank_eq_eq]
    constructor
    · exact fun ⟨hcd, hdc⟩ => Std.OrientedCmp.isLE_antisymm hcd hdc
    · intro h
      rw [hswap c d, h]
      exact ⟨rfl, rfl⟩

end Matching.Candidate

/-! ## The aggregate that is found -/

namespace Store

variable {s s' : Store} {f : Filter} {a b : Aggregate}

/-- An aggregate on offer that no other is ranked before; of those that
are level with it, it has the least identifier. -/
structure IsLeast (s : Store) (f : Filter) (a : Aggregate) : Prop where
  offered : s.Offers f a
  isLE : ∀ b, s.Offers f b → ((s.weighed a).rank (s.weighed b)).isLE
  id_le : ∀ b, s.Offers f b → (s.weighed a).Level (s.weighed b) → a.id ≤ b.id

theorem IsLeast.of_first (h : s.First (s.Offers f) a) : s.IsLeast f a := by
  refine ⟨h.mem, fun b hb => ?_, fun b hb hlevel => ?_⟩
  · rcases h.precedes b hb with rfl | hprecedes
    · exact Std.ReflCmp.isLE_rfl
    · rcases Candidate.precedes_iff.mp hprecedes with hlt | ⟨heq, -⟩
      · exact hlt ▸ rfl
      · exact heq ▸ rfl
  · rcases h.precedes b hb with rfl | hprecedes
    · exact Int.le_refl _
    · rcases Candidate.precedes_iff.mp hprecedes with hlt | ⟨-, hid⟩
      · rw [Candidate.rank_eq_eq.mpr hlevel] at hlt
        cases hlt
      · exact Int.le_of_lt hid

theorem IsLeast.first (h : s.IsLeast f a) : s.First (s.Offers f) a := by
  refine ⟨h.offered, fun b hb => ?_⟩
  by_cases hlevel : (s.weighed a).Level (s.weighed b)
  · rcases Int.lt_or_eq_of_le (h.id_le b hb hlevel) with hlt | heq
    · exact .inr (Candidate.precedes_iff.mpr (.inr ⟨Candidate.rank_eq_eq.mpr hlevel, hlt⟩))
    · -- the identifier is the name of the row
      have ha := s.aggregatesKeyed.mem_values.mp h.offered.1
      rw [heq, s.aggregatesKeyed.mem_values.mp hb.1] at ha
      exact .inl (Option.some.inj ha)
  · refine .inr (Candidate.precedes_iff.mpr (.inl ?_))
    refine (Ordering.isLE_iff_eq_lt_or_eq_eq.mp (h.isLE b hb)).resolve_right ?_
    exact mt Candidate.rank_eq_eq.mp hlevel

theorem findWaiting_eq_some_iff_isLeast : s.findWaiting f = some a ↔ s.IsLeast f a := by
  rw [findWaiting_eq_some]
  exact ⟨.of_first, IsLeast.first⟩

/-- An aggregate is on offer if it is accepted and has a weight to be
ranked by, which is the one it is compared with. -/
theorem offers_iff_effectiveWeight : s.Offers f a ↔ a ∈ s.aggregates.values ∧
    f.accepts a = true ∧ effectiveWeight a (s.records.get? a.user) = some (s.weighed a).weight := by
  refine and_congr_right fun _ => ?_
  constructor
  · intro h
    have hcandidate := isCandidate_iff.mpr h
    exact ⟨h.1, effectiveWeight_of_isCandidate hcandidate⟩
  · rintro ⟨haccepts, hweight⟩
    refine isCandidate_iff.mp ?_
    rw [isCandidate, haccepts, hweight]
    rfl

/-! ## Rows that come in any order -/

theorem findWaiting_congr (haggregates : s'.aggregates = s.aggregates)
    (hrecords : s'.records = s.records) : s'.findWaiting f = s.findWaiting f := by
  have hcandidate : s'.candidate? f = s.candidate? f := by
    funext a
    rw [candidate?, candidate?, hrecords]
  rw [findWaiting, findWaiting, candidates, candidates, haggregates, hcandidate]

/-- A row that is written from outside. -/
inductive Input
  | aggregate (a : Aggregate)
  | record (r : FairShare.Record)

def Input.aggregate? : Input → Option Aggregate
  | aggregate a => some a
  | record _ => none

def Input.record? : Input → Option FairShare.Record
  | aggregate _ => none
  | record r => some r

def putRow (s : Store) : Input → Store
  | .aggregate a => s.insertAggregate a
  | .record r => s.insertRecord r

def putRows (s : Store) (l : List Input) : Store := l.foldl putRow s

theorem aggregates_putRows (s : Store) (l : List Input) : (s.putRows l).aggregates =
    (l.filterMap Input.aggregate?).foldl (fun t a => t.insert a.id a) s.aggregates := by
  induction l generalizing s with
  | nil => rfl
  | cons i rest ih => cases i <;> exact ih _

theorem records_putRows (s : Store) (l : List Input) : (s.putRows l).records =
    (l.filterMap Input.record?).foldl (fun t r => t.insert r.user r) s.records := by
  induction l generalizing s with
  | nil => rfl
  | cons i rest ih => cases i <;> exact ih _

/-- Both leave the same rows behind: of rows with one name the last one. -/
structure SameRows (l l' : List Input) : Prop where
  aggregates : ∀ id, Table.lastNamed (·.id) (l'.filterMap Input.aggregate?) id =
    Table.lastNamed (·.id) (l.filterMap Input.aggregate?) id
  records : ∀ user, Table.lastNamed (·.user) (l'.filterMap Input.record?) user =
    Table.lastNamed (·.user) (l.filterMap Input.record?) user

theorem SameRows.of_perm {l l' : List Input} (h : l'.Perm l)
    (hids : ((l.filterMap Input.aggregate?).map (·.id)).Nodup)
    (husers : ((l.filterMap Input.record?).map (·.user)).Nodup) : SameRows l l' :=
  ⟨Table.lastNamed_perm (h.filterMap _) hids, Table.lastNamed_perm (h.filterMap _) husers⟩

/-- Rows that leave the same ones behind leave the same to be found. -/
theorem SameRows.findWaiting_eq {l l' : List Input} (h : SameRows l l') :
    (s.putRows l').findWaiting f = (s.putRows l).findWaiting f := by
  refine findWaiting_congr (Table.ext_get? fun id => ?_) (Table.ext_get? fun user => ?_)
  · rw [aggregates_putRows, aggregates_putRows, Table.get?_foldl_insert, Table.get?_foldl_insert,
      h.aggregates]
  · rw [records_putRows, records_putRows, Table.get?_foldl_insert, Table.get?_foldl_insert,
      h.records]

end Store

/-- The rank is a total preorder of all candidates, whatever their weights
and prices are, and a look-up finds the least in it: nothing if no
aggregate is accepted whose owner is not excluded, and otherwise the one
with the least identifier of those that no other is ranked before.  Rows
may be inserted in any order that leaves the same ones behind. -/
theorem lookup_finds_least_in_rank :
    IsTotalPreorder Candidate.rank Candidate.Level ∧
    (∀ c d : Candidate, c.rank d = .lt ↔ c.Beats d) ∧
    ∀ (s : Store) (f : Filter),
      (∀ a, s.Offers f a ↔ a ∈ s.aggregates.values ∧ f.accepts a = true ∧
        effectiveWeight a (s.records.get? a.user) = some (s.weighed a).weight) ∧
      (s.findWaiting f = none ↔ ∀ a, ¬ s.Offers f a) ∧
      (∀ a, s.findWaiting f = some a ↔ s.IsLeast f a) ∧
      (∀ l l', Store.SameRows l l' →
        (s.putRows l').findWaiting f = (s.putRows l).findWaiting f) ∧
      ∀ l l' : List Store.Input, l'.Perm l →
        ((l.filterMap Store.Input.aggregate?).map (·.id)).Nodup →
        ((l.filterMap Store.Input.record?).map (·.user)).Nodup →
          (s.putRows l').findWaiting f = (s.putRows l).findWaiting f :=
  ⟨Candidate.rank_isTotalPreorder, fun _ _ => Candidate.rank_eq_lt, fun _ _ =>
    ⟨fun _ => Store.offers_iff_effectiveWeight, Store.findWaiting_eq_none,
      fun _ => Store.findWaiting_eq_some_iff_isLeast, fun _ _ h => h.findWaiting_eq,
      fun _ _ hperm hids husers => (Store.SameRows.of_perm hperm hids husers).findWaiting_eq⟩⟩

/-- Two aggregates whose prices are the two zeros are level, and the one
with the smaller identifier is found however they came. -/
theorem lookup_finds_least_in_rank_of_zeros :
    let a := { openAggregate 1 1 with price := -0.0 }
    let b := { openAggregate 2 1 with price := 0.0 }
    let rows : List Store.Input := [.aggregate b, .record (idleRecord "alice"), .aggregate a]
    let f : Filter := { ttl := 7200, disk := 0 }
    let s := ({} : Store).putRows rows
    (s.weighed b).rank (s.weighed a) = .eq ∧
      ∃ found, found.id = a.id ∧ s.IsLeast f found ∧
        (({} : Store).putRows rows.reverse).findWaiting f = some found := by
  intro a b rows f s
  obtain ⟨-, -, hstores⟩ := lookup_finds_least_in_rank
  obtain ⟨-, -, hleast, -, -⟩ := hstores s f
  obtain ⟨-, -, -, -, hperm⟩ := hstores {} f
  obtain ⟨found, hfound, hid⟩ : ∃ found, s.findWaiting f = some found ∧ found.id = a.id :=
    Option.map_eq_some_iff.mp (by decide +kernel)
  refine ⟨by decide +kernel, found, hid, (hleast found).mp hfound, ?_⟩
  rw [hperm rows rows.reverse (List.reverse_perm rows) (by decide) (by decide)]
  exact hfound

end GridQueue
