/-
# `GridQueue.Proofs.Store.Counter` — the counter of an aggregate

An aggregate carries a counter that is to stand for its waiting jobs.  The
two are written by different calls: a claim takes a job, and the decrement
that counts it comes later.  No other call writes a counter, and none adds
an aggregate or removes one.

    Exact     the counter is the number of the jobs that wait
    Covers    it is no less than that

`Exact` is what tasks keep that are executed one after another, as long as
none is forced (`GridQueue.Proofs.Counter.Alone`); `Covers` is what is left
of it where they take turns (`GridQueue.Proofs.Counter.Shared`).  A store
has finitely many aggregates, so both can be decided.
-/
import GridQueue.Proofs.Store.Waiting

namespace GridQueue.Store

variable {s s' : Store} {aggregateId id : Int} {isLocal : Bool} {now : Instant}

/-- The counter of an aggregate, if there is such an aggregate. -/
def counter? (s : Store) (aggregateId : Int) : Option Int :=
  (s.aggregates.get? aggregateId).map (·.counter)

/-- Every counter is the number of the jobs that wait. -/
def Exact (s : Store) : Prop :=
  ∀ id n, s.counter? id = some n → n = (s.waitingIds id).length

/-- No counter is less than the number of the jobs that wait. -/
def Covers (s : Store) : Prop :=
  ∀ id n, s.counter? id = some n → (s.waitingIds id).length ≤ n

theorem forall_counter? {P : Int → Int → Prop} :
    (∀ id n, s.counter? id = some n → P id n) ↔ ∀ a ∈ s.aggregates.values, P a.id a.counter := by
  constructor
  · intro h a ha
    refine h a.id a.counter ?_
    rw [counter?, s.aggregatesKeyed.mem_values.mp ha]
    rfl
  · intro h id n hn
    obtain ⟨a, ha, rfl⟩ := Option.map_eq_some_iff.mp hn
    obtain rfl : a.id = id := s.aggregatesKeyed _ _ ha
    exact h a (s.aggregatesKeyed.mem_values.mpr ha)

instance (s : Store) : Decidable s.Exact := decidable_of_iff' _ forall_counter?

instance (s : Store) : Decidable s.Covers := decidable_of_iff' _ forall_counter?

theorem eq_of_mem_waitingIds {other : Int} (h : id ∈ s.waitingIds aggregateId)
    (h' : id ∈ s.waitingIds other) : other = aggregateId := by
  obtain ⟨j, hj, -, ha⟩ := mem_waitingIds.mp h
  obtain ⟨j', hj', -, ha'⟩ := mem_waitingIds.mp h'
  cases hj.symm.trans hj'
  exact Option.some.inj (ha'.symm.trans ha)

theorem counter?_decrement (s : Store) (id : Int) :
    (s.decrement aggregateId isLocal now).counter? id =
      if id = aggregateId then (s.counter? id).map fun n => max (n - 1) 0 else s.counter? id := by
  unfold decrement counter?
  cases ha : s.aggregates.get? aggregateId with
  | none =>
      by_cases hid : id = aggregateId
      · simp [hid, ha]
      · simp [hid]
  | some a =>
      obtain rfl : a.id = aggregateId := s.aggregatesKeyed _ _ ha
      simp only [get?_insertAggregate]
      by_cases hid : id = a.id
      · simp [hid, ha]
      · simp [hid]

/-- Counters stay as they are under all calls but decrements. -/
theorem counter?_perform {c : StoreCall} (h : ∀ id isLocal, c ≠ .decrement id isLocal) (id : Int) :
    (s.perform now c).2.counter? id = s.counter? id := by
  have hw : c.writes ≠ some .aggregates := by
    cases c with
    | decrement id isLocal => exact absurd rfl (h id isLocal)
    | _ => simp [StoreCall.writes]
  have hsame : (s.perform now c).2.aggregates = s.aggregates := perform_same hw
  rw [counter?, hsame, counter?]

end GridQueue.Store
