/-
# `GridQueue.Proofs.Lookup.Agreement` — a look-up in a database and in memory

Where the tables of aggregates and of fair shares have the rows of a store
in any order, a look-up

    joins      each aggregate with the record of its owner, or with nulls
    accepts    those the filter accepts and no record excludes
    sorts      as candidates rank
    returns    the first, if there is one

so the rows it accepts are the candidates of the store in memory
(`accepted_select`), and it finds one if the store does.  Of several that
rank the same the database returns any, and the store the one with the
least identifier; the two agree up to that (`lookup_agrees_with_memory`).

In which order the tables hold their rows is left to the database, and
`HoldsWaiting` says no more than that they are the rows of the store.  So
nothing can be said of which one is returned among candidates of the same
rank.
-/
import GridQueue.Proofs.Lookup.Meaning
import GridQueue.Proofs.Partners
import GridQueue.Proofs.Sql.Rows
import GridQueue.Proofs.Store.Reading
import GridQueue.Proofs.Store.Search
import GridQueue.Proofs.Store.Talk
import GridQueue.Store.Schema

namespace GridQueue

open Sql Matching

/-! ## The tables -/

/-- The tables a look-up reads have the rows of a store, in some order. -/
structure HoldsWaiting (d : Database) (s : Store) (aggregates : List Aggregate)
    (records : List FairShare.Record) : Prop where
  aggregatesPerm : aggregates.Perm s.aggregates.values
  recordsPerm : records.Perm s.records.values
  aggregateRows : d.rowsOf "waiting_aggregate" = aggregates.map (·.toRow)
  recordRows : d.rowsOf "priority_quota" = records.map (·.toRow)

/-- What a look-up sees of an aggregate. -/
def Store.seen (s : Store) (a : Aggregate) : Bindings :=
  Lookup.pair a (s.records.get? a.user)

/-- The aggregate is one that a look-up may find. -/
def Store.isCandidate (s : Store) (f : Filter) (a : Aggregate) : Bool :=
  f.accepts a && (effectiveWeight a (s.records.get? a.user)).isSome

variable {d : Database} {s : Store} {aggregates : List Aggregate} {records : List FairShare.Record}
  {f : Filter} {a b : Aggregate} {w : Sql.Surroundings}

theorem Store.isCandidate_iff : s.isCandidate f a = true ↔
    f.accepts a = true ∧ ¬ s.Excludes a.user := by
  rw [isCandidate, Bool.and_eq_true]
  refine and_congr_right fun _ => ?_
  unfold Excludes effectiveWeight
  cases s.records.get? a.user with
  | none => simp
  | some r => cases hr : r.isExcluded <;> simp [hr]

/-! ## The rows of a look-up -/

namespace Lookup

theorem joined_select (hrecords : records.Perm s.records.values)
    (hrows : w.rowsOf "priority_quota" = records.map (·.toRow)) (a : Aggregate) :
    (select f).joined w a.toRow = [s.seen a] := by
  have howner : ∀ r : FairShare.Record,
      ((Expr.compare .eq (share "user_name") (agg "user_name")).eval w
        [("a", a.toRow), ("p", r.toRow)]).isTrue = decide (r.user = a.user) := fun r => by
    rw [Expr.eval_eq_text (s := r.user) (t := a.user) rfl rfl, Value.isTrue_bool]
  have hpartners : ((w.rowsOf "priority_quota").filter fun r =>
      ((Expr.compare .eq (share "user_name") (agg "user_name")).eval w
        [("a", a.toRow), ("p", r)]).isTrue) = (s.records.get? a.user).toList.map (·.toRow) := by
    rw [hrows, List.filter_map, ← s.recordsKeyed.filter_perm hrecords]
    exact congrArg _ (List.filter_congr fun r _ => howner r)
  rw [Select.joined]
  simp only [select]
  rw [show Source.name ⟨"waiting_aggregate", "a"⟩ = "a" from rfl,
    show Source.name ⟨"priority_quota", "p"⟩ = "p" from rfl, hpartners, Store.seen, pair]
  cases s.records.get? a.user <;> rfl

theorem accepts_select (hparams : w.params = params f)
    (hidle : ∀ r, f.remote = some r → ¬ r.now.before a.idleSince) :
    (select f).accepts w (s.seen a) = s.isCandidate f a :=
  isTrue_conditions hparams hidle

theorem eval_weight (w : Sql.Surroundings) (s : Store) (a : Aggregate) :
    (Expr.coalesce (share "computed_priority") (agg "priority")).eval w (s.seen a) =
      .real (s.weighed a).weight := by
  rw [Store.seen, Store.weighed]
  cases s.records.get? a.user <;> rfl

theorem compareBy_ranking (w : Sql.Surroundings) (s : Store) (a b : Aggregate) :
    Select.compareBy w (s.seen a) (s.seen b) ranking = (s.weighed a).rank (s.weighed b) := by
  have hswap : ∀ x y : Float, (FloatOrder.cmp x y).swap = FloatOrder.cmp y x := fun x y =>
    (Std.OrientedOrd.eq_swap (α := Int)).symm
  have hprice : ∀ a, (agg "price").eval w (s.seen a) = .real a.price := fun _ => rfl
  have holdest : ∀ a, (agg "oldest_queue_id").eval w (s.seen a) = .int a.oldestJob := fun _ => rfl
  simp only [ranking, Select.compareBy, eval_weight, hprice, holdest, Value.rank, Value.order?,
    Option.getD_some, Direction.order, hswap, Ordering.then_eq]
  rfl

theorem accepted_select (h : HoldsWaiting d s aggregates records)
    (hidle : ∀ r, f.remote = some r → ∀ a ∈ aggregates, ¬ r.now.before a.idleSince)
    (now : Instant) :
    (select f).accepted (d.surroundings (params f) now []) =
      (aggregates.filter (s.isCandidate f)).map s.seen :=
  Select.accepted_map h.aggregateRows (fun a _ => joined_select h.recordsPerm h.recordRows a)
    fun a ha => accepts_select rfl fun r hr => hidle r hr a ha

/-- The row a look-up returns is that of the candidate that is sorted
first. -/
theorem run_select (h : HoldsWaiting d s aggregates records)
    (hidle : ∀ r, f.remote = some r → ∀ a ∈ aggregates, ¬ r.now.before a.idleSince)
    (now : Instant) :
    (select f).run (d.surroundings (params f) now []) =
      ((aggregates.filter (s.isCandidate f)).mergeSort fun a b =>
        (s.weighed a).rank (s.weighed b) != .gt).head?.toList.map (·.toRow) := by
  have hrun := Select.run_map_first (s := select f) (w := d.surroundings (params f) now [])
    (g := s.seen) h.aggregateRows (fun a _ => joined_select h.recordsPerm h.recordRows a)
    (fun a ha => accepts_select rfl fun r hr => hidle r hr a ha) rfl
  have horder : (select f).order = ranking := rfl
  simp only [horder, compareBy_ranking] at hrun
  exact hrun

end Lookup

/-! ## The first row -/

/-- What is sorted first is one of the list, and no other goes before
it. -/
theorem head?_mergeSort {α : Type} {cmp : α → α → Ordering} [Std.TransCmp cmp] {l : List α} {x : α}
    (h : (l.mergeSort fun x y => cmp x y != .gt).head? = some x) :
    x ∈ l ∧ ∀ y ∈ l, cmp y x ≠ .lt := by
  have hle : ∀ o : Ordering, (o != .gt) = o.isLE := fun o => by cases o <;> rfl
  have hsorted : (l.mergeSort fun x y => cmp x y != .gt).Pairwise
      fun x y => (cmp x y != .gt) = true := by
    refine List.pairwise_mergeSort ?_ ?_ l
    · intro x y z hxy hyz
      rw [hle] at hxy hyz ⊢
      exact Std.TransCmp.isLE_trans hxy hyz
    · intro x y
      have hswap : cmp y x = (cmp x y).swap := Std.OrientedCmp.eq_swap
      rw [hswap]
      cases cmp x y <;> rfl
  have hperm := List.mergeSort_perm l fun x y => cmp x y != .gt
  obtain ⟨rest, hrest⟩ := List.head?_eq_some_iff.mp h
  rw [hrest] at hsorted hperm
  refine ⟨hperm.mem_iff.mp (List.mem_cons_self ..), fun y hy => ?_⟩
  rcases List.mem_cons.mp (hperm.mem_iff.mpr hy) with rfl | hmem
  · have hself : cmp y y = .eq := Std.ReflCmp.compare_self
    rw [hself]
    nofun
  · have hfirst := bne_iff_ne.mp (List.rel_of_pairwise_cons hsorted hmem)
    exact fun hlt => hfirst (Std.OrientedCmp.gt_of_lt hlt)

/-- Two candidates rank the same: what a look-up sorts by is equal. -/
structure Store.RankAlike (s : Store) (a b : Aggregate) : Prop where
  weights : ∃ x y, effectiveWeight a (s.records.get? a.user) = some x ∧
    effectiveWeight b (s.records.get? b.user) = some y ∧ FloatOrder.cmp x y = .eq
  price : FloatOrder.cmp a.price b.price = .eq
  oldestJob : a.oldestJob = b.oldestJob

theorem Store.effectiveWeight_of_isCandidate (h : s.isCandidate f a = true) :
    effectiveWeight a (s.records.get? a.user) = some (s.weighed a).weight := by
  obtain ⟨-, hsome⟩ := Bool.and_eq_true_iff.mp h
  rw [weighed]
  revert hsome
  unfold effectiveWeight
  cases s.records.get? a.user with
  | none => exact fun _ => rfl
  | some r => cases hr : r.isExcluded <;> simp [hr]

theorem Store.rankAlike_of_rank (ha : s.isCandidate f a = true) (hb : s.isCandidate f b = true)
    (h : (s.weighed b).rank (s.weighed a) = .eq) : s.RankAlike a b := by
  rw [Candidate.rank, Ordering.then_eq_eq, Ordering.then_eq_eq] at h
  obtain ⟨hweight, hprice, holdest⟩ := h
  exact ⟨⟨_, _, effectiveWeight_of_isCandidate ha, effectiveWeight_of_isCandidate hb, hweight⟩,
    hprice, (Std.LawfulEqOrd.compare_eq_iff_eq.mp holdest).symm⟩

theorem HoldsWaiting.offers_iff (h : HoldsWaiting d s aggregates records) :
    s.Offers f a ↔ a ∈ aggregates.filter (s.isCandidate f) := by
  rw [List.mem_filter, h.aggregatesPerm.mem_iff, Store.isCandidate_iff]
  rfl

/-- The candidate that is sorted first is there if one is found in memory,
and they rank the same: neither goes before the other. -/
theorem HoldsWaiting.first_candidate (h : HoldsWaiting d s aggregates records)
    {found : Option Aggregate}
    (hfound : ((aggregates.filter (s.isCandidate f)).mergeSort fun a b =>
      (s.weighed a).rank (s.weighed b) != .gt).head? = found) :
    (found = none ↔ s.findWaiting f = none) ∧
      ∀ a b, found = some a → s.findWaiting f = some b →
        s.isCandidate f a = true ∧ s.RankAlike a b := by
  constructor
  · rw [← hfound, List.head?_eq_none_iff, ← List.length_eq_zero_iff, List.length_mergeSort,
      List.length_eq_zero_iff, List.eq_nil_iff_forall_not_mem, Store.findWaiting_eq_none]
    exact forall_congr' fun a => not_congr h.offers_iff.symm
  · intro a b ha hb
    rw [ha] at hfound
    -- the rank of candidates is one of the aggregates too
    have htrans : Std.TransCmp fun a b : Aggregate => (s.weighed a).rank (s.weighed b) :=
      { eq_swap := Std.OrientedCmp.eq_swap
        isLE_trans := Std.TransCmp.isLE_trans }
    obtain ⟨hmem, hfirst⟩ := head?_mergeSort hfound
    have hwins := Store.findWaiting_eq_some.mp hb
    have hcandidate : s.isCandidate f a = true := (List.mem_filter.mp hmem).2
    have hcandidate' : s.isCandidate f b = true :=
      (List.mem_filter.mp (h.offers_iff.mp hwins.mem)).2
    refine ⟨hcandidate, Store.rankAlike_of_rank hcandidate hcandidate' ?_⟩
    rcases hwins.precedes a (h.offers_iff.mpr hmem) with rfl | hprecedes
    · exact Std.ReflCmp.compare_self
    · rcases Candidate.precedes_iff.mp hprecedes with hlt | ⟨heq, -⟩
      · exact absurd hlt (hfirst b (h.offers_iff.mp hwins.mem))
      · exact heq

/-- A look-up in the database is one in memory: it binds every parameter
to the value its condition is about, accepts the rows of the aggregates
that the filter accepts and no record excludes, and finds none if the
store finds none and otherwise one that ranks the same. -/
theorem lookup_agrees_with_memory (t : Timeouts) (now : Instant)
    (h : HoldsWaiting d s aggregates records)
    (hidle : ∀ r, f.remote = some r → ∀ a ∈ aggregates, ¬ r.now.before a.idleSince) :
    Lookup.Binds (Lookup.select f) (Lookup.params f) (Lookup.clauses f) ∧
    (Lookup.select f).accepted (d.surroundings (Lookup.params f) now []) =
      (aggregates.filter fun a =>
        f.accepts a && (effectiveWeight a (s.records.get? a.user)).isSome).map s.seen ∧
    ∃ found, (Querying.perform t (.findWaiting f)).Gives now d found d ∧
      (found = none ↔ s.findWaiting f = none) ∧
      ∀ a b, found = some a → s.findWaiting f = some b →
        s.isCandidate f a = true ∧ s.RankAlike a b := by
  refine ⟨Lookup.binds_clauses f, Lookup.accepted_select h hidle now, _, ?_,
    h.first_candidate rfl⟩
  exact .bind (.bounded (Database.execute_select _))
    (.firstRow (Lookup.run_select h hidle now) fun a _ => a.ofRow_toRow)

/-- A database with the aggregates and the fair shares of a store. -/
def Store.waitingDatabase (s : Store) : Database :=
  { tables :=
      [⟨Schema.waitingAggregate, s.aggregates.values.map (·.toRow)⟩,
       ⟨Schema.priorityQuota, s.records.values.map (·.toRow)⟩] }

theorem Store.holdsWaiting_waitingDatabase (s : Store) :
    HoldsWaiting s.waitingDatabase s s.aggregates.values s.records.values :=
  ⟨.refl _, .refl _, rfl, rfl⟩

/-- A waiting job of an aggregate that is open to remote agents, and the
record of its owner. -/
def remoteStore : Store :=
  ((storeOfOne 1 1).insertAggregate { openAggregate 1 1 with remoteAllowed := true }).insertRecord
    (idleRecord "alice")

/-- What a remote agent asks after a thousand seconds. -/
def remoteFilter : Filter :=
  { site := some "site", allowedUsers := ["alice"], ttl := 7200, disk := 1000
    packages := .installed (NameSet.ofNames ["root"])
    remote := some ⟨Instant.ofMillis 1000000, 600⟩ }

/-- A remote agent finds an aggregate that waited for it. -/
theorem lookup_agrees_with_memory_of_remote_agent :
    let d := remoteStore.waitingDatabase
    let now := Instant.ofMillis 1000000
    HoldsWaiting d remoteStore remoteStore.aggregates.values remoteStore.records.values ∧
    (∀ r, remoteFilter.remote = some r → ∀ a ∈ remoteStore.aggregates.values,
      ¬ r.now.before a.idleSince) ∧
    Lookup.params remoteFilter = [.int 7200, .int 1000, .texts ["site"], .texts ["alice"],
      .texts ["root"], .time now, .int 600] ∧
    ∃ a b, remoteStore.findWaiting remoteFilter = some b ∧
      (Querying.perform {} (.findWaiting remoteFilter)).Gives now d (some a) d ∧
      remoteStore.RankAlike a b := by
  intro d now
  have h : HoldsWaiting d remoteStore _ _ := remoteStore.holdsWaiting_waitingDatabase
  have hidle : ∀ r, remoteFilter.remote = some r → ∀ a ∈ remoteStore.aggregates.values,
      ¬ r.now.before a.idleSince := by
    intro r hr a ha
    cases hr
    rw [List.mem_singleton.mp ha]
    decide
  have hmemory : remoteStore.findWaiting remoteFilter =
    some { openAggregate 1 1 with remoteAllowed := true } := rfl
  obtain ⟨-, -, found, hgives, hnone, hsome⟩ :=
    lookup_agrees_with_memory (f := remoteFilter) {} now h hidle
  refine ⟨h, hidle, rfl, ?_⟩
  cases hfound : found with
  | none =>
    rw [hnone.mp hfound] at hmemory
    cases hmemory
  | some a =>
    rw [hfound] at hgives
    exact ⟨a, _, hmemory, hgives, (hsome a _ hfound hmemory).2⟩

end GridQueue
