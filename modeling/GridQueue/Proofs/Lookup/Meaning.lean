/-
# `GridQueue.Proofs.Lookup.Meaning` — what the conditions of a look-up say

A condition of the query and a constraint of the filter ask the same in
different words:

| constraint | in the filter                              | in the query                |
| :--------- | :----------------------------------------- | :-------------------------- |
| element    | none is listed, or this one                | no elements, or any is it   |
| site       | a listed one is the agent's or a further   | two lists overlap           |
| partitions | one of the site's is listed                | two lists overlap           |
| packages   | each is in a set                           | a list is within another    |
| remote     | so many whole seconds have passed          | an instant is not after one |
| owner      | no record, or a weight that is not `≤ 0`   | null, or above zero         |

`Means` says what the conditions of clauses come to wherever the values of
the clauses are among the parameters, and is put together as the clauses
are.  Together they say that the filter accepts the aggregate and that the
aggregate has a weight (`isTrue_conditions`).
-/
import GridQueue.Matching.Rank
import GridQueue.Proofs.FloatOrder
import GridQueue.Proofs.Lookup.Binding
import GridQueue.Proofs.NameSet
import GridQueue.Proofs.Sql.Condition
import GridQueue.Store.Rows

namespace GridQueue.Lookup

open Sql Matching

variable {α : Type} {w : Sql.Surroundings} {b : Bindings} {m : Nat} {cs ds : List Clause}
  {p q : Bool} {vs : List Value} {v : Value}

/-! ## Conditions with their values -/

theorem eval_param {i : Nat} (h : vs <+: w.params.drop m) (hv : vs[i]? = some v) :
    (Expr.param (m + 1 + i)).eval w b = v := by
  obtain ⟨rest, hrest⟩ := h
  have hi : i < vs.length := (List.getElem?_eq_some_iff.mp hv).1
  have hat : w.params[m + i]? = some v := by
    rw [← List.getElem?_drop, ← hrest, List.getElem?_append_left hi, hv]
  rw [Expr.eval, if_neg (by omega), show m + 1 + i - 1 = m + i by omega, hat]
  rfl

/-- Where the parameters from some place on are the values of clauses,
their conditions hold, all of them, exactly if it is so. -/
def Means (b : Bindings) (cs : List Clause) (p : Bool) : Prop :=
  ∀ (w : Sql.Surroundings) (m : Nat), cs.flatMap (·.values) <+: w.params.drop m →
    ((numbered (m + 1) cs).all fun e => (e.eval w b).isTrue) = p

namespace Means

theorem append (h : Means b cs p) (h' : Means b ds q) : Means b (cs ++ ds) (p && q) := by
  intro w m hw
  rw [List.flatMap_append] at hw
  have hrest : ds.flatMap (·.values) <+:
      w.params.drop (m + (cs.flatMap (·.values)).length) := by
    obtain ⟨rest, hrest⟩ := hw
    rw [List.append_assoc] at hrest
    rw [← List.drop_drop, ← hrest, List.drop_left]
    exact List.prefix_append ..
  have hnumber : m + 1 + (cs.flatMap (·.values)).length =
      m + (cs.flatMap (·.values)).length + 1 := by omega
  rw [numbered_append, List.all_append, h w m ((List.prefix_append ..).trans hw), hnumber,
    h' w _ hrest]

theorem one {values : List Value} {condition : Nat → Expr}
    (h : ∀ (w : Sql.Surroundings) (m : Nat), values <+: w.params.drop m →
      ((condition (m + 1)).eval w b).isTrue = p) : Means b [⟨values, condition⟩] p := by
  intro w m hw
  rw [List.flatMap_singleton] at hw
  rw [numbered, numbered, List.all_cons, List.all_nil, Bool.and_true]
  exact h w m hw

theorem about {condition : Nat → Expr}
    (h : ∀ (w : Sql.Surroundings) (n : Nat), (Expr.param n).eval w b = v →
      (condition n).eval w b = .bool p) : Means b [⟨[v], condition⟩] p := by
  refine one fun w m hw => ?_
  rw [h w (m + 1) (eval_param (i := 0) hw rfl), Value.isTrue_bool]

theorem optional (part : Option α) {values : α → List Value} {condition : Nat → Expr}
    {p : α → Bool} (h : ∀ a, part = some a → Means b [⟨values a, condition⟩] (p a)) :
    Means b (optional part values condition) (part.all p) := by
  cases part with
  | none => exact fun w m _ => rfl
  | some a => exact h a rfl

end Means

/-! ## Each condition -/

theorem eval_emptyOr {x y : Expr} {l : List String} (hx : x.eval w b = .texts l)
    (hy : y.eval w b = .bool q) : (emptyOr x y).eval w b = .bool (l.isEmpty || q) := by
  have hlength : (Expr.cardinality x).eval w b = .int l.length := by
    rw [Expr.eval, hx]
    rfl
  have hempty : decide ((l.length : Int) = 0) = l.isEmpty := by
    cases l with
    | nil => rfl
    | cons s rest => exact decide_eq_false (by simp only [List.length_cons]; omega)
  have hzero : (Expr.compare .eq (.cardinality x) (.int 0)).eval w b = .bool l.isEmpty := by
    rw [Expr.eval_eq_int (n := 0) hlength rfl, hempty]
  exact Expr.eval_or hzero hy

/-- The rows a look-up sees together: an aggregate and, if there is one,
the record of its owner. -/
def pair (a : Aggregate) (owner : Option FairShare.Record) : Bindings :=
  [("a", a.toRow), ("p", (owner.map (·.toRow)).getD [])]

variable {a : Aggregate} {owner : Option FairShare.Record}

theorem means_hasWork : Means (pair a owner) [⟨[], fun _ => hasWork⟩] (decide (0 < a.counter)) := by
  refine .one fun w m _ => ?_
  rw [hasWork, Expr.eval_gt_int (m := a.counter) (n := 0) rfl rfl, Value.isTrue_bool]

theorem means_ttl (n : Int) :
    Means (pair a owner) [⟨[.int n], atMost "ttl"⟩] (decide (a.ttl ≤ n)) :=
  .about fun _ _ hn => Expr.eval_le_int rfl hn

theorem means_disk (n : Int) :
    Means (pair a owner) [⟨[.int n], atMost "disk"⟩] (decide (a.disk ≤ n)) :=
  .about fun _ _ hn => Expr.eval_le_int rfl hn

theorem eval_weightAboveZero {r : FairShare.Record} :
    (Expr.compare .gt (share "computed_priority") (.int 0)).eval w (pair a (some r)) =
      .bool (!r.isExcluded) := by
  have hzero : (Expr.compare .gt (share "computed_priority") (.int 0)).eval w (pair a (some r)) =
      .bool (Comparison.gt.holds (FloatOrder.cmp r.weight (Float.ofInt 0))) :=
    Expr.eval_compare rfl
  have hsign : Comparison.gt.holds (FloatOrder.cmp r.weight (Float.ofInt 0)) = !r.isExcluded := by
    rw [Bool.eq_iff_iff, Comparison.holds, beq_iff_eq, FloatOrder.cmp_zero,
      FairShare.Record.isExcluded, Bool.not_eq_true', decide_eq_false_iff_not]
  rw [hzero, hsign]

theorem eval_ownerAdmitted {r : FairShare.Record} :
    ownerAdmitted.eval w (pair a (some r)) = .bool (!r.isExcluded) := by
  have hnull : (Expr.isNull (share "user_name")).eval w (pair a (some r)) = .bool false := rfl
  exact Expr.eval_or hnull eval_weightAboveZero

theorem means_ownerAdmitted :
    Means (pair a owner) [⟨[], fun _ => ownerAdmitted⟩] (effectiveWeight a owner).isSome := by
  refine .one fun w m _ => ?_
  cases owner with
  | none => rfl
  | some r =>
    rw [eval_ownerAdmitted, Value.isTrue_bool, effectiveWeight]
    cases r.isExcluded <;> rfl

theorem means_acceptsCe (ce : String) :
    Means (pair a owner) [⟨[.text ce], acceptsCe⟩] (a.acceptsCe ce) := by
  refine .about fun w n hn => ?_
  have hlisted := eval_emptyOr (x := agg "ces") (l := a.ces) rfl
    (Expr.eval_anyOf_text hn (y := agg "ces") (l := a.ces) rfl)
  have hexcluded := Expr.eval_anyOf_text hn (y := agg "excluded_ces") (l := a.excludedCes) rfl
  exact Expr.eval_and hlisted (Expr.eval_not hexcluded)

theorem means_acceptsSites (site : String) (extraSites : List String) :
    Means (pair a owner) [⟨[.texts (site :: extraSites)], acceptsSites⟩]
      (a.acceptsSite site extraSites) := by
  refine .about fun w n hn => ?_
  have hcontains : (site :: extraSites).contains = fun s => s == site || extraSites.contains s :=
    funext fun _ => List.contains_cons
  have hoverlap := Expr.eval_overlaps (x := agg "sites") (l := a.sites) rfl hn
  rw [acceptsSites, eval_emptyOr (l := a.sites) rfl hoverlap, hcontains, Aggregate.acceptsSite]

theorem any_contains_comm (l l' : List String) : l.any l'.contains = l'.any l.contains := by
  rw [Bool.eq_iff_iff, List.any_eq_true, List.any_eq_true]
  simp only [List.contains_iff_mem]
  exact exists_congr fun _ => and_comm

theorem means_acceptsPartitions (l : List String) :
    Means (pair a owner) [⟨[.texts l], acceptsPartitions⟩] (a.acceptsPartitions l) := by
  refine .about fun w n hn => ?_
  have hlisted := eval_emptyOr (x := agg "partitions") (l := a.partitions) rfl
    (Expr.eval_overlaps (x := agg "partitions") (l := a.partitions) rfl hn)
  have hexcluded :=
    Expr.eval_overlaps (x := agg "excluded_partitions") (l := a.excludedPartitions) rfl hn
  rw [Aggregate.acceptsPartitions, any_contains_comm l, any_contains_comm l]
  exact Expr.eval_and hlisted (Expr.eval_not hexcluded)

theorem means_ownerAmong (l : List String) :
    Means (pair a owner) [⟨[.texts l], ownerAmong⟩] (l.contains a.user) :=
  .about fun _ _ hn => Expr.eval_anyOf_text (x := agg "user_name") rfl hn

theorem means_ownerNotAmong (l : List String) :
    Means (pair a owner) [⟨[.texts l], ownerNotAmong⟩] (!l.contains a.user) :=
  .about fun _ _ hn => Expr.eval_not (Expr.eval_anyOf_text (x := agg "user_name") rfl hn)

theorem means_packagesAmong (packages : NameSet) :
    Means (pair a owner) [⟨[.texts packages.names], packagesAmong⟩]
      (a.packages.all packages.has) := by
  refine .about fun w n hn => ?_
  rw [packagesAmong, Expr.eval_within (x := agg "packages") (l := a.packages) rfl hn,
    NameSet.contains_names]

/-- Whole seconds are told from an instant if it is not before the time
since which they are counted. -/
theorem idleLongEnough_iff {now : Instant} (timeout : Int) (h : ¬ now.before a.idleSince) :
    a.idleLongEnough now timeout =
      decide (a.idleSince.nanos ≤ now.nanos - a.remoteTimeout.getD timeout * 1000000000) := by
  have hle : a.idleSince.nanos ≤ now.nanos := Int.not_lt.mp h
  have hdiv : (now.nanos - a.idleSince.nanos).tdiv 1000000000 =
      (now.nanos - a.idleSince.nanos) / 1000000000 := Int.tdiv_eq_ediv_of_nonneg (by omega)
  rw [Aggregate.idleLongEnough, Instant.since, hdiv, Bool.eq_iff_iff, decide_eq_true_iff,
    decide_eq_true_iff]
  omega

theorem means_openToRemote {r : Remote} (h : ¬ r.now.before a.idleSince) :
    Means (pair a owner) [⟨[.time r.now, .int r.defaultTimeout], openToRemote⟩]
      (a.remoteAllowed && a.idleLongEnough r.now r.defaultTimeout) := by
  refine .one fun w m hw => ?_
  have hnow : (Expr.param (m + 1)).eval w (pair a owner) = .time r.now :=
    eval_param (i := 0) hw rfl
  have hdefault : (Expr.param (m + 1 + 1)).eval w (pair a owner) = .int r.defaultTimeout :=
    eval_param (i := 1) hw rfl
  have htimeout : (Expr.coalesce (agg "remote_timeout_secs") (.param (m + 1 + 1))).eval w
      (pair a owner) = .int (a.remoteTimeout.getD r.defaultTimeout) := by
    rw [Expr.eval, hdefault]
    show Value.coalesce (.ofOption .int a.remoteTimeout) _ = _
    cases a.remoteTimeout <;> rfl
  have hlatest : (Expr.sub (.param (m + 1)) (.seconds (.coalesce (agg "remote_timeout_secs")
      (.param (m + 1 + 1))))).eval w (pair a owner) =
        .time ⟨r.now.nanos - a.remoteTimeout.getD r.defaultTimeout * 1000000000, false⟩ := by
    rw [Expr.eval, hnow, Expr.eval, htimeout]
    rfl
  have hidle := Expr.eval_le_time (x := agg "idle_since") (t := a.idleSince) rfl hlatest
  have hallowed : (agg "remote_allowed").eval w (pair a owner) = .bool a.remoteAllowed := rfl
  have hopen := Expr.eval_and hallowed hidle
  rw [idleLongEnough_iff r.defaultTimeout h]
  exact (congrArg Value.isTrue hopen).trans (Value.isTrue_bool _)

/-! ## All conditions -/

variable {f : Filter}

theorem acceptsUser_eq (f : Filter) (user : String) : f.acceptsUser user =
    ((listed? f.allowedUsers).all (·.contains user) &&
      (listed? f.deniedUsers).all fun l => !l.contains user) := by
  rw [Filter.acceptsUser]
  cases f.allowedUsers <;> cases f.deniedUsers <;> rfl

theorem accepts_packages_eq (c : PackageCheck) (required : List String) :
    c.accepts required = (installed? c).all fun packages => required.all packages.has := by
  cases c <;> rfl

theorem means_clauses (hidle : ∀ r, f.remote = some r → ¬ r.now.before a.idleSince) :
    Means (pair a owner) (clauses f) (f.accepts a && (effectiveWeight a owner).isSome) := by
  have hfixed : Means (pair a owner) (fixedClauses f) (decide (0 < a.counter) &&
      decide (a.ttl ≤ f.ttl) && decide (a.disk ≤ f.disk) && (effectiveWeight a owner).isSome) :=
    ((means_hasWork.append (means_ttl f.ttl)).append (means_disk f.disk)).append
      means_ownerAdmitted
  have hall := hfixed
    |>.append (.optional f.ce fun ce _ => means_acceptsCe ce)
    |>.append (.optional f.site fun site _ => means_acceptsSites site f.extraSites)
    |>.append (.optional f.partitions fun l _ => means_acceptsPartitions l)
    |>.append (.optional (listed? f.allowedUsers) fun l _ => means_ownerAmong l)
    |>.append (.optional (listed? f.deniedUsers) fun l _ => means_ownerNotAmong l)
    |>.append (.optional (installed? f.packages) fun packages _ => means_packagesAmong packages)
    |>.append (.optional f.remote fun r hr => means_openToRemote (hidle r hr))
  -- the owner is asked about among the first, and is no part of the filter
  refine (congrArg (Means _ (clauses f)) ?_).mp hall
  rw [Filter.accepts, acceptsUser_eq, accepts_packages_eq]
  ac_rfl

/-- With the parameters of a filter, its conditions hold of an aggregate
and the record of its owner if it accepts the one and the other does not
exclude it. -/
theorem isTrue_conditions (hparams : w.params = params f)
    (hidle : ∀ r, f.remote = some r → ¬ r.now.before a.idleSince) :
    ((Expr.conj (conditions f)).eval w (pair a owner)).isTrue =
      (f.accepts a && (effectiveWeight a owner).isSome) := by
  have hvalues : w.params.drop 0 = (clauses f).flatMap (·.values) := by
    rw [List.drop_zero, hparams, params_eq]
  have hprefix : (clauses f).flatMap (·.values) <+: w.params.drop 0 :=
    hvalues ▸ List.prefix_rfl
  rw [Expr.isTrue_conj, conditions_eq]
  exact means_clauses hidle w 0 hprefix

end GridQueue.Lookup
