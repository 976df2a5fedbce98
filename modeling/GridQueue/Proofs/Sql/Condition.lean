/-
# `GridQueue.Proofs.Sql.Condition` — when a condition holds

A condition is a value that may be unknown, and only one that is known to
be true accepts a row.  Conjunction and disjunction can be read as those
of truth values for that, even if a side is unknown; negation cannot, so
it is read only of conditions that are known.

    a.conj b     both hold
    a.disj b     one of them holds
    bool b       b holds, and its negation if b does not

The other lemmas evaluate one operator each, on operands whose values are
known: comparisons of integers, texts and instants, membership, overlap
and inclusion of arrays.  By them a condition of a statement is evaluated
from its leaves up, and only its leaves depend on the statement.
-/
import GridQueue.Sql.Expression

namespace GridQueue.Sql

namespace Value

@[simp] theorem isTrue_bool (b : Bool) : (bool b).isTrue = b := by
  cases b <;> rfl

@[simp] theorem neg_bool (b : Bool) : (bool b).neg = bool !b := rfl

@[simp] theorem conj_bool (a b : Bool) : (bool a).conj (bool b) = bool (a && b) := by
  cases a <;> cases b <;> rfl

@[simp] theorem disj_bool (a b : Bool) : (bool a).disj (bool b) = bool (a || b) := by
  cases a <;> cases b <;> rfl

theorem order?_int (j k : Int) : (int j).order? (int k) = some (compare j k) := rfl

theorem order?_text (s t : String) : (text s).order? (text t) = some (compare s t) := rfl

theorem greatest_int (j k : Int) : greatest (int j) (int k) = int (max j k) := by
  show (if compare j k = .lt then int k else int j) = _
  simp only [Std.compare_eq_lt]
  by_cases hlt : j < k
  · rw [if_pos hlt, Int.max_eq_right (Int.le_of_lt hlt)]
  · rw [if_neg hlt, Int.max_eq_left (Int.not_lt.mp hlt)]

theorem rank_of_order? {a b : Value} {o : Ordering} (h : a.order? b = some o) : a.rank b = o := by
  cases a <;> cases b <;> simp_all [order?, rank]

theorem isTrue_ofTruth (o : Option Bool) : (ofTruth o).isTrue = (o == some true) := by
  cases o <;> rfl

@[simp] theorem isTrue_conj (a b : Value) : (a.conj b).isTrue = (a.isTrue && b.isTrue) := by
  rw [conj, isTrue_ofTruth, isTrue, isTrue]
  rcases a.truth? with _ | _ | _ <;> rcases b.truth? with _ | _ | _ <;> rfl

end Value

/-! ## Comparisons -/

section Holds

variable {α : Type} [Ord α] [Std.LawfulEqOrd α] [DecidableEq α]

theorem Comparison.holds_eq (a b : α) : Comparison.eq.holds (compare a b) = decide (a = b) := by
  rw [Bool.eq_iff_iff, decide_eq_true_iff]
  exact beq_iff_eq.trans Std.LawfulEqOrd.compare_eq_iff_eq

theorem Comparison.holds_ne (a b : α) : Comparison.ne.holds (compare a b) = !decide (a = b) := by
  rw [← holds_eq]
  rfl

end Holds

theorem Comparison.holds_lt (m n : Int) : Comparison.lt.holds (compare m n) = decide (m < n) := by
  rw [Bool.eq_iff_iff, decide_eq_true_iff]
  exact beq_iff_eq.trans Std.compare_eq_lt

theorem Comparison.holds_le (m n : Int) : Comparison.le.holds (compare m n) = decide (m ≤ n) := by
  rw [Bool.eq_iff_iff, decide_eq_true_iff]
  exact bne_iff_ne.trans Int.compare_ne_gt

theorem Comparison.holds_gt (m n : Int) : Comparison.gt.holds (compare m n) = decide (n < m) := by
  rw [Bool.eq_iff_iff, decide_eq_true_iff]
  exact beq_iff_eq.trans Int.compare_eq_gt

namespace Expr

variable {w : Surroundings} {b : Bindings} {x y : Expr} {c : Comparison}

theorem eval_compare {o : Ordering} (h : (x.eval w b).order? (y.eval w b) = some o) :
    (compare c x y).eval w b = .bool (c.holds o) := by
  show Value.ofTruth (((x.eval w b).order? (y.eval w b)).map c.holds) = _
  rw [h]
  rfl

theorem eval_eq_int {m n : Int} (hx : x.eval w b = .int m) (hy : y.eval w b = .int n) :
    (compare .eq x y).eval w b = .bool (decide (m = n)) := by
  rw [eval_compare (by rw [hx, hy]; rfl), Comparison.holds_eq]

theorem eval_eq_text {s t : String} (hx : x.eval w b = .text s) (hy : y.eval w b = .text t) :
    (compare .eq x y).eval w b = .bool (decide (s = t)) := by
  rw [eval_compare (by rw [hx, hy]; rfl), Comparison.holds_eq]

theorem eval_ne_text {s t : String} (hx : x.eval w b = .text s) (hy : y.eval w b = .text t) :
    (compare .ne x y).eval w b = .bool (!decide (s = t)) := by
  rw [eval_compare (by rw [hx, hy]; rfl), Comparison.holds_ne]

theorem eval_gt_int {m n : Int} (hx : x.eval w b = .int m) (hy : y.eval w b = .int n) :
    (compare .gt x y).eval w b = .bool (decide (n < m)) := by
  rw [eval_compare (by rw [hx, hy]; rfl), Comparison.holds_gt]

theorem eval_le_int {m n : Int} (hx : x.eval w b = .int m) (hy : y.eval w b = .int n) :
    (compare .le x y).eval w b = .bool (decide (m ≤ n)) := by
  rw [eval_compare (by rw [hx, hy]; rfl), Comparison.holds_le]

theorem eval_le_time {t u : Instant} (hx : x.eval w b = .time t) (hy : y.eval w b = .time u) :
    (compare .le x y).eval w b = .bool (decide (t.nanos ≤ u.nanos)) := by
  rw [eval_compare (by rw [hx, hy]; rfl), Comparison.holds_le]

theorem eval_lt_time {t u : Instant} (hx : x.eval w b = .time t) (hy : y.eval w b = .time u) :
    (compare .lt x y).eval w b = .bool (decide (t.before u)) := by
  rw [eval_compare (by rw [hx, hy]; rfl), Comparison.holds_lt]
  rfl

theorem isTrue_conj : ∀ l : List Expr,
    ((conj l).eval w b).isTrue = l.all fun e => (e.eval w b).isTrue
  | [] => rfl
  | [e] => (Bool.and_true _).symm
  | e :: f :: rest => by
      have hcons : conj (e :: f :: rest) = and e (conj (f :: rest)) := rfl
      rw [hcons]
      show ((e.eval w b).conj ((conj (f :: rest)).eval w b)).isTrue = _
      rw [Value.isTrue_conj, isTrue_conj (f :: rest)]
      rfl

theorem eval_anyOf_int {n : Int} {l : List Int} (hx : x.eval w b = .int n)
    (hy : y.eval w b = .ints l) : (anyOf x y).eval w b = .bool (l.contains n) := by
  show (x.eval w b).anyOf (y.eval w b) = _
  rw [hx, hy]
  rfl

theorem eval_anyOf_text {s : String} {l : List String} (hx : x.eval w b = .text s)
    (hy : y.eval w b = .texts l) : (anyOf x y).eval w b = .bool (l.contains s) := by
  show (x.eval w b).anyOf (y.eval w b) = _
  rw [hx, hy]
  rfl

theorem eval_overlaps {l m : List String} (hx : x.eval w b = .texts l)
    (hy : y.eval w b = .texts m) : (overlaps x y).eval w b = .bool (l.any m.contains) := by
  show (x.eval w b).overlaps (y.eval w b) = _
  rw [hx, hy]
  rfl

theorem eval_within {l m : List String} (hx : x.eval w b = .texts l)
    (hy : y.eval w b = .texts m) : (within x y).eval w b = .bool (l.all m.contains) := by
  show (x.eval w b).within (y.eval w b) = _
  rw [hx, hy]
  rfl

theorem eval_and {p q : Bool} (hx : x.eval w b = .bool p) (hy : y.eval w b = .bool q) :
    (and x y).eval w b = .bool (p && q) := by
  show (x.eval w b).conj (y.eval w b) = _
  rw [hx, hy, Value.conj_bool]

theorem eval_or {p q : Bool} (hx : x.eval w b = .bool p) (hy : y.eval w b = .bool q) :
    (or x y).eval w b = .bool (p || q) := by
  show (x.eval w b).disj (y.eval w b) = _
  rw [hx, hy, Value.disj_bool]

theorem eval_not {p : Bool} (hx : x.eval w b = .bool p) : (not x).eval w b = .bool !p := by
  show (x.eval w b).neg = _
  rw [hx, Value.neg_bool]

end Expr

end GridQueue.Sql
