/-
# `GridQueue.Proofs.FairShare.Gate` — the quotas shut out exactly who is over one

A weight is computed from numbers that anyone may have entered: quotas of
zero or below, priorities that are infinite or no numbers at all.  Still
the weight says one of two things,

    -1           the user is over a quota, and is left out of the matching,
    above zero   the user is not, and is matched,

and both readers of a written record, the one in memory and the query of
the database, tell the two apart in the same way.

No quota is divided by unless it is above zero.  This is said with numbers
that know which integer they were made of (`Marked`): let a division by an
integer at zero or below give whatever it likes, and the load and the
weight are what they were.
-/
import GridQueue.Proofs.FairShare.Positive
import GridQueue.Proofs.Lookup.Meaning
import GridQueue.Store.Memory

namespace GridQueue.FairShare

/-! ## Divisions -/

/-- A number, with the integer it is if it was not computed. -/
structure Marked (α : Type) where
  value : α
  integer? : Option Int := none

namespace Marked

variable {α : Type} [Arithmetic α]

/-- Arithmetic with marks, in which dividing by an integer that is not
above zero gives anything. -/
abbrev arithmetic (wild : α → α → α) : Arithmetic (Marked α) where
  neg x := ⟨-x.value, none⟩
  sub x y := ⟨x.value - y.value, none⟩
  mul x y := ⟨x.value * y.value, none⟩
  div x y :=
    ⟨if y.integer?.all fun n => decide (0 < n) then x.value / y.value
      else wild x.value y.value, none⟩
  ofInt n := ⟨Arithmetic.ofInt n, some n⟩
  exp x := ⟨Arithmetic.exp x.value, none⟩
  isPositive x := Arithmetic.isPositive x.value

end Marked

/-- The load and the weight without their marks. -/
def Share.unmarked {α : Type} (share : Share (Marked α)) : Share α :=
  ⟨share.userload.value, share.weight.value, share.verdict⟩

namespace Usage

/-- The priority was given as a number, and not as an integer. -/
def marked {α : Type} (u : Usage α) : Usage (Marked α) := { u with priority := ⟨u.priority, none⟩ }

section Divisions

variable {α : Type} [Arithmetic α] (wild : α → α → α) (u : Usage α)

theorem value_part (used allowed : Int) :
    (@part _ (Marked.arithmetic wild) used allowed).value = part used allowed := by
  unfold part
  split
  · next hallowed => exact if_pos (decide_eq_true hallowed)
  · rfl

theorem value_load : (@load _ (Marked.arithmetic wild) u.marked).value = u.load :=
  value_part wild u.running u.maxParallel

/-- The cost is divided by, so its mark matters: it is that of the integer
one, or there is none. -/
theorem cost_marked : @cost _ (Marked.arithmetic wild) u.marked =
    ⟨u.cost, if u.running = 0 then some 1 else none⟩ := by
  unfold cost
  by_cases hidle : u.running = 0
  · rw [if_pos hidle, if_pos hidle]
    exact if_pos hidle
  · rw [if_neg hidle, if_neg hidle, ← value_part wild]
    exact if_neg hidle

theorem value_balance : (@balance _ (Marked.arithmetic wild) u.marked).value = u.balance := by
  have hmark : (if u.running = 0 then some (1 : Int) else none).all (fun n => decide (0 < n)) =
      true := by
    split <;> rfl
  have hquotient : (if (if u.running = 0 then some (1 : Int) else none).all fun n => decide (0 < n)
      then u.priority / u.cost else wild u.priority u.cost) = u.priority / u.cost := if_pos hmark
  unfold balance
  rw [cost_marked, ← hquotient, ← value_load wild]
  exact apply_ite Marked.value _ _ _

/-- No division by a quota that is not above zero takes part in a load or
a weight. -/
theorem unmarked_share : (@share _ (Marked.arithmetic wild) u.marked).unmarked = u.share := by
  unfold share
  rw [← value_load wild, ← value_balance wild]
  simp only [apply_ite Share.unmarked]
  rfl

end Divisions

/-! ## The gate -/

variable {exp : Float → Float} {u : Usage Float}

theorem weight_eq_minus_one_iff : (u.shareWith exp).weight = -1.0 ↔ u.OverQuota := by
  refine ⟨fun hweight => ?_, shareWith_of_overQuota⟩
  rw [← shareWith_le_zero_iff exp, hweight]
  exact (by decide : (-1.0 : Float) ≤ 0.0)

theorem isExcluded_of_updatePriority {s s' : Store} {user : String} {userload : Float}
    (h : s.updatePriority user userload (u.shareWith exp).weight = .ok s') :
    ∃ r, s'.records.get? user = some r ∧ (r.isExcluded = true ↔ u.OverQuota) := by
  unfold Store.updatePriority at h
  split at h
  · next r hr =>
    cases h
    obtain rfl : r.user = user := s.recordsKeyed _ _ hr
    refine ⟨{ r with userload, weight := (u.shareWith exp).weight }, ?_, ?_⟩
    · rw [Store.insertRecord, Table.get?_insert, if_pos rfl]
    · exact decide_eq_true_iff.trans (shareWith_le_zero_iff exp u)
  · cases h

/-- Whatever the numbers are and whatever the exponential function gives,
no quota is divided by unless it is above zero, the weight of a user is
minus one over a quota and a number above zero otherwise, and a record
with this weight is excluded in memory and by the query of the database
just if the user is over a quota. -/
theorem weight_is_minus_one_or_positive (u : Usage Float) :
    u.share = u.shareWith Float.exp ∧
      ∀ exp : Float → Float,
        (∀ wild, (@share _ (@Marked.arithmetic _ (floatsWith exp) wild) u.marked).unmarked =
          u.shareWith exp) ∧
        ((u.shareWith exp).weight = -1.0 ↔ u.OverQuota) ∧
        (¬ u.OverQuota →
          (u.shareWith exp).weight.isNaN = false ∧ 0.0 < (u.shareWith exp).weight) ∧
        ∀ (s s' : Store) (user : String),
          s.updatePriority user (u.shareWith exp).userload (u.shareWith exp).weight = .ok s' →
          ∃ r, s'.records.get? user = some r ∧ (r.isExcluded = true ↔ u.OverQuota) ∧
            ∀ (w : Sql.Surroundings) (a : Aggregate),
              (Sql.Expr.compare .gt (Lookup.share "computed_priority") (.int 0)).eval w
                (Lookup.pair a (some r)) = .bool (!r.isExcluded) ∧
              Lookup.ownerAdmitted.eval w (Lookup.pair a (some r)) = .bool (!r.isExcluded) := by
  refine ⟨rfl, fun exp => ⟨?_, weight_eq_minus_one_iff, fun hwithin => ?_, ?_⟩⟩
  · intro wild
    exact @unmarked_share Float (floatsWith exp) wild u
  · have hweight : 0.0 < (u.shareWith exp).weight := zero_lt_shareWith hwithin
    exact ⟨FloatSign.not_isNaN hweight, hweight⟩
  · intro s s' user hwritten
    obtain ⟨r, hr, hexcluded⟩ := isExcluded_of_updatePriority hwritten
    exact ⟨r, hr, hexcluded,
      fun w a => ⟨Lookup.eval_weightAboveZero, Lookup.eval_ownerAdmitted⟩⟩

/-- No cores and no time are allowed, and the priority is not a number: one
core is too many, and none is not. -/
theorem weight_is_minus_one_or_positive_of_empty_quotas :
    let usage (cores : Int) : Usage Float := ⟨0.0 / 0.0, cores, 0, 0, 0⟩
    let s := ({} : Store).insertRecord ⟨"alice", usage 0, 0.0, 1.0⟩
    (usage 1).share.weight = -1.0 ∧ 0.0 < (usage 0).share.weight ∧
      ∃ s' r, s.updatePriority "alice" (usage 1).share.userload (usage 1).share.weight = .ok s' ∧
        s'.records.get? "alice" = some r ∧ r.isExcluded = true := by
  intro usage s
  obtain ⟨-, hgate⟩ := weight_is_minus_one_or_positive (usage 1)
  obtain ⟨-, hover, -, hrecord⟩ := hgate Float.exp
  obtain ⟨-, -, hpositive, -⟩ := (weight_is_minus_one_or_positive (usage 0)).2 Float.exp
  have halice : s.records.get? "alice" = some ⟨"alice", usage 0, 0.0, 1.0⟩ :=
    Table.get?_insert.trans (if_pos rfl)
  have hwritten (userload weight : Float) : s.updatePriority "alice" userload weight =
      .ok (s.insertRecord ⟨"alice", usage 0, userload, weight⟩) := by
    rw [Store.updatePriority, halice]
  obtain ⟨r, hr, hexcluded, -⟩ := hrecord s _ "alice" (hwritten _ _)
  exact ⟨hover.mpr (by decide), (hpositive (by decide)).2, _, r, hwritten _ _, hr,
    hexcluded.mpr (by decide)⟩

end Usage
end GridQueue.FairShare
