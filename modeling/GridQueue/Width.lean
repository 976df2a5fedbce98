/-
# `GridQueue.Width` — integers of fixed width

Counters are integers of 32 or 64 bits with sign.  What does not fit is
brought back into them by leaving out whole turns (`wrapInt32`,
`wrapInt64`), so that a counter at its greatest value goes on at its least
one.  Wherever the result fits nothing is left out.
-/

namespace GridQueue

/-- The integer fits 32 bits with sign. -/
def FitsInt32 (n : Int) : Prop := -0x80000000 ≤ n ∧ n ≤ 0x80000000 - 1

instance (n : Int) : Decidable (FitsInt32 n) := inferInstanceAs (Decidable (_ ∧ _))

/-- The integer fits 64 bits with sign. -/
def FitsInt64 (n : Int) : Prop := -0x8000000000000000 ≤ n ∧ n ≤ 0x8000000000000000 - 1

instance (n : Int) : Decidable (FitsInt64 n) := inferInstanceAs (Decidable (_ ∧ _))

/-- What 32 bits hold of an integer. -/
def wrapInt32 (n : Int) : Int := (n + 0x80000000) % 0x100000000 - 0x80000000

/-- What 64 bits hold of an integer. -/
def wrapInt64 (n : Int) : Int := (n + 0x8000000000000000) % 0x10000000000000000 - 0x8000000000000000

theorem wrapInt32_of_fits {n : Int} (h : FitsInt32 n) : wrapInt32 n = n := by
  unfold FitsInt32 at h
  unfold wrapInt32
  omega

theorem FitsInt64.max_zero {n : Int} (h : FitsInt64 n) : FitsInt64 (max n 0) := by
  unfold FitsInt64 at h ⊢
  omega

theorem wrapInt64_of_fits {n : Int} (h : FitsInt64 n) : wrapInt64 n = n := by
  unfold FitsInt64 at h
  unfold wrapInt64
  omega

end GridQueue
