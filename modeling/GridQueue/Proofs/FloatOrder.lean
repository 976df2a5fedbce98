/-
# `GridQueue.Proofs.FloatOrder` — the order of floats is that of numbers

The order of floats is read off their bits, and numbers are compared as
they are unpacked from them.  An unpacked number has a `place` in the
order, which is the one its bits say (`canonical_unpack`):

| bits without the sign | number                | place, up to the sign |
| :-------------------- | :-------------------- | :-------------------- |
| zero                  | a zero                | zero                  |
| up to infinity's      | mantissa and exponent | the bits as a number  |
| more                  | not-a-number          | above all others      |

Numbers compare as their places (`compare_eq_place`), so one float is
below another if it is so as a number, or only the other is not-a-number
(`cmp_eq_lt`); two are alike if they are equal as numbers, as the two
zeros are, or neither is a number (`cmp_eq_eq`).
-/
import GridQueue.FloatOrder
import Mathlib

namespace GridQueue
namespace FloatOrder
open Float.Model (UnpackedFloat Format)
open Float.Model.UnpackedFloat

variable {b : BitVec Format.binary64.numBits} {u v : UnpackedFloat} {x y : Float}

/-! ## What is unpacked -/

theorem toNat_unpackMantissa : (unpackMantissa b).toNat = b.toNat % 2 ^ 52 := rfl

theorem toNat_unpackExponent : (unpackExponent b).toNat = b.toNat / 2 ^ 52 % 2 ^ 11 := by
  have h : (unpackExponent b).toNat = (b.toNat >>> 52) % 2 ^ 11 := rfl
  rw [h, Nat.shiftRight_eq_div_pow]

theorem toNat_unpackSign : (unpackSign b).toNat = b.toNat / 2 ^ 63 % 2 := by
  have h : (unpackSign b).toNat = (b.toNat >>> 63) % 2 := rfl
  rw [h, Nat.shiftRight_eq_div_pow]

/-- The mantissa of most numbers begins with a bit that is not written. -/
theorem toNat_implicit_append : (1#1 ++ unpackMantissa b).toNat = 2 ^ 52 + b.toNat % 2 ^ 52 := by
  have hlt : b.toNat % 2 ^ 52 < 2 ^ 52 := Nat.mod_lt _ (Nat.two_pow_pos 52)
  rw [BitVec.toNat_append, toNat_unpackMantissa]
  exact (Nat.shiftLeft_add_eq_or_of_lt hlt 1).symm

theorem sign_eq : Sign.ofBitVec (unpackSign b) =
    if b.toNat < 2 ^ 63 then .positive else .negative := by
  have hlt : b.toNat < 2 ^ 64 := b.isLt
  have hzero : unpackSign b = 0#1 ↔ b.toNat < 2 ^ 63 := by
    rw [← BitVec.toNat_inj, toNat_unpackSign]
    show b.toNat / 2 ^ 63 % 2 = 0 ↔ _
    omega
  simp only [Sign.ofBitVec, hzero]

theorem unpackExponent_eq_ones : unpackExponent b = -1#11 ↔ b.toNat / 2 ^ 52 % 2 ^ 11 = 2047 := by
  rw [← BitVec.toNat_inj, toNat_unpackExponent]
  rfl

theorem unpackExponent_eq_zero : unpackExponent b = 0#11 ↔ b.toNat / 2 ^ 52 % 2 ^ 11 = 0 := by
  rw [← BitVec.toNat_inj, toNat_unpackExponent]
  rfl

theorem unpackMantissa_eq_zero : unpackMantissa b = 0#52 ↔ b.toNat % 2 ^ 52 = 0 := by
  rw [← BitVec.toNat_inj, toNat_unpackMantissa]
  rfl

def signed (s : Sign) (n : Int) : Int :=
  match s with
  | .positive => n
  | .negative => -n

theorem signed_ite (p : Prop) [Decidable p] (n : Int) :
    signed (if p then .positive else .negative) n = if p then n else -n := by
  split <;> rfl

/-- Where an unpacked number stands in the order. -/
def place : UnpackedFloat → Int
  | .notANumber => 0x8000000000000000
  | .infinity s => signed s 0x7ff0000000000000
  | .zero _ => 0
  | .finite s m e _ => signed s ((e + 1074) * 0x10000000000000 + m)

/-- What binary64 unpacks to.  A mantissa has its full length unless the
exponent is the least one, so a number is unpacked in one way only. -/
inductive Canonical : UnpackedFloat → Prop
  | notANumber : Canonical .notANumber
  | infinity {s : Sign} : Canonical (.infinity s)
  | zero {s : Sign} : Canonical (.zero s)
  | finite {s : Sign} {m : Nat} {e : Int} {h : 0 < m} : m < 2 ^ 53 → -1074 ≤ e → e ≤ 971 →
      2 ^ 52 ≤ m ∨ e = -1074 → Canonical (.finite s m e h)

theorem canonical_unpack (x : Float) :
    Canonical x.toModel.unpack ∧ place x.toModel.unpack = rankKey x := by
  show Canonical (unpack Format.binary64 x.toBits.toBitVec) ∧
    place (unpack Format.binary64 x.toBits.toBitVec) =
      if x.toBits.toBitVec.toNat % 0x8000000000000000 > 0x7ff0000000000000 then 0x8000000000000000
      else if x.toBits.toBitVec.toNat ≥ 0x8000000000000000 then
        -((x.toBits.toBitVec.toNat % 0x8000000000000000 : Nat) : Int)
      else (x.toBits.toBitVec.toNat % 0x8000000000000000 : Nat)
  generalize x.toBits.toBitVec = b
  change BitVec Format.binary64.numBits at b
  have hlt : b.toNat < 2 ^ 64 := b.isLt
  have hexponent : ((unpackExponent b).toNat : Int) -
      (Format.binary64.exponentBias + Format.binary64.mantissaBitsWithoutImplicit) =
      (b.toNat / 2 ^ 52 % 2 ^ 11 : Nat) - 1075 := by
    rw [toNat_unpackExponent]
    rfl
  unfold UnpackedFloat.unpack
  simp only [sign_eq]
  split
  · next he =>
    rw [unpackExponent_eq_ones] at he
    split
    · next hm =>
      rw [unpackMantissa_eq_zero] at hm
      refine ⟨.infinity, ?_⟩
      rw [place, signed_ite]
      omega
    · next hm =>
      rw [unpackMantissa_eq_zero] at hm
      refine ⟨.notANumber, ?_⟩
      rw [place]
      omega
  · next he =>
    rw [unpackExponent_eq_ones] at he
    split
    · next hz =>
      rw [unpackExponent_eq_zero] at hz
      split
      · next hm =>
        rw [unpackMantissa_eq_zero] at hm
        refine ⟨.zero, ?_⟩
        rw [place]
        omega
      · next hm =>
        rw [unpackMantissa_eq_zero] at hm
        rw [hexponent, hz]
        refine ⟨.finite ?_ (by decide) (by decide) (.inr rfl), ?_⟩
        · rw [toNat_unpackMantissa]
          omega
        · rw [place, signed_ite, toNat_unpackMantissa]
          omega
    · next hz =>
      rw [unpackExponent_eq_zero] at hz
      rw [hexponent]
      refine ⟨.finite ?_ (by omega) (by omega) (.inl ?_), ?_⟩
      · rw [toNat_implicit_append]
        omega
      · rw [toNat_implicit_append]
        omega
      · rw [place, signed_ite, toNat_implicit_append]
        omega

/-! ## Numbers compare as their places -/

theorem place_eq_notANumber (hu : Canonical u) :
    place u = 0x8000000000000000 ↔ u = .notANumber := by
  cases hu with
  | notANumber => exact iff_of_true rfl rfl
  | @infinity s => cases s <;> exact iff_of_false (by decide) nofun
  | zero => exact iff_of_false (by rw [place]; decide) nofun
  | @finite s m e h hm hlow hhigh =>
    refine iff_of_false ?_ nofun
    cases s <;> simp only [place, signed] <;> omega

theorem place_le (hu : Canonical u) : place u ≤ 0x8000000000000000 := by
  cases hu with
  | notANumber => exact Int.le_refl _
  | @infinity s => cases s <;> decide
  | zero => rw [place]; decide
  | @finite s m e h hm hlow hhigh => cases s <;> simp only [place, signed] <;> omega

theorem some_lt {m n : Int} (h : m < n) : some .lt = some (compare m n) :=
  congrArg some (Int.compare_eq_lt.mpr h).symm

theorem some_gt {m n : Int} (h : n < m) : some .gt = some (compare m n) :=
  congrArg some (Int.compare_eq_gt.mpr h).symm

theorem swap_compare (m n : Int) : (compare m n).swap = compare (-m) (-n) := by
  rcases Int.lt_trichotomy m n with hlt | rfl | hgt
  · rw [Int.compare_eq_lt.mpr hlt, Int.compare_eq_gt.mpr (Int.neg_lt_neg hlt)]
    rfl
  · rw [Std.ReflOrd.compare_self, Std.ReflOrd.compare_self]
    rfl
  · rw [Int.compare_eq_gt.mpr hgt, Int.compare_eq_lt.mpr (Int.neg_lt_neg hgt)]
    rfl

/-- The exponent decides, as every mantissa is shorter than a step of the
exponent is wide; then the mantissa. -/
theorem compare_magnitude {m₁ m₂ : Nat} {e₁ e₂ : Int} {s₁ s₂ : Sign} {h₁ : 0 < m₁} {h₂ : 0 < m₂}
    (hu : Canonical (.finite s₁ m₁ e₁ h₁)) (hv : Canonical (.finite s₂ m₂ e₂ h₂)) :
    (compare e₁ e₂).then (compare m₁ m₂) =
      compare ((e₁ + 1074) * 0x10000000000000 + (m₁ : Int))
        ((e₂ + 1074) * 0x10000000000000 + (m₂ : Int)) := by
  obtain - | - | - | ⟨hm₁, he₁, -, hn₁⟩ := hu
  obtain - | - | - | ⟨hm₂, he₂, -, hn₂⟩ := hv
  rcases Int.lt_trichotomy e₁ e₂ with hlt | rfl | hgt
  · rw [Int.compare_eq_lt.mpr hlt, eq_comm]
    exact Int.compare_eq_lt.mpr (by omega)
  · rw [Std.ReflOrd.compare_self]
    rcases Nat.lt_trichotomy m₁ m₂ with hlt | rfl | hgt
    · rw [Nat.compare_eq_lt.mpr hlt, eq_comm]
      exact Int.compare_eq_lt.mpr (by omega)
    · rw [Std.ReflOrd.compare_self, Std.ReflOrd.compare_self]
      rfl
    · rw [Nat.compare_eq_gt.mpr hgt, eq_comm]
      exact Int.compare_eq_gt.mpr (by omega)
  · rw [Int.compare_eq_gt.mpr hgt, eq_comm]
    exact Int.compare_eq_gt.mpr (by omega)

theorem compare_eq_place (hu : Canonical u) (hv : Canonical v) (hu' : u ≠ .notANumber)
    (hv' : v ≠ .notANumber) : u.compare v = some (compare (place u) (place v)) := by
  cases hu with
  | notANumber => exact absurd rfl hu'
  | @infinity s =>
    cases hv with
    | notANumber => exact absurd rfl hv'
    | @infinity t => cases s <;> cases t <;> rfl
    | zero => cases s <;> rfl
    | @finite t m e h hm hlow hhigh =>
      cases s with
      | positive => exact some_gt (by cases t <;> simp only [place, signed] <;> omega)
      | negative => exact some_lt (by cases t <;> simp only [place, signed] <;> omega)
  | zero =>
    cases hv with
    | notANumber => exact absurd rfl hv'
    | @infinity t => cases t <;> rfl
    | zero => rfl
    | @finite t m e h hm hlow hhigh =>
      cases t with
      | positive => exact some_lt (by simp only [place, signed]; omega)
      | negative => exact some_gt (by simp only [place, signed]; omega)
  | @finite s m₁ e₁ h₁ hm₁ hlow₁ hhigh₁ hlong₁ =>
    cases hv with
    | notANumber => exact absurd rfl hv'
    | @infinity t =>
      cases t with
      | positive => exact some_lt (by cases s <;> simp only [place, signed] <;> omega)
      | negative => exact some_gt (by cases s <;> simp only [place, signed] <;> omega)
    | zero =>
      cases s with
      | positive => exact some_gt (by simp only [place, signed]; omega)
      | negative => exact some_lt (by simp only [place, signed]; omega)
    | @finite t m₂ e₂ h₂ hm₂ hlow₂ hhigh₂ hlong₂ =>
      have hu : Canonical (.finite s m₁ e₁ h₁) := .finite hm₁ hlow₁ hhigh₁ hlong₁
      have hv : Canonical (.finite t m₂ e₂ h₂) := .finite hm₂ hlow₂ hhigh₂ hlong₂
      have hmagnitude := compare_magnitude hu hv
      cases s <;> cases t
      case positive.positive => exact congrArg some hmagnitude
      case positive.negative => exact some_gt (by simp only [place, signed]; omega)
      case negative.positive => exact some_lt (by simp only [place, signed]; omega)
      case negative.negative =>
        exact congrArg some ((congrArg Ordering.swap hmagnitude).trans (swap_compare _ _))

/-! ## Floats -/

theorem isNaN_iff : x.isNaN = true ↔ rankKey x = 0x8000000000000000 := by
  obtain ⟨hcanonical, hplace⟩ := canonical_unpack x
  rw [← hplace, place_eq_notANumber hcanonical]
  show x.toModel.unpack.isNaN = true ↔ _
  cases x.toModel.unpack with
  | notANumber => exact iff_of_true rfl rfl
  | infinity | zero | finite => exact iff_of_false Bool.false_ne_true nofun

theorem rankKey_le (x : Float) : rankKey x ≤ 0x8000000000000000 := by
  obtain ⟨hcanonical, hplace⟩ := canonical_unpack x
  rw [← hplace]
  exact place_le hcanonical

theorem unpack_eq_notANumber : x.toModel.unpack = .notANumber ↔ x.isNaN = true := by
  obtain ⟨hcanonical, hplace⟩ := canonical_unpack x
  rw [isNaN_iff, ← hplace, place_eq_notANumber hcanonical]

theorem compare_unpack (hx : ¬ x.isNaN = true) (hy : ¬ y.isNaN = true) :
    x.toModel.unpack.compare y.toModel.unpack = some (cmp x y) := by
  obtain ⟨hcx, hpx⟩ := canonical_unpack x
  obtain ⟨hcy, hpy⟩ := canonical_unpack y
  rw [compare_eq_place hcx hcy (mt unpack_eq_notANumber.mp hx) (mt unpack_eq_notANumber.mp hy),
    hpx, hpy, cmp]

theorem compare_unpack_eq_none (h : x.isNaN = true ∨ y.isNaN = true) :
    x.toModel.unpack.compare y.toModel.unpack = none := by
  rw [← unpack_eq_notANumber, ← unpack_eq_notANumber] at h
  rcases h with h | h
  · rw [h]
    rfl
  · rw [h]
    cases x.toModel.unpack <;> rfl

theorem lt_iff_compare : x < y ↔ x.toModel.unpack.compare y.toModel.unpack = some .lt :=
  decide_eq_true_iff.trans beq_iff_eq

theorem beq_iff_compare :
    (x == y) = true ↔ x.toModel.unpack.compare y.toModel.unpack = some .eq := by
  show (x.toModel.unpack.compare y.toModel.unpack == some .eq) = true ↔ _
  exact beq_iff_eq

theorem le_iff_compare :
    x ≤ y ↔ (x.toModel.unpack.compare y.toModel.unpack).any (·.isLE) = true :=
  decide_eq_true_iff

/-- Below another in the order: as a number, or because only the other is
not-a-number. -/
def Below (x y : Float) : Prop := x < y ∨ x.isNaN = false ∧ y.isNaN = true

/-- At one place in the order: equal as numbers, or both not-a-number. -/
def Alike (x y : Float) : Prop := (x == y) = true ∨ x.isNaN = true ∧ y.isNaN = true

theorem cmp_eq_lt : cmp x y = .lt ↔ Below x y := by
  rw [Below, lt_iff_compare]
  by_cases hx : x.isNaN = true
  · rw [compare_unpack_eq_none (.inl hx), cmp, Int.compare_eq_lt, isNaN_iff.mp hx, hx]
    exact iff_of_false (Int.not_lt.mpr (rankKey_le y)) (by rintro (h | ⟨h, -⟩) <;> cases h)
  · by_cases hy : y.isNaN = true
    · have hlt : rankKey x < rankKey y := by
        rw [isNaN_iff.mp hy]
        exact Int.lt_iff_le_and_ne.mpr ⟨rankKey_le x, mt isNaN_iff.mpr hx⟩
      exact iff_of_true (Int.compare_eq_lt.mpr hlt) (.inr ⟨Bool.eq_false_iff.mpr hx, hy⟩)
    · rw [compare_unpack hx hy, Option.some_inj]
      exact (or_iff_left fun h => hy h.2).symm

theorem cmp_eq_eq : cmp x y = .eq ↔ Alike x y := by
  rw [Alike, beq_iff_compare]
  by_cases h : x.isNaN = true ∨ y.isNaN = true
  · rw [compare_unpack_eq_none h, cmp, Std.compare_eq_iff_eq, isNaN_iff, isNaN_iff]
    rw [isNaN_iff, isNaN_iff] at h
    refine ⟨fun heq => .inr ?_, ?_⟩
    · rcases h with h | h
      · exact ⟨h, heq ▸ h⟩
      · exact ⟨heq ▸ h, h⟩
    · rintro (h' | ⟨hx, hy⟩)
      · cases h'
      · rw [hx, hy]
  · obtain ⟨hx, hy⟩ := not_or.mp h
    rw [compare_unpack hx hy, Option.some_inj]
    exact (or_iff_left fun h => hx h.1).symm

/-- A float is at zero or below in the order if it is so as a number. -/
theorem rankKey_le_zero {x : Float} : rankKey x ≤ 0 ↔ x ≤ 0.0 := by
  have hzero : rankKey 0.0 = 0 := by decide
  have hnumber : ¬ (0.0 : Float).isNaN = true := by
    rw [isNaN_iff, hzero]
    decide
  rw [le_iff_compare]
  by_cases hx : x.isNaN = true
  · rw [compare_unpack_eq_none (.inl hx), isNaN_iff.mp hx]
    exact iff_of_false (by decide) Bool.false_ne_true
  · rw [compare_unpack hx hnumber, cmp, hzero]
    exact Int.isLE_compare.symm

theorem cmp_zero {x : Float} : cmp x (Float.ofInt 0) = .gt ↔ ¬ x ≤ 0.0 := by
  have hzero : rankKey (Float.ofInt 0) = 0 := by decide
  rw [cmp, hzero, Int.compare_eq_gt, ← rankKey_le_zero, Int.not_le]

end FloatOrder
end GridQueue
