/-
# `GridQueue.Proofs.FairShare.Positive` — who has a weight above zero

A user counts as excluded if the weight is not above zero.  The weight of
a user below the quotas is fifty times a positive factor, rounded, and
rounding brings products down to zero in general.  A factor of at least
one prevents it:

    the other factor    is a multiple of the smallest positive number,
    so the product      has its leading bit at that number or above,
    and the rounding    leaves that bit in the mantissa.

So the sign of the weight tells exactly who is over a quota
(`Usage.weight_le_zero_iff`).  What is said of numbers here is about
binary64 as it is unpacked, computed with and packed again.

The exponential is the one step of the formula whose rounding nobody
documents, and it is a parameter here (`shareWith`).  The formula tests the
factor and takes one for the product if the factor is not positive, so the
sign of a weight does not depend on how the exponential is computed.
-/
import GridQueue.FairShare.Weight
import Mathlib

namespace GridQueue

namespace FloatSign

open Float.Model (UnpackedFloat Format)
open Float.Model.UnpackedFloat

/-! ## Positive numbers -/

/-- Above zero; infinity is. -/
inductive Positive : UnpackedFloat → Prop
  | infinity : Positive (.infinity .positive)
  | finite {m : Nat} {e : Int} {h : 0 < m} : Positive (.finite .positive m e h)

/-- At least one: the leading bit does not stand behind the point. -/
inductive OneOrMore : UnpackedFloat → Prop
  | finite {m : Nat} {e : Int} {h : 0 < m} : 0 ≤ e + m.log2 → OneOrMore (.finite .positive m e h)

theorem positive_iff_compare {u : UnpackedFloat} {s : Sign} :
    Positive u ↔ (UnpackedFloat.zero s).compare u = some .lt := by
  constructor
  · rintro (_ | _) <;> rfl
  · intro h
    cases u with
    | infinity sign => cases sign with
      | positive => exact .infinity
      | negative => cases h
    | finite sign => cases sign with
      | positive => exact .finite
      | negative => cases h
    | notANumber | zero => cases h

theorem Positive.compare_zero {u : UnpackedFloat} (h : Positive u) (s : Sign) :
    u.compare (.zero s) = some .gt := by
  cases h <;> rfl

theorem zero_lt_iff {x : Float} : 0.0 < x ↔ Positive x.toModel.unpack := by
  have hlt : 0.0 < x ↔
      (UnpackedFloat.compare (.zero .positive) x.toModel.unpack == some .lt) = true :=
    decide_eq_true_iff
  rw [hlt, beq_iff_eq]
  exact positive_iff_compare.symm

theorem not_le_zero {x : Float} (h : 0.0 < x) : ¬ x ≤ 0.0 := by
  intro hle
  have hany : (x.toModel.unpack.compare (.zero .positive)).any (·.isLE) = true :=
    of_decide_eq_true hle
  rw [(zero_lt_iff.mp h).compare_zero] at hany
  cases hany

/-- Not-a-number is neither above zero nor at it or below. -/
theorem not_isNaN {x : Float} (h : 0.0 < x) : x.isNaN = false := by
  rw [zero_lt_iff] at h
  show x.toModel.unpack.isNaN = false
  generalize x.toModel.unpack = u at h
  cases h <;> rfl

/-! ## Rounding -/

theorem mantissa_shiftRight (em : ExtendedMantissa) (n : Nat) :
    (em >>> n).mantissa = em.mantissa / 2 ^ n := by
  induction n with
  | zero => exact (Nat.div_one _).symm
  | succ n ih =>
      show (em >>> n).mantissa / 2 = em.mantissa / 2 ^ (n + 1)
      rw [ih, Nat.div_div_eq_div_mul, Nat.pow_succ]

theorem le_roundedMantissa (em : ExtendedMantissa) : em.mantissa ≤ em.roundedMantissa := by
  unfold ExtendedMantissa.roundedMantissa Accuracy.roundToNearestEven
  split <;> omega

/-- The shift to the exponent of binary64 leaves the leading bit, if that
bit counts at least as much as the smallest positive number. -/
theorem shiftToTargetExponent_bounds {m : Nat} {e : Int} (hm : 0 < m)
    (he : -1074 ≤ e + m.log2) :
    let shifted := shiftToTargetExponent Format.binary64 m e .exact
    0 < shifted.1.mantissa ∧ shifted.1.mantissa < 2 ^ 53 ∧ -1074 ≤ shifted.2 := by
  intro shifted
  obtain ⟨n, hn⟩ : ∃ n, n = (max (m.log2 + 1 + e - 53 : Int) (-1074) - e).toNat := ⟨_, rfl⟩
  have hmantissa : shifted.1.mantissa = m / 2 ^ n := by
    rw [hn]
    exact mantissa_shiftRight ⟨m, false, false⟩ _
  have hexponent : shifted.2 = e + n := by rw [hn]; rfl
  have hlow : n ≤ m.log2 := by omega
  have hhigh : m.log2 + 1 ≤ 53 + n := by omega
  rw [hmantissa, hexponent]
  refine ⟨Nat.div_pos ?_ (Nat.two_pow_pos n), ?_, by omega⟩
  · calc
      2 ^ n ≤ 2 ^ m.log2 := Nat.pow_le_pow_right (by omega) hlow
      _ ≤ m := Nat.log2_self_le (by omega)
  · rw [Nat.div_lt_iff_lt_mul (Nat.two_pow_pos n), ← Nat.pow_add]
    calc
      m < 2 ^ (m.log2 + 1) := Nat.lt_log2_self
      _ ≤ 2 ^ (53 + n) := Nat.pow_le_pow_right (by omega) hhigh

theorem roundWithAccuracy_positive {m : Nat} {e : Int} (hm : 0 < m) (he : -1074 ≤ e + m.log2) :
    ∃ m' e' h', roundWithAccuracy Format.binary64 .positive m e .exact =
      .finite .positive m' e' h' ∧ m' < 2 ^ 53 ∧ -1074 ≤ e' := by
  obtain ⟨hpos, -, hexp⟩ := shiftToTargetExponent_bounds hm he
  have hround := Nat.lt_of_lt_of_le hpos (le_roundedMantissa _)
  -- rounding up may have made the mantissa too long, so there is a second shift
  obtain ⟨hpos', hlt', hexp'⟩ :=
    shiftToTargetExponent_bounds hround (Int.le_trans hexp (Int.le_add_of_nonneg_right
      (Int.natCast_nonneg _)))
  exact ⟨_, _, hpos', dif_neg (Nat.pos_iff_ne_zero.mp hpos'), hlt', hexp'⟩

/-! ## Packing -/

theorem unpackSign_packComponents (sign : Sign) (exponent : BitVec 11) (mantissa : BitVec 52) :
    Sign.ofBitVec (unpackSign (packComponents Format.binary64 sign exponent mantissa)) = sign := by
  have hsign : unpackSign (packComponents Format.binary64 sign exponent mantissa) =
      sign.toBitVec := by
    show ((sign.toBitVec ++ exponent) ++ mantissa).extractLsb' 63 1 = sign.toBitVec
    rw [BitVec.extractLsb'_append_eq_of_le (by decide),
      BitVec.extractLsb'_append_eq_of_le (by decide)]
    exact BitVec.extractLsb'_eq_self
  rw [hsign]
  cases sign <;> rfl

/-- A mantissa with an exponent is unpacked as a positive number, unless
they are those of zero, or the exponent is not one of a number. -/
theorem positive_unpack_packComponents {exponent : BitVec 11} {mantissa : BitVec 52}
    (hexponent : exponent ≠ -1#11) (hzero : exponent ≠ 0#11 ∨ mantissa ≠ 0#52) :
    Positive (unpack Format.binary64
      (packComponents Format.binary64 .positive exponent mantissa)) := by
  unfold UnpackedFloat.unpack
  simp only [unpackMantissa_packComponents, unpackExponent_packComponents,
    unpackSign_packComponents]
  rw [if_neg hexponent]
  split
  · next h =>
    rw [dif_neg (hzero.resolve_left fun hne => hne h)]
    exact .finite
  · exact .finite

theorem positive_unpack_pack {m : Nat} {e : Int} {h : 0 < m} (hm : m < 2 ^ 53)
    (he : -1074 ≤ e) :
    Positive (unpack Format.binary64 (pack Format.binary64 (.finite .positive m e h))) := by
  have hbias : (e + Format.binary64.exponentBias + Format.binary64.mantissaBitsWithoutImplicit)
      = e + 1075 := by
    show e + 1023 + 52 = e + 1075
    omega
  unfold UnpackedFloat.pack
  simp only [hbias]
  split
  · exact .infinity
  · next hfits =>
    have hfits' : (e + 1075).toNat < 2047 := by omega
    split
    · refine positive_unpack_packComponents ?_ (.inl ?_)
      all_goals
        intro heq
        have hmod : (e + 1075).toNat % 2048 = _ := congrArg BitVec.toNat heq
        simp at hmod
        omega
    · next hshort =>
      -- a mantissa without the leading bit of a normal number is short
      have hlog : m.log2 < 52 := by
        have : m.log2 < 53 := (Nat.log2_lt (by omega)).mpr hm
        have : ¬ m.log2 + 1 = 53 := hshort
        omega
      have hm' : m < 2 ^ 52 := (Nat.log2_lt (by omega)).mp hlog
      refine positive_unpack_packComponents (by decide) (.inr fun heq => ?_)
      have := congrArg BitVec.toNat heq
      simp only [BitVec.toNat_ofNat] at this
      omega

/-- No number that is unpacked has its last bit below the smallest
positive one. -/
theorem exponent_unpack {b : BitVec Format.binary64.numBits} {s : Sign} {m : Nat} {e : Int}
    {h : 0 < m} (hb : unpack Format.binary64 b = .finite s m e h) : -1074 ≤ e := by
  have hbias : ((Format.binary64.exponentBias : Int) +
      Format.binary64.mantissaBitsWithoutImplicit) = 1075 := rfl
  unfold UnpackedFloat.unpack at hb
  simp only [hbias] at hb
  split at hb
  · split at hb <;> cases hb
  · split at hb
    · split at hb
      · cases hb
      · cases hb
        omega
    · next hne =>
      cases hb
      have : (unpackExponent b).toNat ≠ 0 := fun h0 => hne (BitVec.eq_of_toNat_eq h0)
      omega

/-! ## Products -/

/-- A positive number times one that is at least one is positive. -/
theorem zero_lt_mul {a x : Float} (ha : OneOrMore a.toModel.unpack) (hx : 0.0 < x) :
    0.0 < a * x := by
  rw [zero_lt_iff] at hx ⊢
  show Positive (unpack Format.binary64
    (pack Format.binary64 (mul Format.binary64 a.toModel.unpack x.toModel.unpack)))
  generalize a.toModel.unpack = v at ha
  generalize hu : x.toModel.unpack = u at hx
  cases ha with
  | @finite m₁ e₁ h₁ hone =>
    cases hx with
    | infinity =>
      have hinfinity : unpack Format.binary64 (pack Format.binary64 (.infinity .positive)) =
          .infinity .positive := rfl
      exact hinfinity ▸ .infinity
    | @finite m₂ e₂ h₂ =>
      have he₂ : -1074 ≤ e₂ := exponent_unpack hu
      have hlog : m₁.log2 ≤ (m₁ * m₂).log2 :=
        (Nat.le_log2 (Nat.ne_of_gt (Nat.mul_pos h₁ h₂))).mpr
          (Nat.le_trans (Nat.log2_self_le (Nat.ne_of_gt h₁)) (Nat.le_mul_of_pos_right m₁ h₂))
      obtain ⟨m, e, h, hround, hm, he⟩ :=
        roundWithAccuracy_positive (e := e₁ + e₂) (Nat.mul_pos h₁ h₂) (by omega)
      show Positive (unpack Format.binary64 (pack Format.binary64
        (roundWithAccuracy Format.binary64 .positive (m₁ * m₂) (e₁ + e₂) .exact)))
      rw [hround]
      exact positive_unpack_pack hm he

end FloatSign

/-! ## Weights -/

namespace FairShare

/-- The user consumed more than a quota allows. -/
def Usage.OverQuota {α : Type} (u : Usage α) : Prop :=
  u.maxTotal < u.last24h ∨ u.maxParallel < u.running

instance {α : Type} (u : Usage α) : Decidable u.OverQuota :=
  inferInstanceAs (Decidable (_ ∨ _))

/-- Floats with any exponential function.  No rule here depends on which
one it is. -/
abbrev floatsWith (exp : Float → Float) : Arithmetic Float where
  ofInt := Float.ofInt
  exp := exp
  isPositive x := 0.0 < x

namespace Usage

/-- The load and the weight of a user, computed with this exponential
function.  With the one of the machine this is `Usage.share`. -/
def shareWith (exp : Float → Float) (u : Usage Float) : Share Float :=
  @share Float (floatsWith exp) u

variable {exp : Float → Float} {u : Usage Float}

theorem zero_lt_balance (exp : Float → Float) (u : Usage Float) :
    0.0 < @balance Float (floatsWith exp) u := by
  have hfifty : FloatSign.OneOrMore (Float.ofInt 50).toModel.unpack :=
    .finite (by decide : (0 : Int) ≤ -47 + (50 * 2 ^ 47).log2)
  simp only [balance]
  split
  · next hfactor => exact FloatSign.zero_lt_mul hfifty (of_decide_eq_true hfactor)
  · exact (by decide : 0.0 < Float.ofInt 1)

theorem shareWith_of_overQuota (h : u.OverQuota) : (u.shareWith exp).weight = -1.0 := by
  have hminus : Float.ofInt (-1) = -1.0 := rfl
  unfold shareWith share
  split
  · exact hminus
  · next htime =>
    rw [if_pos (h.resolve_left htime)]
    exact hminus

theorem zero_lt_shareWith (h : ¬ u.OverQuota) : 0.0 < (u.shareWith exp).weight := by
  obtain ⟨htime, hcores⟩ := not_or.mp h
  unfold shareWith share
  rw [if_neg htime, if_neg hcores]
  split
  · exact (by decide : 0.0 < Float.ofInt 1)
  · exact zero_lt_balance exp u

theorem shareWith_le_zero_iff (exp : Float → Float) (u : Usage Float) :
    (u.shareWith exp).weight ≤ 0.0 ↔ u.OverQuota := by
  constructor
  · intro hle
    by_contra hwithin
    exact FloatSign.not_le_zero (zero_lt_shareWith hwithin) hle
  · intro hover
    rw [shareWith_of_overQuota hover]
    exact (by decide : (-1.0 : Float) ≤ 0.0)

/-- A weight at zero or below is the weight of a user over a quota. -/
theorem weight_le_zero_iff (u : Usage Float) : u.share.weight ≤ 0.0 ↔ u.OverQuota :=
  shareWith_le_zero_iff Float.exp u

end Usage

end FairShare

end GridQueue
