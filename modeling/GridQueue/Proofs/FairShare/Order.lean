/-
# `GridQueue.Proofs.FairShare.Order` — whose weight is greater

The formula of the weight, with exact arithmetic and the exponential
function itself.  A user is in one of three places:

| place     | who                                       | weight  |
| :-------- | :---------------------------------------- | :------ |
| excluded  | over a quota                              | -1      |
| flat      | all cores in use, or no priority          | 1       |
| weighed   | some cores left, and a priority           | `worth` |

Take two users with the same quotas and the same time used, the first with
no less priority and no more cores in use.  Then the first has no less
weight, but for two exceptions where two rules of the formula meet:

    overtaken   the first is worth less than the 1 that the second has
                as a flat weight
    outpriced   the first uses nothing, which costs 1, while the second
                uses cores and pays less for them: the time used over the
                day makes cores cheaper, but not the cost of using none

`weight_le_iff` says that there are no others.
-/
import GridQueue.Proofs.FairShare.Positive

namespace GridQueue.FairShare

/-- Exact arithmetic.  No instance, so that sums and products of reals are
read as ever. -/
noncomputable abbrev exactly : Arithmetic ℝ where
  ofInt n := n
  exp := Real.exp
  isPositive x := decide (0 < x)

namespace Usage

/-- The load and the weight of a user, by the formula in exact arithmetic. -/
noncomputable def exactShare (u : Usage ℝ) : Share ℝ := @share ℝ exactly u

/-- The cores in use as a part of the parallel quota. -/
noncomputable def exactLoad (u : Usage ℝ) : ℝ := @load ℝ exactly u

noncomputable def exactCost (u : Usage ℝ) : ℝ := @cost ℝ exactly u

/-! ## Places -/

/-- Within the quotas, with all cores in use or no priority. -/
def IsFlat (u : Usage ℝ) : Prop :=
  ¬ u.OverQuota ∧ (u.running = u.maxParallel ∨ u.priority ≤ 0)

/-- Within the quotas, with some cores left and a priority. -/
def IsWeighed (u : Usage ℝ) : Prop :=
  ¬ u.OverQuota ∧ u.running < u.maxParallel ∧ 0 < u.priority

theorem places (u : Usage ℝ) : u.OverQuota ∨ u.IsFlat ∨ u.IsWeighed := by
  by_cases hover : u.OverQuota
  · exact .inl hover
  · have hcores : u.running ≤ u.maxParallel := not_lt.mp (not_or.mp hover).2
    rcases hcores.eq_or_lt with hfull | hleft
    · exact .inr (.inl ⟨hover, .inl hfull⟩)
    · rcases le_or_gt u.priority 0 with hnone | hsome
      · exact .inr (.inl ⟨hover, .inr hnone⟩)
      · exact .inr (.inr ⟨hover, hleft, hsome⟩)

section Parts

variable {u v : Usage ℝ}

theorem IsFlat.not_weighed (h : u.IsFlat) : ¬ u.IsWeighed := by
  rintro ⟨-, hleft, hsome⟩
  rcases h.2 with hfull | hnone
  · exact hleft.ne hfull
  · exact hnone.not_gt hsome

/-! ## The parts of the formula -/

theorem part_eq {used allowed : Int} (h : 0 < allowed) :
    @part ℝ exactly used allowed = used / allowed :=
  if_pos h

theorem exactLoad_eq (h : 0 ≤ u.running) (hleft : u.running < u.maxParallel) :
    u.exactLoad = u.running / u.maxParallel :=
  part_eq (h.trans_lt hleft)

theorem exactLoad_lt_one (h : 0 ≤ u.running) (hleft : u.running < u.maxParallel) :
    u.exactLoad < 1 := by
  have hmax : (0 : ℝ) < u.maxParallel := Int.cast_pos.mpr (h.trans_lt hleft)
  rw [exactLoad_eq h hleft, div_lt_one hmax]
  exact Int.cast_lt.mpr hleft

theorem exactCost_of_idle (h : u.running = 0) : u.exactCost = 1 :=
  (if_pos h).trans Int.cast_one

theorem exactCost_of_running (h : 0 < u.running) :
    u.exactCost = u.running * Real.exp (-(@part ℝ exactly u.last24h u.maxTotal)) :=
  if_neg h.ne'

theorem exactCost_pos (h : 0 ≤ u.running) : 0 < u.exactCost := by
  rcases h.eq_or_lt with hidle | hrunning
  · rw [exactCost_of_idle hidle.symm]
    exact one_pos
  · rw [exactCost_of_running hrunning]
    exact mul_pos (Int.cast_pos.mpr hrunning) (Real.exp_pos _)

/-- The cores left and the price of the priority, as one factor. -/
noncomputable def factor (u : Usage ℝ) : ℝ := (2 - u.exactLoad) * (u.priority / u.exactCost)

/-- The weight of a user who is weighed. -/
noncomputable def worth (u : Usage ℝ) : ℝ := 50 * u.factor

theorem factor_pos_iff (h : 0 ≤ u.running) (hleft : u.running < u.maxParallel) :
    0 < u.factor ↔ 0 < u.priority := by
  have hload : 0 < 2 - u.exactLoad := by linarith [exactLoad_lt_one h hleft]
  rw [factor, mul_pos_iff_of_pos_left hload, div_pos_iff_of_pos_right (exactCost_pos h)]

theorem balance_eq (u : Usage ℝ) : @balance ℝ exactly u = if 0 < u.factor then u.worth else 1 := by
  have htwo : exactly.ofInt 2 = 2 := Int.cast_ofNat 2
  have hfifty : exactly.ofInt 50 = 50 := Int.cast_ofNat 50
  have hone : exactly.ofInt 1 = 1 := Int.cast_one
  have hfactor : (exactly.ofInt 2 - u.exactLoad) * (u.priority / u.exactCost) = u.factor := by
    rw [htwo, factor]
  have hbalance : @balance ℝ exactly u =
      if decide (0 < (exactly.ofInt 2 - u.exactLoad) * (u.priority / u.exactCost)) then
        exactly.ofInt 50 * ((exactly.ofInt 2 - u.exactLoad) * (u.priority / u.exactCost))
      else exactly.ofInt 1 := rfl
  rw [hbalance, hfactor, hfifty, hone, worth]
  by_cases hpos : 0 < u.factor
  · rw [if_pos (decide_eq_true hpos), if_pos hpos]
  · rw [if_neg (mt of_decide_eq_true hpos), if_neg hpos]

/-! ## The weight in each place -/

theorem weight_of_overQuota (h : u.OverQuota) : u.exactShare.weight = -1 := by
  have hminus : exactly.ofInt (-1) = -1 := by
    show ((-1 : ℤ) : ℝ) = -1
    norm_num
  unfold exactShare share
  split
  · exact hminus
  · next htime =>
    rw [if_pos (h.resolve_left htime)]
    exact hminus

theorem weight_of_within (h : ¬ u.OverQuota) : u.exactShare.weight =
    if u.running = u.maxParallel then 1 else @balance ℝ exactly u := by
  obtain ⟨htime, hcores⟩ := not_or.mp h
  unfold exactShare share
  rw [if_neg htime, if_neg hcores]
  split
  · exact Int.cast_one
  · rfl

theorem IsFlat.weight_eq (h : u.IsFlat) (hrunning : 0 ≤ u.running) : u.exactShare.weight = 1 := by
  obtain ⟨hover, hflat⟩ := h
  rw [weight_of_within hover]
  split
  · rfl
  · next hfull =>
    have hleft : u.running < u.maxParallel := lt_of_le_of_ne (not_lt.mp (not_or.mp hover).2) hfull
    have hnone : ¬ 0 < u.factor := by
      rw [factor_pos_iff hrunning hleft]
      exact (hflat.resolve_left hfull).not_gt
    rw [balance_eq, if_neg hnone]

theorem IsWeighed.weight_eq (h : u.IsWeighed) (hrunning : 0 ≤ u.running) :
    u.exactShare.weight = u.worth := by
  obtain ⟨hover, hleft, hsome⟩ := h
  rw [weight_of_within hover, if_neg hleft.ne, balance_eq,
    if_pos ((factor_pos_iff hrunning hleft).mpr hsome)]

theorem IsWeighed.worth_pos (h : u.IsWeighed) (hrunning : 0 ≤ u.running) : 0 < u.worth :=
  mul_pos (by norm_num) ((factor_pos_iff hrunning h.2.1).mpr h.2.2)

theorem neg_one_le_weight (h : 0 ≤ u.running) : -1 ≤ u.exactShare.weight := by
  rcases u.places with hover | hflat | hweighed
  · exact (weight_of_overQuota hover).ge
  · rw [hflat.weight_eq h]
    norm_num
  · rw [hweighed.weight_eq h]
    linarith [hweighed.worth_pos h]

/-! ## Two users -/

/-- The quotas and the time used are the same; the first has no less
priority and no more cores in use. -/
structure Ahead (u v : Usage ℝ) : Prop where
  maxParallel : u.maxParallel = v.maxParallel
  last24h : u.last24h = v.last24h
  maxTotal : u.maxTotal = v.maxTotal
  priority : v.priority ≤ u.priority
  nonneg : 0 ≤ u.running
  running : u.running ≤ v.running

/-- The second is flat, and the first is weighed and worth less. -/
def Overtaken (u v : Usage ℝ) : Prop := u.IsWeighed ∧ v.IsFlat ∧ u.worth < 1

/-- The first uses nothing, and the cores of the second cost so little that
it is worth more. -/
def Outpriced (u v : Usage ℝ) : Prop :=
  u.IsWeighed ∧ v.IsWeighed ∧ u.running = 0 ∧ 0 < v.running ∧
    2 * u.priority < (2 - v.exactLoad) * (v.priority / v.exactCost)

namespace Ahead

variable (h : Ahead u v)
include h

theorem overQuota (hover : u.OverQuota) : v.OverQuota := by
  rcases hover with htime | hcores
  · exact .inl (h.maxTotal ▸ h.last24h ▸ htime)
  · exact .inr (h.maxParallel ▸ hcores.trans_le h.running)

theorem isWeighed (hv : v.IsWeighed) : u.IsWeighed := by
  obtain ⟨hover, hleft, hsome⟩ := hv
  refine ⟨fun hu => hover (h.overQuota hu), ?_, hsome.trans_le h.priority⟩
  rw [h.maxParallel]
  exact h.running.trans_lt hleft

/-- Where both use cores, or neither does, the factors are in order: the
price of a core is the same for both. -/
theorem factor_le (hv : v.IsWeighed) (hboth : u.running = 0 → v.running = 0) :
    v.factor ≤ u.factor := by
  have hu := h.isWeighed hv
  have hv0 : 0 ≤ v.running := h.nonneg.trans h.running
  have hmax : (0 : ℝ) < v.maxParallel := Int.cast_pos.mpr (hv0.trans_lt hv.2.1)
  have hload : u.exactLoad ≤ v.exactLoad := by
    rw [exactLoad_eq h.nonneg hu.2.1, exactLoad_eq hv0 hv.2.1, h.maxParallel,
      div_le_div_iff_of_pos_right hmax]
    exact Int.cast_le.mpr h.running
  have hcost : u.exactCost ≤ v.exactCost := by
    rcases h.nonneg.eq_or_lt with hidle | hrunning
    · rw [exactCost_of_idle hidle.symm, exactCost_of_idle (hboth hidle.symm)]
    · rw [exactCost_of_running hrunning, exactCost_of_running (hrunning.trans_le h.running),
        h.last24h, h.maxTotal]
      exact mul_le_mul_of_nonneg_right (Int.cast_le.mpr h.running) (Real.exp_pos _).le
  have hprice : v.priority / v.exactCost ≤ u.priority / u.exactCost :=
    div_le_div₀ hu.2.2.le h.priority (exactCost_pos h.nonneg) hcost
  refine mul_le_mul (by linarith) hprice (div_pos hv.2.2 (exactCost_pos hv0)).le ?_
  linarith [exactLoad_lt_one h.nonneg hu.2.1]

theorem factor_of_idle (hidle : u.running = 0) (hleft : u.running < u.maxParallel) :
    u.factor = 2 * u.priority := by
  have hload : u.exactLoad = 0 := by
    rw [exactLoad_eq h.nonneg hleft, hidle, Int.cast_zero, zero_div]
  rw [factor, hload, exactCost_of_idle hidle, sub_zero, div_one]

theorem worth_le_iff (hv : v.IsWeighed) : v.worth ≤ u.worth ↔ ¬ Outpriced u v := by
  have hu := h.isWeighed hv
  have hfactor : v.worth ≤ u.worth ↔ v.factor ≤ u.factor :=
    mul_le_mul_iff_right₀ (by norm_num)
  rw [hfactor]
  by_cases hcross : u.running = 0 ∧ 0 < v.running
  · obtain ⟨hidle, hrunning⟩ := hcross
    rw [h.factor_of_idle hidle hu.2.1, ← not_lt]
    exact not_congr ⟨fun hlt => ⟨hu, hv, hidle, hrunning, hlt⟩, fun ho => ho.2.2.2.2⟩
  · refine iff_of_true (h.factor_le hv fun hidle => ?_) fun ho => hcross ⟨ho.2.2.1, ho.2.2.2.1⟩
    exact le_antisymm (not_lt.mp fun hrunning => hcross ⟨hidle, hrunning⟩)
      (h.nonneg.trans h.running)

end Ahead

theorem le_cost_of_unused (hrunning : 0 < u.running) (h : ¬ (0 < u.last24h ∧ 0 < u.maxTotal)) :
    1 ≤ u.exactCost := by
  have hpart : @part ℝ exactly u.last24h u.maxTotal ≤ 0 := by
    by_cases htotal : 0 < u.maxTotal
    · have hused : u.last24h ≤ 0 := not_lt.mp fun hpos => h ⟨hpos, htotal⟩
      rw [part_eq htotal]
      exact div_nonpos_of_nonpos_of_nonneg (Int.cast_nonpos.mpr hused)
        (Int.cast_nonneg htotal.le)
    · exact (if_neg htotal).trans_le Int.cast_zero.le
  have hcores : (1 : ℝ) ≤ u.running := by exact_mod_cast hrunning
  have hdiscount : 1 ≤ Real.exp (-(@part ℝ exactly u.last24h u.maxTotal)) :=
    Real.one_le_exp (neg_nonneg.mpr hpart)
  rw [exactCost_of_running hrunning]
  exact one_le_mul_of_one_le_of_one_le hcores hdiscount

/-- Nobody is outpriced unless some time was used. -/
theorem Outpriced.used (ho : Outpriced u v) (h : Ahead u v) : 0 < v.last24h ∧ 0 < v.maxTotal := by
  obtain ⟨-, hv, -, hrunning, hlt⟩ := ho
  by_contra hunused
  have hcost := le_cost_of_unused hrunning hunused
  have hload : 0 ≤ v.exactLoad := by
    rw [exactLoad_eq hrunning.le hv.2.1]
    exact div_nonneg (Int.cast_nonneg hrunning.le)
      (Int.cast_nonneg (hrunning.trans hv.2.1).le)
  have hprice : v.priority / v.exactCost ≤ u.priority :=
    (div_le_self hv.2.2.le hcost).trans h.priority
  have hle : (2 - v.exactLoad) * (v.priority / v.exactCost) ≤ 2 * u.priority :=
    mul_le_mul (by linarith) hprice (div_pos hv.2.2 (exactCost_pos hrunning.le)).le (by norm_num)
  exact hlt.not_ge hle

end Parts

end Usage

open Usage

/-- A user with no less priority and no more cores in use than another, of
the same quotas and time used, has no less weight, unless overtaken or
outpriced; and nobody is outpriced where no time was used. -/
theorem weight_le_iff {u v : Usage ℝ} (h : Ahead u v) :
    (v.exactShare.weight ≤ u.exactShare.weight ↔ ¬ Overtaken u v ∧ ¬ Outpriced u v) ∧
      (Outpriced u v → 0 < v.last24h ∧ 0 < v.maxTotal) := by
  refine ⟨?_, fun ho => ho.used h⟩
  have hv0 : 0 ≤ v.running := h.nonneg.trans h.running
  rcases v.places with hover | hflat | hweighed
  · -- nothing is below an excluded user
    rw [weight_of_overQuota hover]
    exact iff_of_true (neg_one_le_weight h.nonneg)
      ⟨fun ho => ho.2.1.1 hover, fun ho => ho.2.1.1 hover⟩
  · have hnot : ¬ Outpriced u v := fun ho => hflat.not_weighed ho.2.1
    rw [hflat.weight_eq hv0, and_iff_left hnot]
    rcases u.places with hover' | hflat' | hweighed'
    · exact absurd (h.overQuota hover') hflat.1
    · rw [hflat'.weight_eq h.nonneg]
      exact iff_of_true le_rfl fun ho => hflat'.not_weighed ho.1
    · rw [hweighed'.weight_eq h.nonneg, ← not_lt]
      exact not_congr ⟨fun hlt => ⟨hweighed', hflat, hlt⟩, fun ho => ho.2.2⟩
  · have hnot : ¬ Overtaken u v := fun ho => ho.2.1.not_weighed hweighed
    rw [hweighed.weight_eq hv0, (h.isWeighed hweighed).weight_eq h.nonneg, and_iff_right hnot]
    exact h.worth_le_iff hweighed

/-- Twice the priority and one core of ten instead of two. -/
theorem weight_le_of_fewer_cores :
    let u : Usage ℝ := ⟨2, 1, 10, 500, 1000⟩
    let v : Usage ℝ := ⟨1, 2, 10, 500, 1000⟩
    Ahead u v ∧ v.exactShare.weight ≤ u.exactShare.weight := by
  intro u v
  have h : Ahead u v := ⟨rfl, rfl, rfl, by norm_num [u, v], by decide, by decide⟩
  refine ⟨h, (weight_le_iff h).1.mpr ⟨?_, ?_⟩⟩
  · rintro ⟨-, ⟨-, hfull | hnone⟩, -⟩
    · exact absurd hfull (by decide)
    · norm_num [v] at hnone
  · rintro ⟨-, -, hidle, -⟩
    exact absurd hidle (by decide)

/-- The last core, the first core and the first bit of priority: each makes
a user cross a border of the formula to the wrong side. -/
theorem borders_break_order :
    let short : Usage ℝ := ⟨1, 99, 100, 0, 1000000⟩
    let full : Usage ℝ := ⟨1, 100, 100, 0, 1000000⟩
    let idle : Usage ℝ := ⟨1, 0, 100, 1000000, 1000000⟩
    let started : Usage ℝ := ⟨1, 1, 100, 1000000, 1000000⟩
    let slight : Usage ℝ := ⟨1 / 1000, 0, 100, 0, 1000000⟩
    let without : Usage ℝ := ⟨0, 0, 100, 0, 1000000⟩
    (Ahead short full ∧ short.exactShare.weight < full.exactShare.weight) ∧
      (Ahead idle started ∧ idle.exactShare.weight < started.exactShare.weight) ∧
      Ahead slight without ∧ slight.exactShare.weight < without.exactShare.weight := by
  refine ⟨⟨⟨rfl, rfl, rfl, le_rfl, by decide, by decide⟩, ?_⟩,
    ⟨⟨rfl, rfl, rfl, le_rfl, by decide, by decide⟩, ?_⟩,
    ⟨rfl, rfl, rfl, by norm_num, by decide, by decide⟩, ?_⟩
  · rw [IsWeighed.weight_eq ⟨by decide, by decide, one_pos⟩ (by decide),
      IsFlat.weight_eq ⟨by decide, .inl rfl⟩ (by decide), worth, factor,
      exactLoad_eq (by decide) (by decide), exactCost_of_running (by decide)]
    rw [part_eq (by decide)]
    norm_num
  · have hexp : (2 : ℝ) ≤ Real.exp 1 := by linarith [Real.add_one_le_exp (1 : ℝ)]
    rw [IsWeighed.weight_eq ⟨by decide, by decide, one_pos⟩ (by decide),
      IsWeighed.weight_eq ⟨by decide, by decide, one_pos⟩ (by decide), worth, worth, factor, factor,
      exactLoad_eq (by decide) (by decide), exactLoad_eq (by decide) (by decide),
      exactCost_of_idle rfl, exactCost_of_running (by decide)]
    rw [part_eq (by decide)]
    norm_num [Real.exp_neg]
    linarith
  · rw [IsWeighed.weight_eq ⟨by decide, by decide, by norm_num⟩ (by decide),
      IsFlat.weight_eq ⟨by decide, .inr le_rfl⟩ (by decide), worth, factor,
      exactLoad_eq (by decide) (by decide), exactCost_of_idle rfl]
    norm_num

end GridQueue.FairShare
