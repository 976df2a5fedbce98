/-
# `GridQueue.Proofs.Calendar` — the years of days, and how far back they go

Later days lie in no earlier years (`Date.year_ofDays_mono`).  So the years
in which a clock may be set bound its instants, and how far a span reaches
back from any of them is settled by how far it reaches back from the first
one: a span that stays in the calendar there can be counted back, and leads
to a date, from every instant from 1970 to 2200 (`Span.StaysInCalendar.back`).
Of one instant less is asked: a span that leads from a date to a date can be
counted back (`Span.isCountable_of_back`).

`Date.ofDays` counts in eras of 400 years that start in March.  The proof
follows it: `yearOfEra` and `monthFromMarch` are its steps, each of which
grows with the day.
-/
import GridQueue.Time.Text
import Mathlib.Tactic.ByContra

namespace GridQueue

namespace Date

/-! ## Days of an era -/

/-- The year of an era, counted from March on, in which a day of it lies. -/
def yearOfEra (day : Nat) : Nat := (day - day / 1460 + day / 36524 - day / 146096) / 365

/-- The month, counted from March on, in which a day of an era lies. -/
def monthFromMarch (day : Nat) : Nat :=
  (5 * (day - (365 * yearOfEra day + yearOfEra day / 4 - yearOfEra day / 100)) + 2) / 153

/-- How many first days of January an era has seen by a day of it. -/
def januaries (day : Nat) : Nat :=
  if monthFromMarch day < 10 then yearOfEra day else yearOfEra day + 1

theorem yearOfEra_mono {a b : Nat} (h : a ≤ b) : yearOfEra a ≤ yearOfEra b := by
  unfold yearOfEra
  refine Nat.div_le_div_right ?_
  omega

theorem yearOfEra_lt {day : Nat} (h : day < 146097) : yearOfEra day < 400 := by
  unfold yearOfEra
  omega

theorem monthFromMarch_mono {a b : Nat} (h : a ≤ b) (hyear : yearOfEra a = yearOfEra b) :
    monthFromMarch a ≤ monthFromMarch b := by
  unfold monthFromMarch
  rw [hyear]
  refine Nat.div_le_div_right ?_
  omega

/-- No day comes later in its year than there are days in a leap year. -/
theorem le_days_of_yearOfEra {day : Nat} (h : day < 146097) :
    day ≤ 365 * yearOfEra day + yearOfEra day / 4 - yearOfEra day / 100 + 366 := by
  unfold yearOfEra
  -- the last day of an era is an exception; of all others the century is known
  have hlast : day / 146096 = 0 ∨ day = 146096 := by omega
  rcases hlast with hlast | rfl
  · rw [hlast]
    have hcentury : day / 36524 = 0 ∨ day / 36524 = 1 ∨ day / 36524 = 2 ∨ day / 36524 = 3 := by
      omega
    rcases hcentury with hcentury | hcentury | hcentury | hcentury <;> rw [hcentury] <;> omega
  · decide

theorem monthFromMarch_lt {day : Nat} (h : day < 146097) : monthFromMarch day < 12 := by
  have hle := le_days_of_yearOfEra h
  refine Nat.div_lt_of_lt_mul ?_
  omega

theorem januaries_bounds (day : Nat) :
    yearOfEra day ≤ januaries day ∧ januaries day ≤ yearOfEra day + 1 := by
  unfold januaries
  split <;> omega

theorem januaries_mono {a b : Nat} (h : a ≤ b) : januaries a ≤ januaries b := by
  rcases Nat.lt_or_eq_of_le (yearOfEra_mono h) with hlt | heq
  · have hbefore := januaries_bounds a
    have hafter := januaries_bounds b
    omega
  · have hmonth := monthFromMarch_mono h heq
    unfold januaries
    rw [heq]
    split <;> split <;> omega

/-! ## Days of the calendar -/

/-- The era in which a day lies. -/
def era (days : Int) : Int := (days + 719468) / 146097

def dayOfEra (days : Int) : Nat := ((days + 719468) % 146097).toNat

theorem dayOfEra_lt (days : Int) : dayOfEra days < 146097 := by
  unfold dayOfEra
  omega

theorem year_ofDays (days : Int) :
    (ofDays days).year = era days * 400 + januaries (dayOfEra days) := by
  have hera : (days + 719468).fdiv 146097 = era days :=
    Int.fdiv_eq_ediv_of_nonneg _ (by decide)
  have hday : (days + 719468 - era days * 146097).toNat = dayOfEra days := by
    unfold era dayOfEra
    omega
  have hdate : (ofDays days).year =
      if (if monthFromMarch (dayOfEra days) < 10 then monthFromMarch (dayOfEra days) + 3
          else monthFromMarch (dayOfEra days) - 9) ≤ 2
      then (yearOfEra (dayOfEra days) : Int) + era days * 400 + 1
      else (yearOfEra (dayOfEra days) : Int) + era days * 400 := by
    rw [← hday, ← hera]
    rfl
  have hmonth := monthFromMarch_lt (dayOfEra_lt days)
  rw [hdate, januaries]
  generalize monthFromMarch (dayOfEra days) = month at hmonth ⊢
  split <;> split <;> omega

theorem year_ofDays_mono {d d' : Int} (h : d ≤ d') : (ofDays d).year ≤ (ofDays d').year := by
  rw [year_ofDays, year_ofDays]
  have hera : era d < era d' ∨ era d = era d' ∧ dayOfEra d ≤ dayOfEra d' := by
    unfold era dayOfEra
    omega
  rcases hera with hlt | ⟨heq, hle⟩
  · have hbounds := januaries_bounds (dayOfEra d)
    have hyear := yearOfEra_lt (dayOfEra_lt d)
    omega
  · have := januaries_mono hle
    omega

end Date

/-! ## Instants -/

namespace Instant

/-- The day in which an instant lies, in days since 1970-01-01; a sixtieth
second is one of the day before. -/
def day (t : Instant) : Int :=
  (t.nanos.fdiv 1000000000 - (if t.leap then 1 else 0)).fdiv 86400

/-- The year in which an instant lies. -/
def year (t : Instant) : Int := (Date.ofDays t.day).year

/-- The instant has a date of the calendar. -/
def InCalendar (t : Instant) : Prop := inCalendar t.year = true

instance (t : Instant) : Decidable t.InCalendar :=
  inferInstanceAs (Decidable (inCalendar t.year = true))

/-- The instant lies between the years 1970 and 2200. -/
def IsContemporary (t : Instant) : Prop := 1970 ≤ t.year ∧ t.year ≤ 2200

instance (t : Instant) : Decidable t.IsContemporary :=
  inferInstanceAs (Decidable (1970 ≤ t.year ∧ t.year ≤ 2200))

theorem inCalendar_iff {t : Instant} : t.InCalendar ↔ -262143 ≤ t.year ∧ t.year ≤ 262142 := by
  simp [InCalendar, inCalendar]

theorem day_eq (t : Instant) :
    t.day = (t.nanos / 1000000000 - (if t.leap then 1 else 0)) / 86400 := by
  unfold day
  rw [Int.fdiv_eq_ediv_of_nonneg _ (by decide), Int.fdiv_eq_ediv_of_nonneg _ (by decide)]

theorem day_back (t : Instant) (d : Span) :
    (t.back d).day = (t.nanos - d.nanos) / 1000000000 / 86400 := by
  rw [day_eq]
  simp [back]

/-- The calendar has 96465292 days before 1970 and 95026237 from then on. -/
theorem InCalendar.day_bounds {t : Instant} (h : t.InCalendar) :
    -96465292 ≤ t.day ∧ t.day ≤ 95026236 := by
  have hyears := inCalendar_iff.mp h
  constructor
  · by_contra hearly
    have hyear : t.year ≤ (Date.ofDays (-96465293)).year := Date.year_ofDays_mono (by omega)
    have hbefore : (Date.ofDays (-96465293)).year = -262144 := by decide
    omega
  · by_contra hlate
    have hyear : (Date.ofDays 95026237).year ≤ t.year := Date.year_ofDays_mono (by omega)
    have hafter : (Date.ofDays 95026237).year = 262143 := by decide
    omega

namespace IsContemporary

variable {t : Instant}

theorem nanos_nonneg (h : t.IsContemporary) : 0 ≤ t.nanos := by
  by_contra hneg
  have hday : t.day ≤ -1 := by
    rw [day_eq]
    split <;> omega
  have hyear : t.year ≤ (Date.ofDays (-1)).year := Date.year_ofDays_mono hday
  have hlast : (Date.ofDays (-1)).year = 1969 := by decide
  have hfirst := h.1
  omega

theorem day_le (h : t.IsContemporary) : t.day ≤ 84370 := by
  by_contra hlate
  have hyear : (Date.ofDays 84371).year ≤ t.year := Date.year_ofDays_mono (by omega)
  have hfirst : (Date.ofDays 84371).year = 2201 := by decide
  have hlast := h.2
  omega

theorem inCalendar (h : t.IsContemporary) : t.InCalendar :=
  inCalendar_iff.mpr ⟨Int.le_trans (by decide) h.1, Int.le_trans h.2 (by decide)⟩

end IsContemporary

end Instant

/-! ## Spans that stay in the calendar -/

namespace Span

variable {d shorter : Span} {now : Instant}

/-- A span that reaches back from 1970 no further than there are dates. -/
def StaysInCalendar (d : Span) : Prop := ((Instant.ofMillis 0).back d).InCalendar

instance (d : Span) : Decidable d.StaysInCalendar :=
  inferInstanceAs (Decidable ((Instant.ofMillis 0).back d).InCalendar)

theorem isCountable_of_back (hnow : now.InCalendar) (h : (now.back d).InCalendar) :
    d.isCountable = true := by
  have hlast := hnow.day_bounds.2
  have hfirst := h.day_bounds.1
  rw [Instant.day_eq] at hlast
  rw [Instant.day_back] at hfirst
  refine decide_eq_true ?_
  split at hlast <;> omega

theorem StaysInCalendar.isCountable (h : d.StaysInCalendar) : d.isCountable = true :=
  isCountable_of_back (by decide) h

theorem StaysInCalendar.back (h : d.StaysInCalendar) (hnow : now.IsContemporary) :
    (now.back d).InCalendar := by
  have hnanos := hnow.nanos_nonneg
  have hlast := hnow.day_le
  have hfirst := Instant.InCalendar.day_bounds h |>.1
  have hday : -96465292 ≤ (now.back d).day ∧ (now.back d).day ≤ 84371 := by
    rw [Instant.day_back] at hfirst ⊢
    rw [Instant.day_eq] at hlast
    simp only [Instant.ofMillis] at hfirst
    split at hlast <;> omega
  have hlow : (Date.ofDays (-96465292)).year = -262143 := by decide
  have hhigh : (Date.ofDays 84371).year = 2201 := by decide
  have := Date.year_ofDays_mono hday.1
  have := Date.year_ofDays_mono hday.2
  refine Instant.inCalendar_iff.mpr ?_
  unfold Instant.year
  omega

theorem StaysInCalendar.mono (h : d.StaysInCalendar) (hle : shorter.nanos ≤ d.nanos) :
    shorter.StaysInCalendar := by
  have hhigh : (Date.ofDays 0).year = 1970 := by decide
  have hdays : ((Instant.ofMillis 0).back d).day ≤ ((Instant.ofMillis 0).back shorter).day ∧
      ((Instant.ofMillis 0).back shorter).day ≤ 0 := by
    rw [Instant.day_back, Instant.day_back]
    simp only [Instant.ofMillis]
    omega
  have hfirst := (Instant.inCalendar_iff.mp h).1
  unfold Instant.year at hfirst
  have := Date.year_ofDays_mono hdays.1
  have := Date.year_ofDays_mono hdays.2
  refine Instant.inCalendar_iff.mpr ?_
  unfold Instant.year
  omega

end Span

end GridQueue
