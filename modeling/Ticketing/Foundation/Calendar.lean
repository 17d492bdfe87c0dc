import Mathlib.Data.Prod.Lex
import Mathlib.Order.Basic
import Mathlib.Tactic.Common
import Mathlib.Tactic.Linarith

/-!
# The civil calendar

Days of the Gregorian calendar, extended to all years. A day carries the bounds of its
month and of its number in the month. Days are counted through, which makes arithmetic on
them arithmetic on integers.
-/

namespace Foundation

/-! ## Months -/

def isLeap (year : Int) : Bool := year % 4 = 0 && (year % 100 ≠ 0 || year % 400 = 0)

def daysInMonth (year : Int) : Nat → Nat
  | 2 => if isLeap year then 29 else 28
  | 4 | 6 | 9 | 11 => 30
  | _ => 31

/-- The days of the year before the month. -/
def daysBefore (year : Int) : Nat → Nat
  | 0 | 1 => 0
  | month + 2 => daysBefore year (month + 1) + daysInMonth year (month + 1)

/-- The days from the first year on, before the year. -/
def yearDays (year : Int) : Int :=
  365 * (year - 1) + (year - 1) / 4 - (year - 1) / 100 + (year - 1) / 400

theorem daysInMonth_pos (year : Int) (month : Nat) : 0 < daysInMonth year month := by
  unfold daysInMonth
  split
  · split <;> decide
  all_goals decide

theorem daysInMonth_le (year : Int) (month : Nat) : daysInMonth year month ≤ 31 := by
  unfold daysInMonth
  split
  · split <;> decide
  all_goals decide

theorem daysBefore_succ (year : Int) {month : Nat} (h : 0 < month) :
    daysBefore year (month + 1) = daysBefore year month + daysInMonth year month := by
  obtain ⟨month, rfl⟩ := Nat.exists_eq_succ_of_ne_zero (Nat.pos_iff_ne_zero.mp h)
  rfl

theorem daysBefore_mono (year : Int) {month later : Nat} (hpos : 0 < month)
    (h : month ≤ later) : daysBefore year month ≤ daysBefore year later := by
  induction h with
  | refl => exact Nat.le_refl _
  | step h ih => exact ih.trans (daysBefore_succ year (hpos.trans_le h) ▸ Nat.le_add_right _ _)

/-- A year is as long as its months. -/
theorem daysBefore_end (year : Int) :
    yearDays (year + 1) = yearDays year + (daysBefore year 13 : Nat) := by
  have hend : daysBefore year 13 = 365 + if isLeap year then 1 else 0 := by
    simp only [daysBefore, daysInMonth]
    split <;> rfl
  rw [hend]
  unfold yearDays
  by_cases hleap : isLeap year = true
  · rw [if_pos hleap]
    simp only [isLeap, Bool.and_eq_true, Bool.or_eq_true, decide_eq_true_eq] at hleap
    omega
  · rw [if_neg hleap]
    simp only [isLeap, Bool.and_eq_true, Bool.or_eq_true, decide_eq_true_eq] at hleap
    omega

theorem yearDays_mono {year later : Int} (h : year ≤ later) : yearDays year ≤ yearDays later := by
  unfold yearDays
  omega

/-! ## Days -/

/-- A day of the calendar; January is month 1. -/
@[ext] structure Day where
  year : Int
  month : Nat
  day : Nat
  one_le_month : 1 ≤ month
  month_le : month ≤ 12
  one_le_day : 1 ≤ day
  day_le : day ≤ daysInMonth year month
deriving DecidableEq, Repr

namespace Day

/-- The first day of a month. -/
def first (year : Int) (month : Nat) (hone : 1 ≤ month) (hle : month ≤ 12) : Day :=
  ⟨year, month, 1, hone, hle, Nat.le_refl 1, daysInMonth_pos year month⟩

/-- The last day of a month. -/
def last (year : Int) (month : Nat) (hone : 1 ≤ month) (hle : month ≤ 12) : Day :=
  ⟨year, month, daysInMonth year month, hone, hle, daysInMonth_pos year month, Nat.le_refl _⟩

def next (d : Day) : Day :=
  if hday : d.day < daysInMonth d.year d.month then
    { d with day := d.day + 1, one_le_day := Nat.le_add_left 1 _, day_le := hday }
  else if hmonth : d.month < 12 then first d.year (d.month + 1) (Nat.le_add_left 1 _) hmonth
  else first (d.year + 1) 1 (Nat.le_refl 1) (Nat.le_add_left 1 11)

def prev (d : Day) : Day :=
  if hday : 1 < d.day then
    { d with
      day := d.day - 1
      one_le_day := Nat.le_sub_one_of_lt hday
      day_le := (Nat.sub_le _ _).trans d.day_le }
  else if hmonth : 1 < d.month then
    last d.year (d.month - 1) (Nat.le_sub_one_of_lt hmonth) ((Nat.sub_le _ _).trans d.month_le)
  else last (d.year - 1) 12 (Nat.le_add_left 1 11) (Nat.le_refl 12)

/-- The day so many days later, or earlier. -/
def addDays (d : Day) : Int → Day
  | .ofNat n => next^[n] d
  | .negSucc n => prev^[n + 1] d

/-- The number of the day, counted from the first day of the first year on. -/
def number (d : Day) : Int := yearDays d.year + daysBefore d.year d.month + d.day

/-- Sunday is 0. -/
def weekday (d : Day) : Int := d.number % 7

variable {d other : Day}

theorem number_next (d : Day) : d.next.number = d.number + 1 := by
  unfold next
  split
  · unfold number
    dsimp only
    omega
  next hday =>
    have hlast : d.day = daysInMonth d.year d.month := Nat.le_antisymm d.day_le (not_lt.mp hday)
    split
    · have hmonths := daysBefore_succ d.year d.one_le_month
      unfold number
      simp only [first]
      omega
    next hmonth =>
      have hdecember : d.month = 12 := Nat.le_antisymm d.month_le (not_lt.mp hmonth)
      have hyear := daysBefore_end d.year
      have hmonths : daysBefore d.year 13 = daysBefore d.year 12 + daysInMonth d.year 12 := rfl
      have hnone : daysBefore (d.year + 1) 1 = 0 := rfl
      rw [hdecember] at hlast
      unfold number
      simp only [first, hdecember, hnone]
      omega

theorem number_prev (d : Day) : d.prev.number = d.number - 1 := by
  unfold prev
  split
  next hday =>
    unfold number
    dsimp only
    omega
  next hday =>
    have hfirst : d.day = 1 := Nat.le_antisymm (not_lt.mp hday) d.one_le_day
    split
    next hmonth =>
      have hmonths := daysBefore_succ d.year (Nat.sub_pos_of_lt hmonth)
      rw [Nat.sub_add_cancel d.one_le_month] at hmonths
      unfold number
      simp only [last]
      omega
    next hmonth =>
      have hjanuary : d.month = 1 := Nat.le_antisymm (not_lt.mp hmonth) d.one_le_month
      have hyear := daysBefore_end (d.year - 1)
      have hmonths : daysBefore (d.year - 1) 13 =
          daysBefore (d.year - 1) 12 + daysInMonth (d.year - 1) 12 := rfl
      rw [Int.sub_add_cancel] at hyear
      have hnone : daysBefore d.year 1 = 0 := rfl
      unfold number
      simp only [last, hjanuary, hnone]
      omega

theorem number_addDays (d : Day) (n : Int) : (d.addDays n).number = d.number + n := by
  cases n with
  | ofNat n =>
      change (next^[n] d).number = d.number + n
      induction n generalizing d with
      | zero => simp
      | succ n ih =>
          rw [Function.iterate_succ_apply, ih, number_next]
          omega
  | negSucc n =>
      change (prev^[n + 1] d).number = d.number + Int.negSucc n
      induction n generalizing d with
      | zero => exact number_prev d
      | succ n ih =>
          rw [Function.iterate_succ_apply, ih, number_prev]
          omega

/-! ## The order of the days -/

/-- The parts of a day, the largest first. -/
def parts (d : Day) : Int ×ₗ Nat ×ₗ Nat := toLex (d.year, toLex (d.month, d.day))

theorem parts_injective : Function.Injective parts := by
  rintro d other h
  obtain ⟨hyear, hrest⟩ := Prod.mk.inj (toLex.injective h)
  obtain ⟨hmonth, hday⟩ := Prod.mk.inj (toLex.injective hrest)
  exact Day.ext hyear hmonth hday

instance : LinearOrder Day := LinearOrder.lift' parts parts_injective

theorem lt_iff : d < other ↔ d.year < other.year ∨ d.year = other.year ∧
    (d.month < other.month ∨ d.month = other.month ∧ d.day < other.day) := by
  change d.parts < other.parts ↔ _
  simp [parts, Prod.Lex.toLex_lt_toLex]

theorem yearDays_lt_number (d : Day) : yearDays d.year < d.number := by
  have hone := d.one_le_day
  unfold number
  omega

theorem number_le_yearDays (d : Day) : d.number ≤ yearDays (d.year + 1) := by
  have hday := d.day_le
  have hmonths := daysBefore_succ d.year d.one_le_month
  have hend : daysBefore d.year (d.month + 1) ≤ daysBefore d.year 13 :=
    daysBefore_mono d.year (Nat.succ_pos _) (Nat.succ_le_succ d.month_le)
  rw [daysBefore_end, number]
  omega

theorem number_lt_of_lt (h : d < other) : d.number < other.number := by
  have hday := d.day_le
  have hone := other.one_le_day
  have hmonths := daysBefore_succ d.year d.one_le_month
  rcases lt_iff.mp h with hyear | ⟨hyear, hmonth | ⟨hmonth, hday'⟩⟩
  · calc d.number ≤ yearDays (d.year + 1) := d.number_le_yearDays
      _ ≤ yearDays other.year := yearDays_mono (Int.add_one_le_of_lt hyear)
      _ < other.number := other.yearDays_lt_number
  · have hlater : daysBefore d.year (d.month + 1) ≤ daysBefore d.year other.month :=
      daysBefore_mono d.year (Nat.succ_pos _) hmonth
    unfold number
    simp only [← hyear]
    omega
  · unfold number
    simp only [← hyear, ← hmonth]
    omega

theorem number_lt_iff : d.number < other.number ↔ d < other := by
  refine ⟨fun h => ?_, number_lt_of_lt⟩
  rcases lt_trichotomy d other with hlt | rfl | hgt
  · exact hlt
  · exact absurd h (lt_irrefl _)
  · exact absurd (number_lt_of_lt hgt) (not_lt_of_gt h)

theorem number_le_iff : d.number ≤ other.number ↔ d ≤ other := by
  rw [← not_lt, number_lt_iff, not_lt]

theorem number_injective : Function.Injective number := by
  rintro d other h
  refine le_antisymm (number_le_iff.mp h.le) (number_le_iff.mp h.ge)

@[simp] theorem addDays_zero (d : Day) : d.addDays 0 = d := rfl

theorem year_le (h : d ≤ other) : d.year ≤ other.year := by
  rcases h.lt_or_eq with hlt | rfl
  · rcases lt_iff.mp hlt with hyear | ⟨hyear, _⟩
    · exact hyear.le
    · exact hyear.le
  · exact le_rfl

theorem le_addDays {n : Int} (h : 0 ≤ n) : d ≤ d.addDays n := by
  rw [← number_le_iff, number_addDays]
  omega

/-- Within a year of days the year changes once. -/
theorem year_addDays_le {n : Int} (h : n ≤ 365) : (d.addDays n).year ≤ d.year + 1 := by
  by_contra hyear
  have hlower := (d.addDays n).yearDays_lt_number
  have hupper := d.number_le_yearDays
  have hyears : yearDays (d.year + 2) ≤ yearDays (d.addDays n).year := yearDays_mono (by omega)
  have hlength : yearDays (d.year + 1) + 365 ≤ yearDays (d.year + 2) := by
    unfold yearDays
    omega
  rw [number_addDays] at hlower
  omega

end Day

end Foundation
