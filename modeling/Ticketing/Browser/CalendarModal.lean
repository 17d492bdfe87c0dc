import Ticketing.Browser.DateKey

/-!
# The calendar of the booking page

The strip of seven days, the labels of its buttons, and the grid of a month. Labels are
made from the text of a key, which `Date` takes for midnight in UTC.
-/

namespace Ticketing

open Foundation JavaScript Python

/-! ## Labels -/

/-- How many minutes the local time is ahead of UTC, less than a day. -/
structure Zone where
  minutes : Int
  ahead : minutes < 1440
  behind : -1440 < minutes
deriving DecidableEq, Repr

/-- The local day at a minute of a day in UTC. -/
def Zone.dayAt (zone : Zone) (d : Day) (minute : Int) : Day :=
  d.addDays ((minute + zone.minutes) / 1440)

/-- The date form of `Date`: four, two and two digits of a day that exists. -/
def isoDate (text : String) : Option Day :=
  match text.toList.splitOn '-' with
  | [year, month, day] =>
      let y := Nat.ofDigitChars 10 year 0
      let m := Nat.ofDigitChars 10 month 0
      let d := Nat.ofDigitChars 10 day 0
      if h : (year.length = 4 ∧ month.length = 2 ∧ day.length = 2 ∧
          (year ++ month ++ day).all Char.isDigit = true) ∧
          1 ≤ m ∧ m ≤ 12 ∧ 1 ≤ d ∧ d ≤ daysInMonth y m then
        some ⟨y, m, d, h.2.1, h.2.2.1, h.2.2.2.1, h.2.2.2.2⟩
      else none
  | _ => none

/-- What `formatDayLabel` returns. -/
structure DayLabel where
  day : Nat
  week : String
  full : String
deriving DecidableEq, Repr

def weekName (weekday : Int) : String :=
  ["일", "월", "화", "수", "목", "금", "토"].getD weekday.toNat ""

def DayLabel.of (d : Day) : DayLabel := ⟨d.day, weekName d.weekday, dateKey d⟩

/-- `formatDayLabel` of a key. -/
def formatDayLabel (zone : Zone) (key : String) : Option DayLabel :=
  (isoDate key).map fun d => DayLabel.of (zone.dayAt d 0)

theorem isoDate_dateKey {d : Day} (h : FourDigits d) : isoDate (dateKey d) = some d := by
  have hdash : ∀ width n, '-' ∉ padded width n := fun width n hmem =>
    absurd (isDigit_of_mem_padded hmem) (by decide)
  have hsplit : (dateKey d).toList.splitOn '-' =
      [padded 4 d.year.toNat, padded 2 d.month, padded 2 d.day] := by
    rw [toList_dateKey h, List.splitOn_append_cons_self_of_not_mem (hdash _ _),
      List.splitOn_append_cons_self_of_not_mem (hdash _ _), List.splitOn_eq_singleton (hdash _ _)]
  have hmonth := d.month_le
  have hday := d.day_le.trans (daysInMonth_le _ _)
  obtain ⟨hlow, hhigh⟩ := h
  have hyear : (d.year.toNat : Int) = d.year := Int.toNat_of_nonneg (by omega)
  unfold isoDate
  rw [hsplit]
  simp only [ofDigitChars_padded, hyear]
  refine dif_pos ⟨⟨length_padded (by decide) (by omega), length_padded (by decide) (by omega),
    length_padded (by decide) (by omega), ?_⟩, d.one_le_month, d.month_le, d.one_le_day, d.day_le⟩
  simp only [List.all_eq_true, List.mem_append]
  rintro c ((hc | hc) | hc) <;> exact isDigit_of_mem_padded hc

theorem prev_day_ne (d : Day) : d.prev.day ≠ d.day := by
  have hone := d.one_le_day
  unfold Day.prev
  split
  · dsimp only
    omega
  next hday =>
    have hlong : ∀ year month, 28 ≤ daysInMonth year month := by
      intro year month
      unfold daysInMonth
      split
      · split <;> decide
      all_goals decide
    split
    · have := hlong d.year (d.month - 1)
      simp only [Day.last]
      omega
    · have := hlong (d.year - 1) 12
      simp only [Day.last]
      omega

/-- A button is labelled with the day of its key where the local time is not behind UTC, and
with the day before elsewhere. -/
theorem formatDayLabel_iff {zone : Zone} {d : Day} (h : FourDigits d) :
    formatDayLabel zone (dateKey d) = some (DayLabel.of d) ↔ 0 ≤ zone.minutes := by
  have hahead := zone.ahead
  have hbehind := zone.behind
  rw [formatDayLabel, isoDate_dateKey h, Option.map_some, Option.some.injEq, Zone.dayAt]
  constructor
  · intro hlabel
    by_contra hneg
    have hshift : (0 + zone.minutes) / 1440 = -1 := by omega
    rw [hshift] at hlabel
    exact prev_day_ne d (congrArg DayLabel.day hlabel)
  · intro hnonneg
    have hshift : (0 + zone.minutes) / 1440 = 0 := by omega
    rw [hshift, Day.addDays_zero]

theorem formatDayLabel_iff_west : formatDayLabel ⟨-300, by decide, by decide⟩
    (dateKey ⟨2026, 3, 1, by decide, by decide, by decide, by decide⟩) ≠
      some (DayLabel.of ⟨2026, 3, 1, by decide, by decide, by decide, by decide⟩) := fun hlabel =>
  absurd ((formatDayLabel_iff ⟨by decide, by decide⟩).mp hlabel) (by decide)

/-! ## The grid of a month -/

inductive CalCell where
  /-- `is-empty` -/
  | pad
  | button (day : Nat) (key : String) (disabled today selected : Bool)
deriving DecidableEq, Repr

section Grid

variable (view : Day) (todayKey selectedDateKey : String)

/-- The key that `renderCalMonth` writes for a day of the month. -/
def cellKey (day : Nat) : String :=
  toString view.year ++ "-" ++ pad2 view.month ++ "-" ++ pad2 day

def startWeekday : Nat := (localDay view.year (view.month - 1) 1).weekday.toNat

/-- The day before the first of the next month. -/
def lastOfMonth : Nat := (localDay view.year view.month 0).day

def calCell (day : Nat) : CalCell :=
  let dk := cellKey view day
  .button day dk (textLt dk todayKey) (dk = todayKey) (dk = selectedDateKey)

def monthCells : List CalCell :=
  List.replicate (startWeekday view) .pad ++
    (List.range (lastOfMonth view)).map fun i => calCell view todayKey selectedDateKey (i + 1)

def calPrev : Day := localDay view.year (view.month - 1 - 1) 1

def calNext : Day := localDay view.year (view.month - 1 + 1) 1

end Grid

section Month

variable {view d today : Day} {todayKey selectedDateKey : String}

/-- The days of one month. -/
def SameMonth (d view : Day) : Prop := d.year = view.year ∧ d.month = view.month

theorem localDay_first (h : 100 ≤ view.year) : localDay view.year (view.month - 1) 1 =
    .first view.year view.month view.one_le_month view.month_le :=
  localDay_eq (d := .first view.year view.month view.one_le_month view.month_le) h

theorem localDay_zero (h : 100 ≤ view.year) : localDay view.year view.month 0 =
    .last view.year view.month view.one_le_month view.month_le := by
  have hone := view.one_le_month
  have hmonth := view.month_le
  apply Day.number_injective
  unfold localDay
  rw [Day.number_addDays]
  simp only [show ¬ (0 ≤ view.year ∧ view.year ≤ 99) by omega, if_false]
  rcases hmonth.lt_or_eq with hlt | hdecember
  · have hyear : view.year + (view.month : Int) / 12 = view.year := by omega
    have hindex : ((view.month : Int) % 12).toNat = view.month := by omega
    have hmonths := daysBefore_succ view.year hone
    simp only [Day.number, Day.first, Day.last, hyear, hindex]
    omega
  · have hyear : view.year + (view.month : Int) / 12 = view.year + 1 := by omega
    have hindex : ((view.month : Int) % 12).toNat = 0 := by omega
    have hend := daysBefore_end view.year
    have hmonths : daysBefore view.year 13 =
        daysBefore view.year 12 + daysInMonth view.year 12 := rfl
    have hnone : daysBefore (view.year + 1) 1 = 0 := rfl
    simp only [Day.number, Day.first, Day.last, hyear, hindex, hnone]
    rw [hdecember]
    omega

/-- The months are counted through, as the arrows do. -/
def monthIndex (view : Day) : Int := view.year * 12 + view.month

theorem monthIndex_localDay {year monthIndex' : Int} (h : 100 ≤ year) :
    monthIndex (localDay year monthIndex' 1) = year * 12 + monthIndex' + 1 := by
  unfold localDay
  simp only [show ¬ (0 ≤ year ∧ year ≤ 99) by omega, if_false, Int.sub_self, Day.addDays_zero]
  simp only [monthIndex, Day.first]
  omega

theorem monthIndex_calNext (h : 100 ≤ view.year) :
    monthIndex (calNext view) = monthIndex view + 1 := by
  rw [calNext, monthIndex_localDay h, monthIndex]
  omega

theorem monthIndex_calPrev (h : 100 ≤ view.year) :
    monthIndex (calPrev view) = monthIndex view - 1 := by
  rw [calPrev, monthIndex_localDay h, monthIndex]
  omega

theorem sameMonth_of_monthIndex (h : monthIndex d = monthIndex view) : SameMonth d view := by
  have hmonth := d.one_le_month
  have hmonth' := d.month_le
  have hview := view.one_le_month
  have hview' := view.month_le
  simp only [monthIndex] at h
  exact ⟨by omega, by omega⟩

theorem lastOfMonth_eq (h : 100 ≤ view.year) :
    lastOfMonth view = daysInMonth view.year view.month := by
  rw [lastOfMonth, localDay_zero h]
  rfl

theorem startWeekday_eq (h : 100 ≤ view.year) : (startWeekday view : Int) =
    (Day.first view.year view.month view.one_le_month view.month_le).weekday := by
  rw [startWeekday, localDay_first h]
  exact Int.toNat_of_nonneg (Int.emod_nonneg _ (by decide))

theorem cellKey_eq (h : SameMonth d view) : cellKey view d.day = dateKey d := by
  rw [cellKey, dateKey, h.1, h.2]

/-- The place of a day in the grid. -/
def gridIndex (d : Day) : Nat := startWeekday d + (d.day - 1)

theorem gridIndex_eq (h : SameMonth d view) : gridIndex d = startWeekday view + (d.day - 1) := by
  rw [gridIndex, startWeekday, startWeekday, h.1, h.2]

/-- Each column holds the days of one weekday. -/
theorem gridIndex_weekday (h : 100 ≤ d.year) : ((gridIndex d % 7 : Nat) : Int) = d.weekday := by
  have hstart := startWeekday_eq h
  have hone := d.one_le_day
  have hday : d.number =
      (Day.first d.year d.month d.one_le_month d.month_le).number + (d.day - 1) := by
    simp only [Day.number, Day.first]
    omega
  simp only [Day.weekday, gridIndex] at hstart ⊢
  omega

theorem monthCells_getElem? (hview : 100 ≤ view.year) {i : Nat} {cell : CalCell} :
    (monthCells view todayKey selectedDateKey)[i]? = some cell ↔
      i < startWeekday view ∧ cell = .pad ∨
        ∃ d, SameMonth d view ∧ i = gridIndex d ∧
          cell = calCell view todayKey selectedDateKey d.day := by
  rw [monthCells, List.getElem?_append, List.length_replicate, lastOfMonth_eq hview]
  split
  next hpad =>
    rw [List.getElem?_replicate, if_pos hpad, Option.some.injEq]
    constructor
    · rintro rfl
      exact .inl ⟨hpad, rfl⟩
    · rintro (⟨_, rfl⟩ | ⟨d, hsame, hi, _⟩)
      · rfl
      · rw [gridIndex_eq hsame] at hi
        omega
  next hpad =>
    rw [List.getElem?_map, Option.map_eq_some_iff]
    constructor
    · rintro ⟨k, hk, rfl⟩
      obtain ⟨hlt, rfl⟩ := List.getElem?_eq_some_iff.mp hk
      rw [List.length_range] at hlt
      let d : Day := ⟨view.year, view.month, i - startWeekday view + 1, view.one_le_month,
        view.month_le, Nat.le_add_left 1 _, hlt⟩
      have hsame : SameMonth d view := ⟨rfl, rfl⟩
      refine .inr ⟨d, hsame, ?_, by rw [List.getElem_range]⟩
      rw [gridIndex_eq hsame]
      simp only [d]
      omega
    · rintro (⟨hlt, _⟩ | ⟨d, hsame, hi, rfl⟩)
      · exact absurd hlt hpad
      · have hone := d.one_le_day
        have hlast := d.day_le
        rw [hsame.1, hsame.2] at hlast
        rw [gridIndex_eq hsame] at hi
        refine ⟨d.day - 1, ?_, by rw [Nat.sub_add_cancel hone]⟩
        rw [show i - startWeekday view = d.day - 1 by omega]
        exact List.getElem?_range (by omega)

/-- The button of a day can be pressed from today on, and picks that day. -/
theorem calCell_eq (hd : FourDigits d) (hsame : SameMonth d view) (htoday : FourDigits today) :
    calCell view (dateKey today) selectedDateKey d.day =
      .button d.day (dateKey d) (d < today) (d = today) (dateKey d = selectedDateKey) := by
  have hdisabled : textLt (dateKey d) (dateKey today) = decide (d < today) := by
    rw [Bool.eq_iff_iff, textLt_dateKey hd htoday, decide_eq_true_eq]
  have hsameDay : (dateKey d = dateKey today) = (d = today) :=
    propext ⟨dateKey_inj hd htoday, fun h => h ▸ rfl⟩
  simp only [calCell, cellKey_eq hsame, hdisabled, hsameDay]

/-- The grid of a month has a button for each of its days, in the column of its weekday, and
nothing else behind the empty slots. A button can be pressed if its day is not over. -/
theorem calendar_grid (hview : FourDigits view) (htoday : FourDigits today) :
    (∀ d, SameMonth d view → ((gridIndex d % 7 : Nat) : Int) = d.weekday) ∧
      ∀ (i : Nat) (cell : CalCell),
        (monthCells view (dateKey today) selectedDateKey)[i]? = some cell ↔
          i < startWeekday view ∧ cell = .pad ∨
            ∃ d, SameMonth d view ∧ i = gridIndex d ∧
              cell = .button d.day (dateKey d) (d < today) (d = today)
                (dateKey d = selectedDateKey) := by
  have hlow := hview.1
  have hfour : ∀ {d}, SameMonth d view → FourDigits d := fun hsame => by
    rw [FourDigits, hsame.1]
    exact hview
  refine ⟨fun d hsame => gridIndex_weekday (by rw [hsame.1]; omega), fun i cell => ?_⟩
  rw [monthCells_getElem? (by omega)]
  refine or_congr_right (exists_congr fun d => and_congr_right fun hsame =>
    and_congr_right fun _ => ?_)
  rw [calCell_eq (hfour hsame) hsame htoday]

theorem calendar_grid_march :
    let march : Day := ⟨2026, 3, 1, by decide, by decide, by decide, by decide⟩
    ∀ (i : Nat) (cell : CalCell), (monthCells march (dateKey march) "")[i]? = some cell ↔
      i < startWeekday march ∧ cell = .pad ∨
        ∃ d, SameMonth d march ∧ i = gridIndex d ∧
          cell = .button d.day (dateKey d) (d < march) (d = march) (dateKey d = "") :=
  (calendar_grid ⟨by decide, by decide⟩ ⟨by decide, by decide⟩).2

end Month

end Ticketing
