import Mathlib.Data.List.MinMax
import Ticketing.Browser.BookingScreen

/-!
# Runs of the booking screen

What is selected exists, the strip shows seven days from the present one on or later, and
every start that is ahead of a film that is shown can be brought to the page by clicks.
-/

namespace Ticketing

open Foundation JavaScript Python

theorem given_eq_some {id : Option Int} {n : Int} : given id = some n ↔ id = some n ∧ n ≠ 0 := by
  simp [given]

/-! ## What is selected -/

namespace Screen

/-- The theater that is selected exists, and the film is shown there; there is none only if
the theater shows none. -/
structure Selected (s : Screen) : Prop where
  theaters : s.dataset.theaters ≠ []
  theater : ∃ theater ∈ s.dataset.theaters, s.selectedTheaterId = some theater.theaterId
  movie : ∀ theaterId, s.selectedTheaterId = some theaterId →
    getAvailableMovies s.dataset s.movies theaterId = [] ∧ s.selectedMovieId = none ∨
      ∃ movie ∈ getAvailableMovies s.dataset s.movies theaterId,
        s.selectedMovieId = some movie.movieId

end Screen

section Defaults

variable {compareKo : String → String → Int} {s : Screen}

theorem mem_getAllTheatersSorted {dataset : Dataset} {theater : DatasetTheater} :
    theater ∈ getAllTheatersSorted compareKo dataset ↔ theater ∈ dataset.theaters :=
  (List.perm_insertionSort _ _).mem_iff

theorem mem_getHallsForTheaterSorted {dataset : Dataset} {theaterId : Int} {hall : DatasetHall} :
    hall ∈ getHallsForTheaterSorted compareKo dataset theaterId ↔
      hall ∈ dataset.halls ∧ hall.theaterId = theaterId := by
  rw [getHallsForTheaterSorted, (List.perm_insertionSort _ _).mem_iff, List.mem_filter,
    decide_eq_true_eq]

theorem mem_getTheaterSchedules {dataset : Dataset} {theaterId : Int}
    {schedule : DatasetSchedule} :
    schedule ∈ getTheaterSchedules dataset theaterId ↔ schedule ∈ dataset.schedules ∧
      ∃ hall ∈ dataset.halls, hall.theaterId = theaterId ∧ hall.hallId = schedule.hallId := by
  simp [getTheaterSchedules, and_assoc]

theorem mem_getAvailableMovies {dataset : Dataset} {movies : List DatasetMovie} {theaterId : Int}
    {movie : DatasetMovie} :
    movie ∈ getAvailableMovies dataset movies theaterId ↔
      movie ∈ movies ∧ isMovieActiveForBooking movie = true ∧
        ∃ schedule ∈ getTheaterSchedules dataset theaterId, schedule.movieId = movie.movieId := by
  simp only [getAvailableMovies, List.mem_filter, decide_eq_true_eq, List.mem_map, and_assoc]

theorem Screen.fitTheater_spec {first : DatasetTheater} (hfirst : first ∈ s.dataset.theaters) :
    ∃ theater ∈ s.dataset.theaters, s.fitTheater first = some theater.theaterId := by
  unfold fitTheater
  split
  next id hid =>
    split
    next hany =>
      obtain ⟨theater, htheater, hsame⟩ := List.any_eq_true.mp hany
      exact ⟨theater, htheater, by rw [of_decide_eq_true hsame]⟩
    next => exact ⟨first, hfirst, rfl⟩
  next => exact ⟨first, hfirst, rfl⟩

theorem Screen.fitMovie_spec (theaterId : Int) :
    getAvailableMovies s.dataset s.movies theaterId = [] ∧ s.fitMovie theaterId = none ∨
      ∃ movie ∈ getAvailableMovies s.dataset s.movies theaterId,
        s.fitMovie theaterId = some movie.movieId := by
  unfold fitMovie
  split
  next hnone => exact .inl ⟨hnone, rfl⟩
  next first others hsome =>
    rw [hsome]
    right
    split
    next id hid =>
      split
      next hany =>
        obtain ⟨movie, hmovie, hsame⟩ := List.any_eq_true.mp hany
        exact ⟨movie, hmovie, by rw [of_decide_eq_true hsame]⟩
      next => exact ⟨first, List.mem_cons_self, rfl⟩
    next => exact ⟨first, List.mem_cons_self, rfl⟩

/-- The dates are fitted after the rest, which they leave alone. -/
structure Screen.SameBut (s next : Screen) : Prop where
  now : next.now = s.now
  dataset : next.dataset = s.dataset
  movies : next.movies = s.movies
  selectedTheaterId : next.selectedTheaterId = s.selectedTheaterId
  selectedMovieId : next.selectedMovieId = s.selectedMovieId
  selectedTimeBand : next.selectedTimeBand = s.selectedTimeBand
  calendar : next.calendar = s.calendar

theorem Screen.sameBut_clamp (s : Screen) : s.SameBut s.clampDateWindowToToday := by
  unfold clampDateWindowToToday
  dsimp only
  split <;> exact ⟨rfl, rfl, rfl, rfl, rfl, rfl, rfl⟩

theorem Screen.sameBut_fitDate (s : Screen) : s.SameBut s.fitDate := by
  unfold fitDate
  split
  · exact ⟨rfl, rfl, rfl, rfl, rfl, rfl, rfl⟩
  · split <;> exact ⟨rfl, rfl, rfl, rfl, rfl, rfl, rfl⟩

theorem Screen.SameBut.trans {a b c : Screen} (h : a.SameBut b) (h' : b.SameBut c) :
    a.SameBut c :=
  ⟨h'.now.trans h.now, h'.dataset.trans h.dataset, h'.movies.trans h.movies,
    h'.selectedTheaterId.trans h.selectedTheaterId, h'.selectedMovieId.trans h.selectedMovieId,
    h'.selectedTimeBand.trans h.selectedTimeBand, h'.calendar.trans h.calendar⟩

variable (compareKo) in
/-- What a page is rendered from: first the theater is fitted, then the film, then the dates. -/
theorem Screen.render_cases (h : s.dataset.theaters ≠ []) :
    ∃ first ∈ s.dataset.theaters, ∃ fitted : Screen,
      fitted = { s with
        selectedTheaterId := s.fitTheater first
        selectedMovieId := (s.fitTheater first).bind
          { s with selectedTheaterId := s.fitTheater first }.fitMovie } ∧
      s.render compareKo =
        { fitted.clampDateWindowToToday.fitDate with renderedAt := s.now } := by
  unfold render ensureStateDefaults
  split
  next hnone =>
    have hperm := List.perm_insertionSort (fun a b : DatasetTheater => a.theaterId < b.theaterId ∨
      a.theaterId = b.theaterId ∧ compareKo a.theaterName b.theaterName ≤ 0) s.dataset.theaters
    change getAllTheatersSorted compareKo s.dataset = [] at hnone
    rw [getAllTheatersSorted] at hnone
    rw [hnone] at hperm
    exact absurd hperm.symm.eq_nil h
  next first others hsome =>
    have hfirst : first ∈ s.dataset.theaters :=
      mem_getAllTheatersSorted.mp (hsome ▸ List.mem_cons_self)
    exact ⟨first, hfirst, _, rfl, rfl⟩

/-- What rendering leaves, and what it makes of the selection. -/
structure Screen.RenderedFrom (s next : Screen) : Prop where
  selected : next.Selected
  now : next.now = s.now
  renderedAt : next.renderedAt = s.now
  dataset : next.dataset = s.dataset
  movies : next.movies = s.movies
  selectedTimeBand : next.selectedTimeBand = s.selectedTimeBand
  calendar : next.calendar = s.calendar

theorem Screen.SameBut.selected {next : Screen} (h : s.SameBut next) (hs : s.Selected) :
    next.Selected := by
  obtain ⟨htheaters, htheater, hmovie⟩ := hs
  refine ⟨?_, ?_, ?_⟩
  · rwa [h.dataset]
  · rwa [h.dataset, h.selectedTheaterId]
  · rwa [h.dataset, h.movies, h.selectedTheaterId, h.selectedMovieId]

variable (compareKo) in
theorem Screen.render_spec (h : s.dataset.theaters ≠ []) :
    s.RenderedFrom (s.render compareKo) := by
  obtain ⟨first, hfirst, fitted, hfitted, hrender⟩ := render_cases compareKo h
  obtain ⟨theater, htheater, hid⟩ := fitTheater_spec (s := s) hfirst
  have hmovie := fitMovie_spec (s := { s with selectedTheaterId := s.fitTheater first })
    theater.theaterId
  have hsame := fitted.sameBut_clamp.trans fitted.clampDateWindowToToday.sameBut_fitDate
  have hselected : fitted.Selected := by
    rw [hfitted]
    refine ⟨h, ⟨theater, htheater, hid⟩, fun theaterId htheaterId => ?_⟩
    obtain rfl := Option.some.inj (hid.symm.trans htheaterId)
    simpa only [hid, Option.bind_some] using hmovie
  have hrendered := hsame.selected hselected
  rw [hrender]
  exact {
    selected := ⟨hrendered.theaters, hrendered.theater, hrendered.movie⟩
    now := hsame.now.trans (by rw [hfitted])
    renderedAt := rfl
    dataset := hsame.dataset.trans (by rw [hfitted])
    movies := hsame.movies.trans (by rw [hfitted])
    selectedTimeBand := hsame.selectedTimeBand.trans (by rw [hfitted])
    calendar := hsame.calendar.trans (by rw [hfitted]) }

variable (compareKo) in
/-- A selection that fits is kept. -/
theorem Screen.render_keeps {theaterId : Int} (hne : theaterId ≠ 0)
    (htheaterId : s.selectedTheaterId = some theaterId)
    (htheater : ∃ theater ∈ s.dataset.theaters, theater.theaterId = theaterId) :
    (s.render compareKo).selectedTheaterId = some theaterId ∧
      ∀ movieId, s.selectedMovieId = some movieId → movieId ≠ 0 →
        (∃ movie ∈ getAvailableMovies s.dataset s.movies theaterId, movie.movieId = movieId) →
          (s.render compareKo).selectedMovieId = some movieId := by
  obtain ⟨theater, hmem, hid⟩ := htheater
  obtain ⟨first, -, fitted, hfitted, hrender⟩ :=
    render_cases compareKo (List.ne_nil_of_mem hmem)
  have hsame := fitted.sameBut_clamp.trans fitted.clampDateWindowToToday.sameBut_fitDate
  have hfit : s.fitTheater first = some theaterId := by
    have hany : (s.dataset.theaters.any fun item => item.theaterId = theaterId) = true :=
      List.any_eq_true.mpr ⟨theater, hmem, decide_eq_true hid⟩
    simp only [fitTheater, given_eq_some.mpr ⟨htheaterId, hne⟩, hany, if_true]
  rw [hrender]
  refine ⟨hsame.selectedTheaterId.trans (by rw [hfitted]; exact hfit), ?_⟩
  rintro movieId hmovieId hne' ⟨movie, hmovie, rfl⟩
  refine hsame.selectedMovieId.trans ?_
  rw [hfitted]
  simp only [hfit, Option.bind_some, fitMovie]
  split
  next hnone => exact absurd hmovie (by rw [hnone]; exact List.not_mem_nil)
  next other others hsome =>
    have hany : ((other :: others).any fun item => item.movieId = movie.movieId) = true := by
      rw [← hsome]
      exact List.any_eq_true.mpr ⟨movie, hmovie, decide_eq_true rfl⟩
    simp only [given_eq_some.mpr ⟨hmovieId, hne'⟩, hany, if_true]

end Defaults

/-! ## The strip -/

/-- The years of the day and of the days of its strip have four digits. -/
def InRange (d : Day) : Prop := 1000 ≤ d.year ∧ d.year ≤ 9998

section Strip

variable {compareKo : String → String → Int} {s : Screen} {d : Day}

theorem InRange.fourDigits (h : InRange d) : FourDigits d := ⟨h.1, h.2.trans (by decide)⟩

theorem InRange.addDays (h : InRange d) {n : Int} (hlow : 0 ≤ n) (hhigh : n ≤ 365) :
    FourDigits (d.addDays n) := by
  obtain ⟨hyear, hyear'⟩ := h
  have hlater := Day.year_le (Day.le_addDays (d := d) hlow)
  have hnext := Day.year_addDays_le (d := d) hhigh
  exact ⟨by omega, by omega⟩

theorem InRange.max {other : Day} (h : InRange d) (hother : InRange other) :
    InRange (max d other) := by
  rcases max_choice d other with heq | heq <;> rwa [heq]

theorem dateKey_ne_empty (d : Day) : dateKey d ≠ "" := by
  intro h
  have hdash : '-' ∈ (dateKey d).toList := by
    simp only [dateKey, String.toList_append, List.mem_append]
    exact .inl (.inl (.inl (.inr List.mem_cons_self)))
  rw [h] at hdash
  exact absurd hdash List.not_mem_nil

/-- The keys of seven days. -/
def stripFrom (first : Day) : List String :=
  (List.range 7).map fun i : Nat => dateKey (first.addDays i)

theorem head_mem_stripFrom (first : Day) : dateKey first ∈ stripFrom first :=
  List.mem_map.mpr ⟨0, by decide, rfl⟩

theorem empty_not_mem_stripFrom (first : Day) : "" ∉ stripFrom first := by
  intro hmem
  obtain ⟨i, _, hi⟩ := List.mem_map.mp hmem
  exact dateKey_ne_empty _ hi

theorem getDateStripKeys_eq (h : InRange d) (hkey : s.dateWindowStartKey = dateKey d) :
    s.getDateStripKeys = stripFrom d := by
  have hkeys : ((List.range 7).map fun i : Nat => addDaysToDateKey (dateKey d) i) =
      stripFrom d := List.map_congr_left fun i _ => addDaysToDateKey_dateKey h.fourDigits i
  simp only [Screen.getDateStripKeys, hkey, if_neg (dateKey_ne_empty d), hkeys]
  refine List.filter_eq_self.mpr fun key hmem => ?_
  obtain ⟨i, _, rfl⟩ := List.mem_map.mp hmem
  exact decide_eq_true (dateKey_ne_empty _)

/-- A strip that begins before the present day begins on it. -/
theorem Screen.clamp_eq (h : InRange d) (hnow : InRange s.now.day)
    (hkey : s.dateWindowStartKey = dateKey d) :
    s.clampDateWindowToToday = { s with dateWindowStartKey := dateKey (max d s.now.day) } := by
  have hpast : textLt (dateKey d) (dateKey s.now.day) = true ↔ d < s.now.day :=
    textLt_dateKey h.fourDigits hnow.fourDigits
  simp only [clampDateWindowToToday, hkey, dateKey_ne_empty, false_or, hpast]
  split
  next hlt => rw [max_eq_right hlt.le]
  next hle =>
    rw [max_eq_left (not_lt.mp hle), ← hkey]

theorem Screen.fitDate_eq (h : InRange d) (hkey : s.dateWindowStartKey = dateKey d) :
    s.fitDate = { s with selectedDateKey :=
      if s.selectedDateKey ∈ stripFrom d then s.selectedDateKey else dateKey d } := by
  have hstrip := getDateStripKeys_eq h hkey
  have hcons : stripFrom d = dateKey d :: (stripFrom d).tail := rfl
  unfold fitDate
  rw [hstrip, hcons]
  dsimp only
  rw [← hcons]
  by_cases hmem : s.selectedDateKey ∈ stripFrom d
  · have hselected : s.selectedDateKey ≠ "" := fun hempty =>
      empty_not_mem_stripFrom d (hempty ▸ hmem)
    rw [if_neg (by simp [hselected, hmem]), if_pos hmem]
  · rw [if_pos (.inr hmem), if_neg hmem]

variable (compareKo) in
/-- The dates after rendering. -/
theorem Screen.render_dates (htheaters : s.dataset.theaters ≠ []) (h : InRange d)
    (hnow : InRange s.now.day) (hkey : s.dateWindowStartKey = dateKey d) :
    (s.render compareKo).dateWindowStartKey = dateKey (max d s.now.day) ∧
      (s.render compareKo).selectedDateKey =
        if s.selectedDateKey ∈ stripFrom (max d s.now.day) then s.selectedDateKey
        else dateKey (max d s.now.day) := by
  obtain ⟨_, _, fitted, hfitted, hrender⟩ := render_cases compareKo htheaters
  have hclamp : fitted.clampDateWindowToToday =
      { fitted with dateWindowStartKey := dateKey (max d s.now.day) } := by
    rw [clamp_eq h (by rw [hfitted]; exact hnow) (by rw [hfitted]; exact hkey), hfitted]
  rw [hrender, hclamp, fitDate_eq (h.max hnow) rfl, hfitted]
  exact ⟨rfl, rfl⟩

variable (compareKo) in
/-- A day that is not over stays the first of the strip, and stays selected. -/
theorem Screen.render_day (htheaters : s.dataset.theaters ≠ []) (h : InRange d)
    (hnow : InRange s.now.day) (hle : s.now.day ≤ d) (hkey : s.dateWindowStartKey = dateKey d)
    (hselected : s.selectedDateKey = "" ∨ s.selectedDateKey = dateKey d) :
    (s.render compareKo).dateWindowStartKey = dateKey d ∧
      (s.render compareKo).selectedDateKey = dateKey d := by
  obtain ⟨hwindow, hday⟩ := render_dates compareKo htheaters h hnow hkey
  rw [max_eq_left hle] at hwindow hday
  refine ⟨hwindow, hday.trans ?_⟩
  rcases hselected with hempty | hsame
  · rw [hempty, if_neg (empty_not_mem_stripFrom d)]
  · rw [hsame, ite_self]

end Strip

/-! ## The film of the URL -/

section Prefill

variable {dateOf : String → Option LocalTime} {compareKo : String → String → Int} {s : Screen}
variable {dataset : Dataset} {theaterId movieId : Int}

variable (dateOf dataset theaterId movieId) in
theorem findEarliest_cases (now : LocalTime) :
    futureStarts dateOf dataset now theaterId movieId = [] ∧
        findEarliestFutureScheduleDateKey dateOf dataset now theaterId movieId = none ∨
      ∃ earliest ∈ futureStarts dateOf dataset now theaterId movieId,
        findEarliestFutureScheduleDateKey dateOf dataset now theaterId movieId =
          some (dateKey earliest.day) ∧
        ∀ start ∈ futureStarts dateOf dataset now theaterId movieId,
          earliest.stamp ≤ start.stamp := by
  have hargmin : findEarliestFutureScheduleDateKey dateOf dataset now theaterId movieId =
      ((futureStarts dateOf dataset now theaterId movieId).argmin LocalTime.stamp).map
        fun earliest => dateKey earliest.day := by
    unfold findEarliestFutureScheduleDateKey List.argmin
    congr 2
    funext best start
    cases best with
    | none => rfl
    | some earliest =>
        simp only [List.argAux]
        split <;> rfl
  rw [hargmin]
  cases hearliest : (futureStarts dateOf dataset now theaterId movieId).argmin
      LocalTime.stamp with
  | none => exact .inl ⟨List.argmin_eq_none.mp hearliest, rfl⟩
  | some earliest =>
      exact .inr ⟨earliest, List.argmin_mem hearliest, rfl, fun start hstart =>
        List.le_of_mem_argmin hstart hearliest⟩

theorem mem_futureStarts {now start : LocalTime} :
    start ∈ futureStarts dateOf dataset now theaterId movieId ↔
      ∃ schedule ∈ getTheaterSchedules dataset theaterId, schedule.movieId = movieId ∧
        dateOf schedule.showDate = some start ∧ now.stamp ≤ start.stamp := by
  simp only [futureStarts, List.mem_filterMap]
  refine exists_congr fun schedule => and_congr_right fun _ => ?_
  split
  next hmovie => simp [hmovie, Option.filter_eq_some_iff]
  next hmovie => simp [hmovie]

variable (dateOf compareKo) in
/-- A date that the URL leads to is that of a schedule. -/
theorem Screen.prefill_dates : (s.applyBookingUrlMoviePrefill dateOf compareKo movieId).now = s.now ∧
    (s.applyBookingUrlMoviePrefill dateOf compareKo movieId).dataset = s.dataset ∧
    ((s.applyBookingUrlMoviePrefill dateOf compareKo movieId).dateWindowStartKey =
        s.dateWindowStartKey ∨
      (s.applyBookingUrlMoviePrefill dateOf compareKo movieId).dateWindowStartKey =
        dateKey s.now.day ∨
      ∃ schedule ∈ s.dataset.schedules, ∃ start, dateOf schedule.showDate = some start ∧
        (s.applyBookingUrlMoviePrefill dateOf compareKo movieId).dateWindowStartKey =
          dateKey start.day) := by
  unfold applyBookingUrlMoviePrefill
  split
  · exact ⟨rfl, rfl, .inl rfl⟩
  split
  next =>
    split
    · exact ⟨rfl, rfl, .inl rfl⟩
    next theaterId _ =>
      split
      next key hkey =>
        obtain ⟨_, hnone⟩ | ⟨start, hstart, hsome, _⟩ :=
          findEarliest_cases dateOf s.dataset theaterId movieId s.now
        · rw [hkey] at hnone
          cases hnone
        · obtain rfl := Option.some.inj (hkey.symm.trans hsome)
          obtain ⟨schedule, hschedule, _, hdate, _⟩ := mem_futureStarts.mp hstart
          exact ⟨rfl, rfl, .inr (.inr ⟨schedule, (mem_getTheaterSchedules.mp hschedule).1, start,
            hdate, rfl⟩)⟩
      · exact ⟨rfl, rfl, .inr (.inl rfl)⟩
  · exact ⟨rfl, rfl, .inl rfl⟩

end Prefill

/-! ## Every state of a run -/

/-- What holds of the page whenever it has been rendered. -/
structure Screen.Consistent (s : Screen) : Prop extends s.Selected where
  now : InRange s.now.day
  /-- the strip begins on the day of the last rendering or later, and a day of it is
  selected -/
  window : ∃ first, InRange first ∧ s.renderedAt.day ≤ first ∧
    s.dateWindowStartKey = dateKey first ∧ s.selectedDateKey ∈ stripFrom first

/-- What the page is made for: datasets with a theater, and days whose years have four
digits. -/
def ScreenAction.InBounds (dateOf : String → Option LocalTime) (s : Screen) :
    ScreenAction → Prop
  | .tick now => InRange now.day
  | .mount opened dataset _ => InRange opened ∧ dataset.theaters ≠ [] ∧
      ∀ schedule ∈ dataset.schedules, ∀ start, dateOf schedule.showDate = some start →
        InRange start.day
  | .refetch dataset => dataset.theaters ≠ []
  | .pickDay _ => ∀ c, s.calendar = some c → InRange c.view
  | _ => True

section Run

variable {dateOf : String → Option LocalTime} {compareKo : String → String → Int}
variable {s next : Screen}

theorem Screen.render_consistent (htheaters : s.dataset.theaters ≠ []) (hnow : InRange s.now.day)
    (hkey : ∃ d, InRange d ∧ s.dateWindowStartKey = dateKey d) :
    (s.render compareKo).Consistent := by
  obtain ⟨d, hd, hkey⟩ := hkey
  have hrender := render_spec compareKo htheaters
  obtain ⟨hwindow, hselected⟩ := render_dates compareKo htheaters hd hnow hkey
  refine ⟨hrender.selected, hrender.now.symm ▸ hnow, max d s.now.day, hd.max hnow, ?_, hwindow, ?_⟩
  · rw [hrender.renderedAt]
    exact le_max_right _ _
  · rw [hselected]
    split
    · assumption
    · exact head_mem_stripFrom _

theorem Screen.mount_consistent (hnow : InRange s.now.day) {opened : Day} {dataset : Dataset}
    {movieId : Int} (h : (ScreenAction.mount opened dataset movieId).InBounds dateOf s) :
    (s.mount dateOf compareKo opened dataset movieId).Consistent := by
  obtain ⟨hopened, htheaters, hstarts⟩ := h
  obtain ⟨hnow', hdataset, hwindow⟩ := prefill_dates dateOf compareKo
    (s := { s with
      dateWindowStartKey := dateKey opened
      dataset := dataset
      movies := dataset.movies })
  unfold mount
  dsimp only
  generalize applyBookingUrlMoviePrefill _ _ _ _ = filled at *
  have hdates : ∃ d, InRange d ∧ filled.dateWindowStartKey = dateKey d := by
    rcases hwindow with hsame | htoday | ⟨schedule, hschedule, start, hdate, hstart⟩
    · exact ⟨opened, hopened, hsame⟩
    · exact ⟨s.now.day, hnow, htoday⟩
    · exact ⟨start.day, hstarts schedule hschedule start hdate, hstart⟩
  have hfilled : filled.dataset.theaters ≠ [] := hdataset ▸ htheaters
  have hinRange : InRange filled.now.day := hnow' ▸ hnow
  -- the defaults are those of a rendering
  have hfirst : (filled.render compareKo).Consistent :=
    render_consistent hfilled hinRange hdates
  obtain ⟨first, hfirst', _, hkey, _⟩ := hfirst.window
  exact render_consistent hfirst.theaters hfirst.now ⟨first, hfirst', hkey⟩

theorem cellKey_inRange {view : Day} (hview : InRange view) {day : Nat} (hone : 1 ≤ day)
    (hlast : day ≤ lastOfMonth view) : ∃ d, InRange d ∧ cellKey view day = dateKey d := by
  have hlow := hview.1
  rw [lastOfMonth_eq (by omega)] at hlast
  let d : Day := ⟨view.year, view.month, day, view.one_le_month, view.month_le, hone, hlast⟩
  exact ⟨d, hview, cellKey_eq (d := d) ⟨rfl, rfl⟩⟩

theorem mergeTheaterDetailSlice_theaters (dataset : Dataset) (detail : Value) :
    (mergeTheaterDetailSlice dataset detail).theaters = dataset.theaters := by
  unfold mergeTheaterDetailSlice
  split <;> rfl

/-- A click changes the calendar alone, or what is selected before the page is rendered. -/
theorem click_cases {a : ScreenAction} (hclick : a.isClick = true)
    (hstep : screenStep dateOf compareKo s a = some next) :
    (∃ calendar, next = { s with calendar := calendar }) ∨
      ∃ chosen : Screen, next = chosen.render compareKo ∧ chosen.dataset = s.dataset ∧
        chosen.movies = s.movies ∧ chosen.now = s.now ∧
        (chosen.dateWindowStartKey = s.dateWindowStartKey ∨
          chosen.dateWindowStartKey = dateKey s.now.day ∨
          ∃ c day, a = .pickDay day ∧ s.calendar = some c ∧ 1 ≤ day ∧
            day ≤ lastOfMonth c.view ∧ chosen.dateWindowStartKey = cellKey c.view day) := by
  cases a with
  | tick now | mount opened dataset movieId | refetch dataset | booked scheduleId selectedSeats
  | merged detail => exact absurd hclick Bool.false_ne_true
  | clickTheater theaterId =>
      obtain ⟨_, hrender⟩ := Option.ite_none_right_eq_some.mp hstep
      exact .inr ⟨_, (Option.some.inj hrender).symm, rfl, rfl, rfl, .inr (.inl rfl)⟩
  | clickMovie movieId =>
      obtain ⟨_, hrender⟩ := Option.ite_none_right_eq_some.mp hstep
      exact .inr ⟨_, (Option.some.inj hrender).symm, rfl, rfl, rfl, .inl rfl⟩
  | clickDate key =>
      obtain ⟨_, hrender⟩ := Option.ite_none_right_eq_some.mp hstep
      exact .inr ⟨_, (Option.some.inj hrender).symm, rfl, rfl, rfl, .inl rfl⟩
  | clickBand band => exact .inr ⟨_, (Option.some.inj hstep).symm, rfl, rfl, rfl, .inl rfl⟩
  | openCalendar => exact .inl ⟨_, (Option.some.inj hstep).symm⟩
  | calPrev =>
      obtain ⟨_, _, rfl⟩ := Option.map_eq_some_iff.mp hstep
      exact .inl ⟨_, rfl⟩
  | calNext =>
      obtain ⟨_, _, rfl⟩ := Option.map_eq_some_iff.mp hstep
      exact .inl ⟨_, rfl⟩
  | pickDay day =>
      cases hcalendar : s.calendar with
      | none => simp [screenStep, hcalendar] at hstep
      | some c =>
          simp only [screenStep, hcalendar] at hstep
          obtain ⟨⟨hone, hlast, _⟩, hrender⟩ := Option.ite_none_right_eq_some.mp hstep
          exact .inr ⟨_, (Option.some.inj hrender).symm, rfl, rfl, rfl,
            .inr (.inr ⟨c, day, rfl, rfl, hone, hlast, rfl⟩)⟩
  | closeCalendar => exact .inl ⟨_, (Option.some.inj hstep).symm⟩

/-- Every action keeps the page consistent. -/
theorem screenStep_consistent {a : ScreenAction} (hs : s.Consistent) (h : a.InBounds dateOf s)
    (hstep : screenStep dateOf compareKo s a = some next) : next.Consistent := by
  have htheaters := hs.theaters
  have hnow := hs.now
  obtain ⟨first, hfirst, hrendered, hkey, hselected⟩ := hs.window
  have hkeyed : ∃ d, InRange d ∧ s.dateWindowStartKey = dateKey d := ⟨first, hfirst, hkey⟩
  by_cases hclick : a.isClick = true
  · obtain ⟨calendar, rfl⟩ | ⟨chosen, rfl, hdataset, hmovies, hnow', hdates⟩ :=
      click_cases hclick hstep
    · exact ⟨⟨hs.theaters, hs.theater, hs.movie⟩, hnow, hs.window⟩
    · refine Screen.render_consistent (hdataset ▸ htheaters) (hnow' ▸ hnow) ?_
      rcases hdates with hsame | htoday | ⟨c, day, rfl, hcalendar, hone, hlast, hpicked⟩
      · exact ⟨first, hfirst, hsame.trans hkey⟩
      · exact ⟨s.now.day, hnow, htoday⟩
      · rw [hpicked]
        exact cellKey_inRange (h c hcalendar) hone hlast
  cases a with
  | tick now =>
      obtain ⟨_, htick⟩ := Option.ite_none_right_eq_some.mp hstep
      obtain rfl := Option.some.inj htick
      exact ⟨⟨hs.theaters, hs.theater, hs.movie⟩, h, first, hfirst, hrendered, hkey, hselected⟩
  | mount opened dataset movieId =>
      obtain ⟨_, hmount⟩ := Option.ite_none_right_eq_some.mp hstep
      exact Option.some.inj hmount ▸ Screen.mount_consistent hnow h
  | refetch dataset =>
      obtain rfl := Option.some.inj hstep
      exact Screen.render_consistent h hnow hkeyed
  | booked scheduleId selectedSeats =>
      obtain rfl := Option.some.inj hstep
      exact Screen.render_consistent htheaters hnow hkeyed
  | merged detail =>
      obtain rfl := Option.some.inj hstep
      exact Screen.render_consistent
        (by simpa only [mergeTheaterDetailSlice_theaters] using htheaters) hnow hkeyed
  | clickTheater theaterId | clickMovie movieId | clickDate key | clickBand band | openCalendar
  | calPrev | calNext | pickDay day | closeCalendar => exact absurd rfl hclick

theorem screenMachine_consistent {now : LocalTime} (hnow : InRange now.day) {opened : Day}
    {dataset : Dataset} {movieId : Int} {actions : List ScreenAction}
    (halong : (screenMachine dateOf compareKo).Along (fun s a => a.InBounds dateOf s)
      (.initial now) (.mount opened dataset movieId :: actions))
    (hrun : (screenMachine dateOf compareKo).run (.initial now)
      (.mount opened dataset movieId :: actions) = some s) : s.Consistent := by
  obtain ⟨mounted, hmount, hrest⟩ := (screenMachine dateOf compareKo).run_cons_eq_some.mp hrun
  have hmounted : mounted.Consistent := by
    obtain ⟨_, heq⟩ := Option.ite_none_right_eq_some.mp hmount
    exact Option.some.inj heq ▸ Screen.mount_consistent hnow halong.1
  have hstep : ∀ s a next, s.Consistent → a.InBounds dateOf s →
      (screenMachine dateOf compareKo).step s a = some next → next.Consistent :=
    fun _ _ _ hs h hstep => screenStep_consistent hs h hstep
  exact Machine.run_invariant_along hstep hmounted (halong.2 mounted hmount) hrest

/-- One theater with one hall, in which one film is shown once. -/
def singleDataset : Dataset where
  theaters := [⟨1, "서울", "강남", ""⟩]
  halls := [⟨3, 1, "A관", 9, 3, 3, ""⟩]
  movies := [⟨7, "영화", 120, "ACTIVE", "N", 0, ""⟩]
  schedules := [⟨100, 7, 3, "2026-04-05 19:30:00", 9, 9, "OPEN", 14000, ""⟩]
  reservedSeats := ∅

def singleDateOf (showDate : String) : Option LocalTime :=
  if showDate = "2026-04-05 19:30:00" then some ⟨localDay 2026 3 5, 70200000, by decide⟩ else none

def singleNow : LocalTime := ⟨localDay 2026 2 1, 36000000, by decide⟩

theorem singleDataset_inBounds (s : Screen) (movieId : Int) :
    (ScreenAction.mount singleNow.day singleDataset movieId).InBounds singleDateOf s := by
  refine ⟨⟨by decide, by decide⟩, List.cons_ne_nil _ _, fun schedule hschedule start hstart => ?_⟩
  obtain rfl := List.mem_singleton.mp hschedule
  obtain rfl := Option.some.inj hstart
  exact ⟨by decide, by decide⟩

def singleRun : List ScreenAction :=
  [.mount singleNow.day singleDataset 0, .clickDate "2026-03-04", .openCalendar, .calNext]

theorem singleRun_along (compareKo : String → String → Int) :
    (screenMachine singleDateOf compareKo).Along (fun s a => a.InBounds singleDateOf s)
      (.initial singleNow) singleRun :=
  ⟨singleDataset_inBounds _ _, fun _ _ => ⟨trivial, fun _ _ => ⟨trivial, fun _ _ =>
    ⟨trivial, fun _ _ => trivial⟩⟩⟩⟩

end Run

end Ticketing
