import Ticketing.Browser.ScreenRun

/-!
# What the booking screen can show

The page shows the starts of one theater, one film and one day at a time. Clicks alone bring
every start to it that is ahead, however far.
-/

namespace Ticketing

open Foundation JavaScript Python

/-! ## The cards -/

section Cards

variable {dateOf : String → Option LocalTime} {compareKo : String → String → Int} {s : Screen}
variable {schedule : DatasetSchedule}

/-- A card stands for a schedule of the selected theater, film and day and of the selected
hours, which was not over when the page was rendered. -/
structure Screen.ShowsAt (dateOf : String → Option LocalTime) (s : Screen)
    (schedule : DatasetSchedule) (theaterId : Int) (start : LocalTime) : Prop where
  theater : given s.selectedTheaterId = some theaterId
  movie : given s.selectedMovieId = some schedule.movieId
  available : getAvailableMovies s.dataset s.movies theaterId ≠ []
  listed : schedule ∈ getTheaterSchedules s.dataset theaterId
  date : dateOf schedule.showDate = some start
  dated : s.selectedDateKey = dateKey start.day
  ahead : s.renderedAt.stamp ≤ start.stamp
  band : s.selectedTimeBand = .all ∨ getTimeBand (some start) = s.selectedTimeBand

theorem Screen.mem_getSchedulesForSelection :
    schedule ∈ s.getSchedulesForSelection dateOf ↔ ∃ theaterId start,
      given s.selectedTheaterId = some theaterId ∧
        given s.selectedMovieId = some schedule.movieId ∧
          schedule ∈ getTheaterSchedules s.dataset theaterId ∧
            dateOf schedule.showDate = some start ∧ s.selectedDateKey = dateKey start.day ∧
              s.renderedAt.stamp ≤ start.stamp ∧
                (s.selectedTimeBand = .all ∨ getTimeBand (some start) = s.selectedTimeBand) := by
  unfold getSchedulesForSelection
  cases htheater : given s.selectedTheaterId with
  | none => simp
  | some theaterId =>
    cases hmovie : given s.selectedMovieId with
    | none => simp
    | some movieId =>
      dsimp only
      split
      next hempty =>
        simp only [List.not_mem_nil, false_iff]
        rintro ⟨_, start, _, _, _, _, hdated, _⟩
        exact dateKey_ne_empty start.day (hdated.symm.trans hempty)
      next hdated =>
        rw [(List.perm_insertionSort _ _).mem_iff, List.mem_filter, decide_eq_true_eq]
        constructor
        · rintro ⟨hlisted, rfl, hkey, hahead, hband⟩
          cases hdate : dateOf schedule.showDate with
          | none => simp [hdate] at hahead
          | some start =>
              simp only [hdate, Option.map_some, Option.getD_some, Option.any_some,
                decide_eq_true_eq] at hkey hahead hband
              exact ⟨theaterId, start, rfl, rfl, hlisted, rfl, hkey.symm, hahead, hband⟩
        · rintro ⟨other, start, hother, hsame, hlisted, hdate, hkey, hahead, hband⟩
          obtain rfl := Option.some.inj hother
          obtain rfl := Option.some.inj hsame
          simp only [hdate, Option.map_some, Option.getD_some, Option.any_some,
            decide_eq_true_eq]
          exact ⟨hlisted, trivial, hkey.symm, hahead, hband⟩

theorem Screen.mem_cards : schedule ∈ s.cards dateOf compareKo ↔
    ∃ theaterId start, s.ShowsAt dateOf schedule theaterId start := by
  unfold cards
  constructor
  · intro hmem
    cases htheater : given s.selectedTheaterId with
    | none => simp [htheater] at hmem
    | some theaterId =>
        simp only [htheater] at hmem
        split at hmem
        · exact absurd hmem List.not_mem_nil
        next hnone =>
          obtain ⟨hall, _, hmem⟩ := List.mem_flatMap.mp hmem
          obtain ⟨other, start, hother, hmovie, hlisted, hdate, hdated, hahead, hband⟩ :=
            mem_getSchedulesForSelection.mp (List.mem_filter.mp hmem).1
          obtain rfl := Option.some.inj (htheater.symm.trans hother)
          exact ⟨theaterId, start, htheater, hmovie, (not_or.mp hnone).1, hlisted, hdate, hdated,
            hahead, hband⟩
  · rintro ⟨theaterId, start, h⟩
    have hschedule := mem_getSchedulesForSelection.mpr ⟨theaterId, start, h.theater, h.movie,
      h.listed, h.date, h.dated, h.ahead, h.band⟩
    obtain ⟨_, hall, hhall, hid, hsame⟩ := mem_getTheaterSchedules.mp h.listed
    have hsorted : hall ∈ getHallsForTheaterSorted compareKo s.dataset theaterId :=
      mem_getHallsForTheaterSorted.mpr ⟨hhall, hid⟩
    simp only [h.theater, h.movie, h.available, reduceCtorEq, or_self, if_false]
    refine List.mem_flatMap.mpr ⟨hall, ?_, List.mem_filter.mpr ⟨hschedule, ?_⟩⟩
    · unfold listSource
      split
      next hnil => exact absurd (hnil ▸ hsorted) List.not_mem_nil
      next first others hcons => exact hcons ▸ hsorted
    · exact decide_eq_true hsame.symm

end Cards

/-! ## Clicks -/

/-- The schedule is one of an active film, in a hall of a theater, and still ahead. -/
structure Screen.Offers (s : Screen) (schedule : DatasetSchedule) (start : LocalTime) : Prop where
  listed : schedule ∈ s.dataset.schedules
  hall : ∃ hall ∈ s.dataset.halls, hall.hallId = schedule.hallId ∧ hall.theaterId ≠ 0 ∧
    ∃ theater ∈ s.dataset.theaters, theater.theaterId = hall.theaterId
  movie : schedule.movieId ≠ 0 ∧
    ∃ movie ∈ s.movies, movie.movieId = schedule.movieId ∧ isMovieActiveForBooking movie = true
  ahead : s.now.stamp ≤ start.stamp

/-- What clicks leave alone. -/
structure Screen.Clicked (s next : Screen) : Prop where
  dataset : next.dataset = s.dataset
  movies : next.movies = s.movies
  now : next.now = s.now

section Clicks

variable {dateOf : String → Option LocalTime} {compareKo : String → String → Int}
variable {s next : Screen} {a : ScreenAction} {clicks : List ScreenAction}

theorem clickMachine_step : (clickMachine dateOf compareKo).step s a = some next ↔
    a.isClick = true ∧ screenStep dateOf compareKo s a = some next := Option.ite_none_right_eq_some

theorem clickMachine_keeps (hs : s.Selected)
    (hrun : (clickMachine dateOf compareKo).run s clicks = some next) :
    next.Selected ∧ s.Clicked next := by
  have hstep : ∀ x a y, x.Selected ∧ s.Clicked x →
      (clickMachine dateOf compareKo).step x a = some y → y.Selected ∧ s.Clicked y := by
    rintro x a y ⟨hx, hdataset, hmovies, hnow⟩ hstep
    obtain ⟨hclick, hstep⟩ := clickMachine_step.mp hstep
    obtain ⟨calendar, rfl⟩ | ⟨chosen, rfl, hdataset', hmovies', hnow', _⟩ :=
      click_cases hclick hstep
    · exact ⟨⟨hx.theaters, hx.theater, hx.movie⟩, hdataset, hmovies, hnow⟩
    · have hrender := Screen.render_spec compareKo (hdataset' ▸ hx.theaters)
      exact ⟨hrender.selected, hrender.dataset.trans (hdataset'.trans hdataset),
        hrender.movies.trans (hmovies'.trans hmovies), hrender.now.trans (hnow'.trans hnow)⟩
  exact Machine.run_invariant hstep ⟨hs, rfl, rfl, rfl⟩ hrun

/-- What is brought to the page was on offer. -/
theorem offers_of_shown {schedule : DatasetSchedule} {start : LocalTime} (hs : s.Selected)
    (hdate : dateOf schedule.showDate = some start)
    (hrun : (clickMachine dateOf compareKo).run s clicks = some next)
    (hrendered : next.renderedAt = s.now) (hcard : schedule ∈ next.cards dateOf compareKo) :
    s.Offers schedule start := by
  obtain ⟨hnext, hclicked⟩ := clickMachine_keeps hs hrun
  obtain ⟨theaterId, start', hshows⟩ := Screen.mem_cards.mp hcard
  obtain rfl := Option.some.inj (hdate.symm.trans hshows.date)
  obtain ⟨htheater, htheaterId⟩ := given_eq_some.mp hshows.theater
  obtain ⟨hmovie, hmovieId⟩ := given_eq_some.mp hshows.movie
  obtain ⟨hlisted, hall, hhall, hid, hsame⟩ := mem_getTheaterSchedules.mp hshows.listed
  obtain ⟨theater, hmem, hselected⟩ := hnext.theater
  have hfilm : ∃ movie ∈ getAvailableMovies next.dataset next.movies theaterId,
      next.selectedMovieId = some movie.movieId := by
    rcases hnext.movie theaterId htheater with ⟨hnone, _⟩ | hsome
    · exact absurd hnone hshows.available
    · exact hsome
  obtain ⟨movie, havailable, hselected'⟩ := hfilm
  obtain ⟨hmoviemem, hactive, _⟩ := mem_getAvailableMovies.mp havailable
  rw [hclicked.dataset] at hlisted hhall hmem
  rw [hclicked.movies] at hmoviemem
  refine ⟨hlisted, ⟨hall, hhall, hsame, hid ▸ htheaterId, theater, hmem, ?_⟩,
    ⟨hmovieId, movie, hmoviemem, ?_, hactive⟩, hrendered ▸ hshows.ahead⟩
  · exact (Option.some.inj (htheater.symm.trans hselected)).symm.trans hid.symm
  · exact (Option.some.inj (hmovie.symm.trans hselected')).symm

end Clicks

/-! ## The way to a start -/

/-- Clicks have led to the theater and the film. -/
structure Screen.At (s x : Screen) (theaterId movieId : Int) : Prop extends s.Clicked x where
  theater : x.selectedTheaterId = some theaterId
  movie : x.selectedMovieId = some movieId

/-- A film that is shown at a theater, which the page can select. -/
structure Screen.Shown (s : Screen) (theaterId movieId : Int) : Prop where
  theaterId_ne : theaterId ≠ 0
  movieId_ne : movieId ≠ 0
  theater : ∃ theater ∈ s.dataset.theaters, theater.theaterId = theaterId
  movie : ∃ movie ∈ getAvailableMovies s.dataset s.movies theaterId, movie.movieId = movieId

section Way

variable {dateOf : String → Option LocalTime} {compareKo : String → String → Int}
variable {s x : Screen} {theaterId movieId : Int}

theorem Screen.Shown.ne_nil (h : s.Shown theaterId movieId) : s.dataset.theaters ≠ [] := by
  obtain ⟨theater, hmem, _⟩ := h.theater
  exact List.ne_nil_of_mem hmem

theorem Screen.At.render (hx : s.At x theaterId movieId) (h : s.Shown theaterId movieId) :
    s.At (x.render compareKo) theaterId movieId := by
  have hrender := render_spec compareKo (hx.dataset ▸ h.ne_nil)
  have htheater := h.theater
  have hmovie := h.movie
  rw [← hx.dataset] at htheater
  rw [← hx.dataset, ← hx.movies] at hmovie
  obtain ⟨htheaterId, hmovieId⟩ :=
    render_keeps compareKo h.theaterId_ne hx.theater htheater
  exact ⟨⟨hrender.dataset.trans hx.dataset, hrender.movies.trans hx.movies,
    hrender.now.trans hx.now⟩, htheaterId, hmovieId movieId hx.movie h.movieId_ne hmovie⟩

variable (dateOf compareKo) in
/-- First the theater and the film are clicked, which leaves the strip at the present day. -/
theorem exists_run_at (h : s.Shown theaterId movieId) (hnow : InRange s.now.day) :
    ∃ clicks x, (clickMachine dateOf compareKo).run s clicks = some x ∧
      s.At x theaterId movieId ∧ x.dateWindowStartKey = dateKey s.now.day ∧
        x.selectedDateKey = dateKey s.now.day := by
  obtain ⟨theater, htheater, rfl⟩ := h.theater
  have hnil := h.ne_nil
  let atTheater : Screen := { s with
    selectedTheaterId := some theater.theaterId
    selectedMovieId := none
    dateWindowStartKey := dateKey s.now.day
    selectedDateKey := "" }
  let first := atTheater.render compareKo
  have hfirst : atTheater.RenderedFrom first := Screen.render_spec compareKo hnil
  obtain ⟨hwindow, _⟩ := Screen.render_day compareKo (s := atTheater) hnil hnow hnow le_rfl rfl
    (.inl rfl)
  have htheaterId : first.selectedTheaterId = some theater.theaterId :=
    (Screen.render_keeps compareKo (s := atTheater) h.theaterId_ne rfl ⟨theater, htheater, rfl⟩).1
  have htheaterStep : (clickMachine dateOf compareKo).step s (.clickTheater theater.theaterId) =
      some first := by
    refine clickMachine_step.mpr ⟨rfl, if_pos ?_⟩
    exact List.any_eq_true.mpr ⟨theater, htheater, decide_eq_true rfl⟩
  let atMovie : Screen := { first with selectedMovieId := some movieId, selectedDateKey := "" }
  have hat : s.At atMovie theater.theaterId movieId :=
    ⟨⟨hfirst.dataset, hfirst.movies, hfirst.now⟩, htheaterId, rfl⟩
  obtain ⟨hwindow', hselected⟩ := Screen.render_day compareKo (s := atMovie)
    (hat.dataset ▸ hnil) hnow (hat.now ▸ hnow) (hat.now ▸ le_rfl) hwindow (.inl rfl)
  have hmovieStep : (clickMachine dateOf compareKo).step first (.clickMovie movieId) =
      some (atMovie.render compareKo) := by
    refine clickMachine_step.mpr ⟨rfl, if_pos ?_⟩
    obtain ⟨movie, hmovie, hid⟩ := h.movie
    rw [given_eq_some.mpr ⟨htheaterId, h.theaterId_ne⟩, Option.map_some, Option.getD_some,
      List.any_eq_true]
    refine ⟨movie, ?_, decide_eq_true hid⟩
    rwa [hfirst.dataset, hfirst.movies]
  refine ⟨[.clickTheater theater.theaterId, .clickMovie movieId], atMovie.render compareKo, ?_,
    hat.render h, hwindow', hselected⟩
  rw [Machine.run_cons_eq_some]
  refine ⟨first, htheaterStep, ?_⟩
  rw [Machine.run_cons_eq_some]
  exact ⟨_, hmovieStep, rfl⟩

variable (dateOf compareKo) in
/-- The arrows of the calendar lead to every month of a year with four digits. -/
theorem exists_run_month {c : CalendarView} (hcalendar : x.calendar = some c)
    (hview : InRange c.view) {d : Day} (hd : InRange d) :
    ∃ clicks view, SameMonth d view ∧ (clickMachine dateOf compareKo).run x clicks =
      some { x with calendar := some { c with view := view } } := by
  let opened : Day → Screen := fun view => { x with calendar := some { c with view := view } }
  let inv : Screen → Prop := fun y => ∃ view : Day, y = opened view ∧ 1000 ≤ view.year
  let position : Screen → Int := fun y => (y.calendar.map fun c => monthIndex c.view).getD 0
  have hyear : ∀ view : Day, 12001 ≤ monthIndex view → 1000 ≤ view.year := by
    intro view h
    have hmonth := view.month_le
    simp only [monthIndex] at h
    omega
  have hup : ∀ y, inv y → position y < monthIndex d ⊔ monthIndex c.view →
      ∃ next, (clickMachine dateOf compareKo).step y .calNext = some next ∧ inv next ∧
        position next = position y + 1 := by
    rintro _ ⟨view, rfl, hlow⟩ _
    have hindex : monthIndex (calNext view) = monthIndex view + 1 := monthIndex_calNext (by omega)
    have hmonth := view.one_le_month
    refine ⟨opened (calNext view), clickMachine_step.mpr ⟨rfl, rfl⟩,
      ⟨calNext view, rfl, hyear _ ?_⟩, hindex⟩
    rw [hindex, monthIndex]
    omega
  have hdown : ∀ y, inv y → 12001 < position y →
      ∃ next, (clickMachine dateOf compareKo).step y .calPrev = some next ∧ inv next ∧
        position next = position y - 1 := by
    rintro _ ⟨view, rfl, hlow⟩ hposition
    have hindex : monthIndex (calPrev view) = monthIndex view - 1 := monthIndex_calPrev (by omega)
    change 12001 < monthIndex view at hposition
    exact ⟨opened (calPrev view), clickMachine_step.mpr ⟨rfl, rfl⟩,
      ⟨calPrev view, rfl, hyear _ (by omega)⟩, hindex⟩
  have hinit : inv x := ⟨c.view, by simp only [opened]; rw [← hcalendar], hview.1⟩
  have hlow : 12001 ≤ monthIndex d := by
    have hmonth := d.one_le_month
    have hyear := hd.1
    simp only [monthIndex]
    omega
  obtain ⟨clicks, _, hrun, ⟨view, rfl, _⟩, hposition⟩ := Machine.exists_run_to inv position
    ScreenAction.calNext ScreenAction.calPrev hup hdown hinit hlow le_sup_left
  exact ⟨clicks, view, sameMonth_of_monthIndex hposition.symm, hrun⟩

variable (dateOf compareKo) in
/-- A day that is not over is picked, and stays selected. -/
theorem exists_run_day (hx : s.At x theaterId movieId) (h : s.Shown theaterId movieId)
    (hnow : InRange s.now.day) (hselected : x.selectedDateKey = dateKey s.now.day) {d : Day}
    (hd : InRange d) (hle : s.now.day ≤ d) :
    ∃ clicks y, (clickMachine dateOf compareKo).run x clicks = some y ∧
      s.At y theaterId movieId ∧ y.dateWindowStartKey = dateKey d ∧
        y.selectedDateKey = dateKey d := by
  let c : CalendarView := ⟨s.now.day, dateKey s.now.day⟩
  have hopen : x.openCalendar = { x with calendar := some c } := by
    simp only [Screen.openCalendar, hselected, hx.now, ne_eq, dateKey_ne_empty, not_false_eq_true,
      if_true, startOfDay_dateKey hnow.fourDigits, Option.getD_some, c]
  obtain ⟨arrows, view, hmonth, harrows⟩ := exists_run_month dateOf compareKo
    (x := { x with calendar := some c }) rfl hnow hd
  let opened : Screen := { x with calendar := some { c with view := view } }
  let picked : Screen := { opened with
    dateWindowStartKey := dateKey d
    selectedDateKey := dateKey d
    calendar := none }
  have hat : s.At picked theaterId movieId := ⟨⟨hx.dataset, hx.movies, hx.now⟩, hx.theater, hx.movie⟩
  obtain ⟨hwindow, hkept⟩ := Screen.render_day compareKo (s := picked) (hat.dataset ▸ h.ne_nil) hd
    (hat.now ▸ hnow) (hat.now ▸ hle) rfl (.inr rfl)
  have hpick : (clickMachine dateOf compareKo).step opened (.pickDay d.day) =
      some (picked.render compareKo) := by
    refine clickMachine_step.mpr ⟨rfl, ?_⟩
    have hlast : d.day ≤ lastOfMonth view := by
      have hyear := hd.1
      rw [lastOfMonth_eq (by rw [← hmonth.1]; omega), ← hmonth.1, ← hmonth.2]
      exact d.day_le
    have hahead : textLt (dateKey d) (dateKey s.now.day) = false := by
      rw [Bool.eq_false_iff, ne_eq, textLt_dateKey hd.fourDigits hnow.fourDigits]
      exact not_lt.mpr hle
    simp only [screenStep, opened, c, cellKey_eq hmonth]
    exact if_pos ⟨d.one_le_day, hlast, hahead⟩
  refine ⟨.openCalendar :: (arrows ++ [.pickDay d.day]), picked.render compareKo, ?_,
    hat.render h, hwindow, hkept⟩
  rw [Machine.run_cons_eq_some]
  refine ⟨_, clickMachine_step.mpr ⟨rfl, congrArg some hopen⟩, ?_⟩
  rw [Machine.run_concat_eq_some]
  exact ⟨opened, harrows, hpick⟩

theorem LocalTime.day_le {time other : LocalTime} (h : time.stamp ≤ other.stamp) :
    time.day ≤ other.day := by
  have hmillis := other.millis_lt
  rw [← Day.number_le_iff]
  simp only [stamp] at h
  omega

theorem exists_run_shown {schedule : DatasetSchedule} {start : LocalTime}
    (hdate : dateOf schedule.showDate = some start) (hnow : InRange s.now.day)
    (hstart : start.day.year ≤ 9998) (h : s.Offers schedule start) :
    ∃ clicks final, (clickMachine dateOf compareKo).run s clicks = some final ∧
      final.renderedAt = s.now ∧ schedule ∈ final.cards dateOf compareKo := by
  obtain ⟨hall, hhall, hid, htheaterId, htheater⟩ := h.hall
  obtain ⟨hmovieId, movie, hmovie, hsame, hactive⟩ := h.movie
  have hle := LocalTime.day_le h.ahead
  have hlisted : schedule ∈ getTheaterSchedules s.dataset hall.theaterId :=
    mem_getTheaterSchedules.mpr ⟨h.listed, hall, hhall, rfl, hid⟩
  have havailable : movie ∈ getAvailableMovies s.dataset s.movies hall.theaterId :=
    mem_getAvailableMovies.mpr ⟨hmovie, hactive, schedule, hlisted, hsame.symm⟩
  have hshown : s.Shown hall.theaterId schedule.movieId :=
    ⟨htheaterId, hmovieId, htheater, movie, havailable, hsame⟩
  have hinRange : InRange start.day := ⟨hnow.1.trans (Day.year_le hle), hstart⟩
  obtain ⟨clicks, x, hrun, hx, _, hselected⟩ :=
    exists_run_at dateOf compareKo hshown hnow
  obtain ⟨clicks', y, hrun', hy, hwindow, hpicked⟩ :=
    exists_run_day dateOf compareKo hx hshown hnow hselected hinRange hle
  let all : Screen := { y with selectedTimeBand := .all }
  have hat : s.At all hall.theaterId schedule.movieId :=
    ⟨⟨hy.dataset, hy.movies, hy.now⟩, hy.theater, hy.movie⟩
  have hrender := Screen.render_spec compareKo (s := all) (hat.dataset ▸ hshown.ne_nil)
  have hfinal : s.At (all.render compareKo) hall.theaterId schedule.movieId := hat.render hshown
  obtain ⟨_, hkept⟩ := Screen.render_day compareKo (s := all) (hat.dataset ▸ hshown.ne_nil)
    hinRange (hat.now ▸ hnow) (hat.now ▸ hle) hwindow (.inr hpicked)
  have hrendered : (all.render compareKo).renderedAt = s.now := hrender.renderedAt.trans hat.now
  refine ⟨clicks ++ (clicks' ++ [.clickBand .all]), all.render compareKo, ?_, hrendered,
    Screen.mem_cards.mpr ⟨hall.theaterId, start, ?_⟩⟩
  · rw [Machine.run_append_eq_some]
    refine ⟨x, hrun, ?_⟩
    rw [Machine.run_concat_eq_some]
    exact ⟨y, hrun', clickMachine_step.mpr ⟨rfl, rfl⟩⟩
  · exact {
      theater := given_eq_some.mpr ⟨hfinal.theater, htheaterId⟩
      movie := given_eq_some.mpr ⟨hfinal.movie, hmovieId⟩
      available := by
        rw [hfinal.dataset, hfinal.movies]
        exact List.ne_nil_of_mem havailable
      listed := hfinal.dataset ▸ hlisted
      date := hdate
      dated := hkept
      ahead := hrendered ▸ h.ahead
      band := .inl hrender.selectedTimeBand }

/-- From every page on, clicks bring a start to it, still ahead at that moment, if and only if
the start is ahead and is one of an active film in a hall of a theater. -/
theorem schedule_reachable_iff {now : LocalTime} (hnow : InRange now.day) {opened : Day}
    {dataset : Dataset} {shown : Int} {actions : List ScreenAction}
    (halong : (screenMachine dateOf compareKo).Along (fun s a => a.InBounds dateOf s)
      (.initial now) (.mount opened dataset shown :: actions))
    (hrun : (screenMachine dateOf compareKo).run (.initial now)
      (.mount opened dataset shown :: actions) = some s)
    {schedule : DatasetSchedule} {start : LocalTime}
    (hdate : dateOf schedule.showDate = some start) (hstart : start.day.year ≤ 9998) :
    (∃ clicks final, (clickMachine dateOf compareKo).run s clicks = some final ∧
      final.renderedAt = s.now ∧ schedule ∈ final.cards dateOf compareKo) ↔
        s.Offers schedule start := by
  have hs := screenMachine_consistent hnow halong hrun
  constructor
  · rintro ⟨clicks, final, hclicks, hrendered, hcard⟩
    exact offers_of_shown hs.toSelected hdate hclicks hrendered hcard
  · exact exists_run_shown hdate hs.now hstart

theorem schedule_reachable_iff_single : ∃ s, (screenMachine singleDateOf fun _ _ => 0).run
    (.initial singleNow) singleRun = some s ∧
      ∀ schedule ∈ singleDataset.schedules, ∀ start, singleDateOf schedule.showDate = some start →
        ((∃ clicks final, (clickMachine singleDateOf fun _ _ => 0).run s clicks = some final ∧
          final.renderedAt = s.now ∧ schedule ∈ final.cards singleDateOf fun _ _ => 0) ↔
            s.Offers schedule start) := by
  have hsome : ((screenMachine singleDateOf fun _ _ => 0).run (.initial singleNow)
      singleRun).isSome = true := by decide +kernel
  have hrun := (Option.some_get hsome).symm
  refine ⟨_, hrun, fun schedule hschedule start hstart => ?_⟩
  have hyear : start.day.year ≤ 9998 := by
    obtain rfl := List.mem_singleton.mp hschedule
    obtain rfl := Option.some.inj hstart
    decide
  exact schedule_reachable_iff ⟨by decide, by decide⟩ (singleRun_along _) hrun hstart hyear

end Way

end Ticketing
