import Ticketing.Browser.ScreenReach
import Ticketing.Foundation.Sorting

/-!
# The booking screen from the page of a film

The URL of the booking page can name a film. The page then opens where it is shown first:
at the theater with the lowest id, and on the day of its next start there.
-/

namespace Ticketing

open Foundation JavaScript Python

/-! ## The first theater -/

section Prefill

variable {dateOf : String → Option LocalTime} {compareKo : String → String → Int} {s : Screen}
variable {dataset : Dataset} {theaterId movieId : Int}

/-- The film is in the list of the theater. -/
def Dataset.Lists (dataset : Dataset) (theaterId movieId : Int) : Prop :=
  ∃ movie ∈ getAvailableMovies dataset dataset.movies theaterId, movie.movieId = movieId

variable (compareKo) in
theorem findFirstTheaterIdForMovie_spec (hmovieId : movieId ≠ 0)
    (h : ∃ theater ∈ dataset.theaters, dataset.Lists theater.theaterId movieId) :
    ∃ theater ∈ dataset.theaters, dataset.Lists theater.theaterId movieId ∧
      (∀ other ∈ dataset.theaters, dataset.Lists other.theaterId movieId →
        theater.theaterId ≤ other.theaterId) ∧
      findFirstTheaterIdForMovie compareKo dataset dataset.movies movieId =
        some theater.theaterId := by
  have hlists : ∀ theaterId, ((getAvailableMovies dataset dataset.movies theaterId).any
      fun m => m.movieId = movieId) = true ↔ dataset.Lists theaterId movieId := fun theaterId => by
    simp [Dataset.Lists]
  have hsorted : (getAllTheatersSorted compareKo dataset).Pairwise
      fun a b => a.theaterId ≤ b.theaterId :=
    ByKey.pairwise_insertionSort ⟨fun a b h => by omega, fun a b h => by omega⟩ _
  unfold findFirstTheaterIdForMovie
  rw [if_neg hmovieId]
  cases hfind : (getAllTheatersSorted compareKo dataset).find? fun theater =>
      (getAvailableMovies dataset dataset.movies theater.theaterId).any
        fun m => m.movieId = movieId with
  | none =>
      obtain ⟨theater, htheater, hlisted⟩ := h
      have hnone := List.find?_eq_none.mp hfind theater (mem_getAllTheatersSorted.mpr htheater)
      exact absurd ((hlists _).mpr hlisted) hnone
  | some theater =>
      obtain ⟨hlisted, before, after, hsplit, hbefore⟩ := List.find?_eq_some_iff_append.mp hfind
      rw [hsplit] at hsorted
      refine ⟨theater, mem_getAllTheatersSorted.mp (List.mem_of_find?_eq_some hfind),
        (hlists _).mp hlisted, fun other hother hlisted' => ?_, rfl⟩
      have hmem : other ∈ before ++ theater :: after :=
        hsplit ▸ mem_getAllTheatersSorted.mpr hother
      rcases List.mem_append.mp hmem with hmem | hmem
      · have := hbefore other hmem
        rw [(hlists _).mpr hlisted'] at this
        exact absurd this (by decide)
      · rcases List.mem_cons.mp hmem with rfl | hmem
        · exact le_rfl
        · exact (List.pairwise_cons.mp (List.pairwise_append.mp hsorted).2.1).1 other hmem

theorem LocalTime.day_eq {time other : LocalTime} (h : time.stamp = other.stamp) :
    time.day = other.day :=
  le_antisymm (LocalTime.day_le h.le) (LocalTime.day_le h.ge)

variable (dateOf) in
/-- The film of the URL is selected at the theater, and the day `d`. -/
theorem Screen.prefill_eq (hmovieId : movieId ≠ 0) (htheaterId : theaterId ≠ 0)
    (hknown : ∃ movie ∈ s.movies, movie.movieId = movieId ∧ isMovieActiveForBooking movie = true)
    (hfirst : findFirstTheaterIdForMovie compareKo s.dataset s.movies movieId = some theaterId) :
    ∃ d key, s.applyBookingUrlMoviePrefill dateOf compareKo movieId = { s with
        selectedTheaterId := some theaterId
        selectedMovieId := some movieId
        dateWindowStartKey := dateKey d
        selectedDateKey := key } ∧
      (key = "" ∨ key = dateKey d) ∧
      (futureStarts dateOf s.dataset s.now theaterId movieId = [] ∧ d = s.now.day ∨
        ∃ earliest ∈ futureStarts dateOf s.dataset s.now theaterId movieId, d = earliest.day ∧
          ∀ start ∈ futureStarts dateOf s.dataset s.now theaterId movieId,
            earliest.stamp ≤ start.stamp) := by
  have hany : (s.movies.any fun m => m.movieId = movieId && isMovieActiveForBooking m) = true := by
    simpa using hknown
  simp only [applyBookingUrlMoviePrefill, if_neg hmovieId, hany, if_true, hfirst,
    given_eq_some.mpr ⟨rfl, htheaterId⟩]
  rcases findEarliest_cases dateOf s.dataset theaterId movieId s.now with
    ⟨hnil, hnone⟩ | ⟨earliest, hmem, hsome, hleast⟩
  · rw [hnone]
    exact ⟨s.now.day, "", rfl, .inl rfl, .inl ⟨hnil, rfl⟩⟩
  · rw [hsome]
    exact ⟨earliest.day, dateKey earliest.day, rfl, .inr rfl,
      .inr ⟨earliest, hmem, rfl, hleast⟩⟩

/-- What the page shows that has been opened for a film: the day of its next start at the
theater, with a card for that start. -/
structure Screen.OpenedFor (dateOf : String → Option LocalTime)
    (compareKo : String → String → Int) (now : LocalTime) (dataset : Dataset)
    (theaterId movieId : Int) (page : Screen) : Prop where
  theater : page.selectedTheaterId = some theaterId
  movie : page.selectedMovieId = some movieId
  none_ahead : futureStarts dateOf dataset now theaterId movieId = [] →
    page.selectedDateKey = dateKey now.day
  first_ahead : ∀ schedule ∈ getTheaterSchedules dataset theaterId, schedule.movieId = movieId →
    ∀ start, dateOf schedule.showDate = some start → now.stamp ≤ start.stamp →
      (∀ other ∈ futureStarts dateOf dataset now theaterId movieId,
        start.stamp ≤ other.stamp) →
      page.selectedDateKey = dateKey start.day ∧
        (page.selectedTimeBand = .all → schedule ∈ page.cards dateOf compareKo)

/-- A page that is opened for a film that is in a list shows the first theater that lists
it. -/
theorem mount_prefill (hnow : InRange s.now.day) {opened : Day}
    (hbounds : (ScreenAction.mount opened dataset movieId).InBounds dateOf s)
    (hids : ∀ theater ∈ dataset.theaters, theater.theaterId ≠ 0) (hmovieId : movieId ≠ 0)
    (hlisted : ∃ theater ∈ dataset.theaters, dataset.Lists theater.theaterId movieId) :
    ∃ theater ∈ dataset.theaters, dataset.Lists theater.theaterId movieId ∧
      (∀ other ∈ dataset.theaters, dataset.Lists other.theaterId movieId →
        theater.theaterId ≤ other.theaterId) ∧
      (s.mount dateOf compareKo opened dataset movieId).OpenedFor dateOf compareKo s.now dataset
        theater.theaterId movieId := by
  obtain ⟨theater, htheater, hlists, hleast, hfirst⟩ :=
    findFirstTheaterIdForMovie_spec compareKo hmovieId hlisted
  refine ⟨theater, htheater, hlists, hleast, ?_⟩
  have htheaterId := hids theater htheater
  obtain ⟨movie, hmovie, hid⟩ := hlists
  obtain ⟨hknown, hactive, _⟩ := mem_getAvailableMovies.mp hmovie
  let loaded : Screen := { s with
    dateWindowStartKey := dateKey opened
    dataset := dataset
    movies := dataset.movies }
  obtain ⟨d, key, hfilled, hkey, hday⟩ := Screen.prefill_eq dateOf (s := loaded) hmovieId
    htheaterId ⟨movie, hknown, hid, hactive⟩ hfirst
  unfold Screen.mount
  change Screen.OpenedFor _ _ _ _ _ _ (((loaded.applyBookingUrlMoviePrefill dateOf compareKo
    movieId).ensureStateDefaults compareKo).render compareKo)
  rw [hfilled]
  set filled : Screen := { loaded with
    selectedTheaterId := some theater.theaterId
    selectedMovieId := some movieId
    dateWindowStartKey := dateKey d
    selectedDateKey := key }
  have hd : InRange d ∧ s.now.day ≤ d := by
    rcases hday with ⟨_, rfl⟩ | ⟨earliest, hearliest, rfl, _⟩
    · exact ⟨hnow, le_rfl⟩
    · obtain ⟨schedule, hschedule, _, hdate, hahead⟩ := mem_futureStarts.mp hearliest
      have hmem := (mem_getTheaterSchedules.mp hschedule).1
      exact ⟨hbounds.2.2 schedule hmem earliest hdate, LocalTime.day_le hahead⟩
  have hshown : filled.Shown theater.theaterId movieId :=
    ⟨htheaterId, hmovieId, ⟨theater, htheater, rfl⟩, movie, hmovie, hid⟩
  have hat : filled.At (filled.render compareKo) theater.theaterId movieId :=
    Screen.At.render ⟨⟨rfl, rfl, rfl⟩, rfl, rfl⟩ hshown
  have hdefaults : filled.At (filled.ensureStateDefaults compareKo) theater.theaterId movieId :=
    ⟨⟨hat.dataset, hat.movies, hat.now⟩, hat.theater, hat.movie⟩
  obtain ⟨hwindow, hselected⟩ :=
    Screen.render_day compareKo (s := filled) hshown.ne_nil hd.1 hnow hd.2 rfl hkey
  -- the page is rendered once more, from what the defaults have made of the selection
  have hpage : filled.At ((filled.ensureStateDefaults compareKo).render compareKo)
      theater.theaterId movieId := hdefaults.render hshown
  have hrender := Screen.render_spec compareKo (s := filled.ensureStateDefaults compareKo)
    (hdefaults.dataset ▸ hshown.ne_nil)
  obtain ⟨_, hkept⟩ := Screen.render_day compareKo (s := filled.ensureStateDefaults compareKo)
    (hdefaults.dataset ▸ hshown.ne_nil) hd.1 (hdefaults.now ▸ hnow) (hdefaults.now ▸ hd.2) hwindow
    (.inr hselected)
  generalize (filled.ensureStateDefaults compareKo).render compareKo = page at *
  have hrendered : page.renderedAt = s.now := hrender.renderedAt.trans hdefaults.now
  refine ⟨hpage.theater, hpage.movie, fun hnone => ?_,
    fun schedule hschedule hmovie' start hdate hahead hleast' => ?_⟩
  · rcases hday with ⟨_, rfl⟩ | ⟨earliest, hearliest, _⟩
    · exact hkept
    · rw [hnone] at hearliest
      exact absurd hearliest List.not_mem_nil
  · have hstart : start ∈ futureStarts dateOf dataset s.now theater.theaterId movieId :=
      mem_futureStarts.mpr ⟨schedule, hschedule, hmovie', hdate, hahead⟩
    have hsameDay : d = start.day := by
      rcases hday with ⟨hnone, _⟩ | ⟨earliest, hearliest, rfl, hearlier⟩
      · rw [hnone] at hstart
        exact absurd hstart List.not_mem_nil
      · exact LocalTime.day_eq (le_antisymm (hearlier start hstart) (hleast' earliest hearliest))
    have hdated : page.selectedDateKey = dateKey start.day := hsameDay ▸ hkept
    refine ⟨hdated, fun hall => Screen.mem_cards.mpr ⟨theater.theaterId, start, ?_⟩⟩
    exact {
      theater := given_eq_some.mpr ⟨hpage.theater, htheaterId⟩
      movie := given_eq_some.mpr ⟨hmovie' ▸ hpage.movie, hmovie' ▸ hmovieId⟩
      available := by
        rw [hpage.dataset, hpage.movies]
        exact List.ne_nil_of_mem hmovie
      listed := hpage.dataset ▸ hschedule
      date := hdate
      dated := hdated
      ahead := hrendered ▸ hahead
      band := .inl hall }

theorem mount_prefill_single : ∃ theater ∈ singleDataset.theaters,
    singleDataset.Lists theater.theaterId 7 ∧
      (∀ other ∈ singleDataset.theaters, singleDataset.Lists other.theaterId 7 →
        theater.theaterId ≤ other.theaterId) ∧
      ((Screen.initial singleNow).mount singleDateOf (fun _ _ => 0) singleNow.day singleDataset
        7).OpenedFor singleDateOf (fun _ _ => 0) singleNow singleDataset theater.theaterId 7 :=
  mount_prefill (s := .initial singleNow) ⟨by decide, by decide⟩ (singleDataset_inBounds _ _)
    (by decide) (by decide) ⟨_, List.mem_cons_self, _, mem_getAvailableMovies.mpr
      ⟨List.mem_cons_self, by decide, _, mem_getTheaterSchedules.mpr
        ⟨List.mem_cons_self, _, List.mem_cons_self, rfl, rfl⟩, rfl⟩, rfl⟩

end Prefill

end Ticketing
