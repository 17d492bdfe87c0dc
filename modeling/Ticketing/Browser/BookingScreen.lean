import Mathlib.Data.List.Sort
import Ticketing.Browser.CalendarModal
import Ticketing.Browser.Merge
import Ticketing.Foundation.Machine

/-!
# The booking screen

The state of the theater page: which theater, film, date and hours are selected. Every
click changes some of it and renders; rendering first makes the selection fit the dataset
and the present day. The page is what was rendered last, while the clock goes on.
-/

namespace Ticketing

open Foundation JavaScript Python

/-! ## Time -/

/-- A local time. -/
structure LocalTime where
  day : Day
  millis : Nat
  millis_lt : millis < 86400000
deriving DecidableEq, Repr

/-- `getTime()`, up to a constant; the clock is not changed. -/
def LocalTime.stamp (time : LocalTime) : Int := time.day.number * 86400000 + time.millis

def LocalTime.hour (time : LocalTime) : Nat := time.millis / 3600000

inductive TimeBand where
  | all
  | after13
  | after19
  | late
deriving DecidableEq, Repr

def getTimeBand (time : Option LocalTime) : TimeBand :=
  match time with
  | none => .all
  | some time =>
      let hour := time.hour
      if hour ≥ 23 ∨ hour < 5 then .late
      else if hour ≥ 19 then .after19
      else if hour ≥ 13 then .after13
      else .all

/-! ## The dataset -/

/-- An empty `status` is read as it is, an empty `hide` as `N`. -/
def isMovieActiveForBooking (movie : DatasetMovie) : Bool :=
  let stat := toUpperCase (trimText movie.stat)
  if stat = "Y" then true
  else if stat = "N" then false
  else toUpperCase movie.status = "ACTIVE" ∧
    toUpperCase (if movie.hide = "" then "N" else movie.hide) = "N"

/-- A value that is null, zero or given. -/
def given (id : Option Int) : Option Int := id.filter (· ≠ 0)

section Dataset

-- `parseDateValue` of a `show_date`, and `localeCompare` in Korean
variable (dateOf : String → Option LocalTime) (compareKo : String → String → Int)
variable (dataset : Dataset) (movies : List DatasetMovie)

def getAllTheatersSorted : List DatasetTheater :=
  dataset.theaters.insertionSort fun a b => a.theaterId < b.theaterId ∨
    a.theaterId = b.theaterId ∧ compareKo a.theaterName b.theaterName ≤ 0

def getHallById (hallId : Int) : Option DatasetHall :=
  dataset.halls.find? fun item => item.hallId = hallId

def getTheaterSchedules (theaterId : Int) : List DatasetSchedule :=
  let hallIds := (dataset.halls.filter fun hall => hall.theaterId = theaterId).map
    DatasetHall.hallId
  dataset.schedules.filter fun schedule => schedule.hallId ∈ hallIds

def getHallsForTheaterSorted (theaterId : Int) : List DatasetHall :=
  (dataset.halls.filter fun hall => hall.theaterId = theaterId).insertionSort fun a b =>
    compareKo a.hallName b.hallName ≤ 0

def getAvailableMovies (theaterId : Int) : List DatasetMovie :=
  let movieIds := (getTheaterSchedules dataset theaterId).map DatasetSchedule.movieId
  (movies.filter isMovieActiveForBooking).filter fun movie => movie.movieId ∈ movieIds

def findFirstTheaterIdForMovie (movieId : Int) : Option Int :=
  if movieId = 0 then none
  else
    ((getAllTheatersSorted compareKo dataset).find? fun theater =>
      (getAvailableMovies dataset movies theater.theaterId).any fun m => m.movieId = movieId).map
        DatasetTheater.theaterId

/-- The starts of the film at the theater that are not over. -/
def futureStarts (now : LocalTime) (theaterId movieId : Int) : List LocalTime :=
  (getTheaterSchedules dataset theaterId).filterMap fun schedule =>
    if schedule.movieId = movieId then
      (dateOf schedule.showDate).filter fun start => now.stamp ≤ start.stamp
    else none

/-- The first of several starts at the same time is kept. -/
def findEarliestFutureScheduleDateKey (now : LocalTime) (theaterId movieId : Int) :
    Option String :=
  ((futureStarts dateOf dataset now theaterId movieId).foldl (fun best start =>
    match best with
    | none => some start
    | some earliest => some (if start.stamp < earliest.stamp then start else earliest))
    none).map fun earliest => dateKey earliest.day

end Dataset

/-! ## The state -/

/-- The calendar that is open: its month, and the day on which it was opened. -/
structure CalendarView where
  view : Day
  todayKey : String
deriving DecidableEq, Repr

structure Screen where
  now : LocalTime
  dataset : Dataset
  movies : List DatasetMovie
  selectedTheaterId : Option Int
  selectedMovieId : Option Int
  dateWindowStartKey : String
  selectedDateKey : String
  selectedTimeBand : TimeBand
  calendar : Option CalendarView
  /-- when the page was rendered last -/
  renderedAt : LocalTime

namespace Screen

variable (dateOf : String → Option LocalTime) (compareKo : String → String → Int) (s : Screen)

def clampDateWindowToToday : Screen :=
  let today := dateKey s.now.day
  if s.dateWindowStartKey = "" ∨ textLt s.dateWindowStartKey today = true then
    { s with dateWindowStartKey := today }
  else s

def getDateStripKeys : List String :=
  let start := if s.dateWindowStartKey = "" then dateKey s.now.day else s.dateWindowStartKey
  ((List.range 7).map fun i : Nat => addDaysToDateKey start i).filter (· ≠ "")

/-- The first theater, unless one that exists is selected. -/
def fitTheater (first : DatasetTheater) : Option Int :=
  match given s.selectedTheaterId with
  | some id =>
      if s.dataset.theaters.any fun item => item.theaterId = id then some id
      else some first.theaterId
  | none => some first.theaterId

def fitMovie (theaterId : Int) : Option Int :=
  match getAvailableMovies s.dataset s.movies theaterId with
  | [] => none
  | movie :: others =>
      match given s.selectedMovieId with
      | some id =>
          if (movie :: others).any fun item => item.movieId = id then some id
          else some movie.movieId
      | none => some movie.movieId

def fitDate : Screen :=
  match s.getDateStripKeys with
  | [] => s
  | first :: others =>
      if s.selectedDateKey = "" ∨ s.selectedDateKey ∉ first :: others then
        { s with selectedDateKey := first }
      else s

def ensureStateDefaults : Screen :=
  match getAllTheatersSorted compareKo s.dataset with
  | [] => s
  | first :: _ =>
      let s := { s with selectedTheaterId := s.fitTheater first }
      let s := { s with selectedMovieId := s.selectedTheaterId.bind s.fitMovie }
      s.clampDateWindowToToday.fitDate

def render : Screen := { s.ensureStateDefaults compareKo with renderedAt := s.now }

/-- The film that the URL asks for, if it is shown somewhere. -/
def applyBookingUrlMoviePrefill (movieId : Int) : Screen :=
  if movieId = 0 then s
  else if (s.movies.any fun m => m.movieId = movieId && isMovieActiveForBooking m) = true then
    match given (findFirstTheaterIdForMovie compareKo s.dataset s.movies movieId) with
    | none => s
    | some theaterId =>
        match findEarliestFutureScheduleDateKey dateOf s.dataset s.now theaterId movieId with
        | some key =>
            { s with
              selectedTheaterId := some theaterId
              selectedMovieId := some movieId
              dateWindowStartKey := key
              selectedDateKey := key }
        | none =>
            { s with
              selectedTheaterId := some theaterId
              selectedMovieId := some movieId
              dateWindowStartKey := dateKey s.now.day
              selectedDateKey := "" }
  else s

/-- `mountTheatersMain`, when the dataset has been loaded; loading began on the day
`opened`. -/
def mount (opened : Day) (dataset : Dataset) (movieId : Int) : Screen :=
  let s := { s with
    dateWindowStartKey := dateKey opened
    dataset := dataset
    movies := dataset.movies }
  let s := s.applyBookingUrlMoviePrefill dateOf compareKo movieId
  (s.ensureStateDefaults compareKo).render compareKo

/-- The state of the script before the page has been opened. -/
def initial (now : LocalTime) : Screen where
  now := now
  dataset := ⟨[], [], [], [], ∅⟩
  movies := []
  selectedTheaterId := none
  selectedMovieId := none
  dateWindowStartKey := ""
  selectedDateKey := ""
  selectedTimeBand := .all
  calendar := none
  renderedAt := now

/-! ## The schedules that are shown -/

def getSchedulesForSelection : List DatasetSchedule :=
  match given s.selectedTheaterId, given s.selectedMovieId with
  | some theaterId, some movieId =>
      if s.selectedDateKey = "" then []
      else
        ((getTheaterSchedules s.dataset theaterId).filter fun schedule =>
          schedule.movieId = movieId ∧
            ((dateOf schedule.showDate).map fun start => dateKey start.day).getD "" =
              s.selectedDateKey ∧
            ((dateOf schedule.showDate).any fun start => s.renderedAt.stamp ≤ start.stamp) ∧
            (s.selectedTimeBand = .all ∨
              getTimeBand (dateOf schedule.showDate) = s.selectedTimeBand)).insertionSort
          fun a b => ((dateOf a.showDate).map LocalTime.stamp).getD 0 ≤
            ((dateOf b.showDate).map LocalTime.stamp).getD 0
  | _, _ => []

/-- The halls under which `renderDatePanel` puts the schedules. -/
def listSource (schedules : List DatasetSchedule) (theaterId : Int) : List DatasetHall :=
  match getHallsForTheaterSorted compareKo s.dataset theaterId with
  | [] =>
      ((schedules.map DatasetSchedule.hallId).eraseDups.filterMap
        (getHallById s.dataset)).insertionSort fun a b => compareKo a.hallName b.hallName ≤ 0
  | hall :: others => hall :: others

/-- The cards of the schedules. -/
def cards : List DatasetSchedule :=
  match given s.selectedTheaterId with
  | none => []
  | some theaterId =>
      if getAvailableMovies s.dataset s.movies theaterId = [] ∨
          given s.selectedMovieId = none then []
      else
        let schedules := s.getSchedulesForSelection dateOf
        (s.listSource compareKo schedules theaterId).flatMap fun hall =>
          schedules.filter fun schedule => schedule.hallId = hall.hallId

end Screen

/-- Whether the card can be pressed. -/
def DatasetSchedule.bookable (schedule : DatasetSchedule) : Bool :=
  toUpperCase schedule.status = "OPEN" ∧ 0 < schedule.remainCount

/-! ## Actions -/

inductive ScreenAction where
  | tick (now : LocalTime)
  | mount (opened : Day) (dataset : Dataset) (movieId : Int)
  /-- the cache has been rebuilt, and the dataset is loaded again -/
  | refetch (dataset : Dataset)
  | booked (scheduleId : Int) (selectedSeats : List String)
  /-- the detail of the theater comes in after a booking -/
  | merged (detail : Value)
  | clickTheater (theaterId : Int)
  | clickMovie (movieId : Int)
  | clickDate (key : String)
  | clickBand (band : TimeBand)
  | openCalendar
  | calPrev
  | calNext
  | pickDay (day : Nat)
  | closeCalendar

/-- What the user does on the page. -/
def ScreenAction.isClick : ScreenAction → Bool
  | .tick _ | .mount .. | .refetch _ | .booked .. | .merged _ => false
  | _ => true

section Actions

variable (dateOf : String → Option LocalTime) (compareKo : String → String → Int)

/-- `openCalendarModal` -/
def Screen.openCalendar (s : Screen) : Screen :=
  let todayKey := dateKey s.now.day
  let baseKey := if s.selectedDateKey ≠ "" then s.selectedDateKey
    else if s.dateWindowStartKey ≠ "" then s.dateWindowStartKey
    else todayKey
  { s with calendar := some ⟨(startOfDayFromDateKey baseKey).getD s.now.day, todayKey⟩ }

def screenStep (s : Screen) : ScreenAction → Option Screen
  | .tick now => if s.now.stamp ≤ now.stamp then some { s with now := now } else none
  | .mount opened dataset movieId =>
      if opened ≤ s.now.day then some (s.mount dateOf compareKo opened dataset movieId) else none
  | .refetch dataset =>
      some ({ s with dataset := dataset, movies := dataset.movies }.render compareKo)
  | .booked scheduleId selectedSeats =>
      some ({ s with dataset := onBooked scheduleId selectedSeats s.dataset }.render compareKo)
  | .merged detail =>
      some ({ s with dataset := mergeTheaterDetailSlice s.dataset detail }.render compareKo)
  | .clickTheater theaterId =>
      if s.dataset.theaters.any (fun theater => theater.theaterId = theaterId) = true then
        some ({ s with
          selectedTheaterId := some theaterId
          selectedMovieId := none
          dateWindowStartKey := dateKey s.now.day
          selectedDateKey := "" }.render compareKo)
      else none
  | .clickMovie movieId =>
      let listed := ((given s.selectedTheaterId).map
        (getAvailableMovies s.dataset s.movies)).getD []
      if listed.any (fun movie => movie.movieId = movieId) = true then
        some ({ s with selectedMovieId := some movieId, selectedDateKey := "" }.render compareKo)
      else none
  | .clickDate key =>
      if key ∈ s.getDateStripKeys then
        some ({ s with selectedDateKey := key }.render compareKo)
      else none
  | .clickBand band => some ({ s with selectedTimeBand := band }.render compareKo)
  | .openCalendar => some s.openCalendar
  | .calPrev => s.calendar.map fun c =>
      { s with calendar := some { c with view := Ticketing.calPrev c.view } }
  | .calNext => s.calendar.map fun c =>
      { s with calendar := some { c with view := Ticketing.calNext c.view } }
  | .pickDay day =>
      match s.calendar with
      | none => none
      | some c =>
          let dk := cellKey c.view day
          if 1 ≤ day ∧ day ≤ lastOfMonth c.view ∧ textLt dk c.todayKey = false then
            some ({ s with
              dateWindowStartKey := dk
              selectedDateKey := dk
              calendar := none }.render compareKo)
          else none
  | .closeCalendar => some { s with calendar := none }

def screenMachine : Machine Screen ScreenAction := ⟨screenStep dateOf compareKo⟩

/-- The page while nothing happens but clicks. -/
def clickMachine : Machine Screen ScreenAction :=
  ⟨fun s a => if a.isClick = true then screenStep dateOf compareKo s a else none⟩

end Actions

end Ticketing
