import Ticketing.Theater.SeatCache
import Ticketing.Theater.Transparent

/-!
# The movie pages next to the theater pages

`GET /api/read/movie/{movie_id}` and `GET /api/read/theaters/bootstrap` both
report seat counts, each from cache keys of its own. Here the operations run one
after the other, and each of them has all its Redis commands answered.
-/

namespace Ticketing

open Foundation Python

/-! ## What is fetched for a movie -/

/-- `CASE WHEN remain_count <= 0 THEN 'CLOSED' WHEN UPPER(..) = 'CLOSED' THEN
'CLOSED' ELSE 'OPEN' END`. -/
def reportedStatus (db : Db) (row : Schedule) : SaleStatus :=
  if remaining db row ≤ 0 then .closed else if row.status = .closed then .closed else .opened

/-- An item of `schedules` in the detail of a movie. -/
structure MovieSchedule where
  scheduleId : Int
  showDate : DateTime
  totalCount : Int
  remainCount : Int
  status : SaleStatus

structure MovieDetail where
  movie : Row
  schedules : List MovieSchedule

/-- The columns of the first SELECT of `_fetch_movie_detail_from_db`. -/
def movieDetailRow (movie : Movie) : Row :=
  [("movie_id", .json (.int movie.movieId)),
    ("title", .json (.str movie.title)),
    ("genre", textColumn movie.genre),
    ("director", textColumn movie.director),
    ("runtime_minutes", .json (.int movie.runtimeMinutes)),
    ("poster_url", textColumn movie.posterUrl),
    ("main_poster_url", textColumn movie.mainPosterUrl),
    ("video_url", textColumn movie.videoUrl),
    ("audience_count", .json (.int movie.audienceCount)),
    ("release_date", movie.releaseDate.elim (.json .null) .date),
    ("synopsis", textColumn movie.synopsis),
    ("synopsis_line", textColumn movie.synopsisLine),
    ("status", .json (.str movie.status)),
    ("hide", .json (.str movie.hide))]

/-- A row of the second SELECT. -/
def movieSchedule (catalog : Catalog) (db : Db) (row : Schedule) : MovieSchedule where
  scheduleId := row.scheduleId
  showDate := catalog.showDate row.scheduleId
  totalCount := row.totalCount
  remainCount := remaining db row
  status := reportedStatus db row

/-- The second SELECT. It takes schedules of any status. -/
def selectMovieSchedules (catalog : Catalog) (db : Db) (movieId : Int) : List MovieSchedule :=
  ((db.schedules.rows.filter fun row => catalog.movieId row.scheduleId = movieId).map
    (movieSchedule catalog db)).insertionSort
      fun left right => showDateFields left.showDate ≤ showDateFields right.showDate

/-- The first SELECT. -/
def selectListedMovie (catalog : Catalog) (movieId : Int) : Option Movie :=
  catalog.movies.rows.find? fun movie =>
    movie.movieId = movieId ∧ movie.isListed catalog.collation = true

/-- `_fetch_movie_detail_from_db`. -/
def fetchMovieDetailFromDb (catalog : Catalog) (db : Db) (movieId : Int) : Option MovieDetail :=
  (selectListedMovie catalog movieId).map fun movie =>
    { movie := enrichMovieRow movie (movieDetailRow movie)
      schedules := selectMovieSchedules catalog db movieId }

/-! ## The keys -/

/-- The database and the keys of the movie and theater pages. None expires. -/
structure ReadState where
  db : Db
  moviesList : MovieListCache
  details : Int → Option MovieDetail
  bootstrap : Option Bootstrap
  theaterDetails : Int → Option TheaterDetail

/-- `refresh_movie_detail_cache`: the key gets what is fetched, or is deleted. -/
def refreshMovieDetailCache (catalog : Catalog) (db : Db) (details : Int → Option MovieDetail)
    (movieId : Int) : Int → Option MovieDetail :=
  fun other => if other = movieId then fetchMovieDetailFromDb catalog db movieId else details other

/-- The SELECT of `rebuild_movie_cache`. -/
def selectListedIds (catalog : Catalog) : List Int :=
  ((catalog.movies.rows.filter (Movie.isListed catalog.collation)).map Movie.movieId)
    |>.insertionSort (· ≤ ·)

/-- The loop of `warmup_theaters_booking_caches` over the theaters. -/
def writeTheaterDetails (payload : Bootstrap) (theaterDetails : Int → Option TheaterDetail) :
    Int → Option TheaterDetail :=
  payload.theaters.foldl (fun details theater =>
    match theaterDetailFromBootstrap payload theater.theaterId with
    | none => details
    | some detail => fun other =>
        if other = theater.theaterId then some detail else details other) theaterDetails

namespace ReadState

def initial (db : Db) : ReadState := ⟨db, none, fun _ => none, none, fun _ => none⟩

/-- `get_movies`. -/
def getMovies (catalog : Catalog) (s : ReadState) : Except String Json × ReadState :=
  let (body, cache) := Ticketing.getMovies catalog s.db ⟨s.moviesList, none⟩
  (body, { s with moviesList := cache.moviesList })

/-- `_get_movie_detail_payload`; `none` is answered with 404. -/
def getMovieDetail (catalog : Catalog) (s : ReadState) (movieId : Int) :
    Option MovieDetail × ReadState :=
  match s.details movieId with
  | some detail => (some detail, s)
  | none =>
      match fetchMovieDetailFromDb catalog s.db movieId with
      | none => (none, s)
      | some detail =>
          (some detail, { s with
            details := fun other => if other = movieId then some detail else s.details other })

/-- `_build_bootstrap_payload`. -/
def buildBootstrapPayload (catalog : Catalog) (s : ReadState) : Bootstrap × ReadState :=
  let (movieMap, moviesList) := loadMovieCacheRows catalog s.db s.moviesList
  (fetchBootstrapFromDb catalog movieMap s.db s.db s.db, { s with moviesList := moviesList })

/-- `get_theaters_bootstrap`. -/
def getTheatersBootstrap (catalog : Catalog) (s : ReadState) : Bootstrap × ReadState :=
  match s.bootstrap with
  | some payload => (payload, s)
  | none =>
      let (payload, next) := s.buildBootstrapPayload catalog
      (payload, { next with bootstrap := some payload })

/-- `get_theater_detail`; `none` is answered with 404. -/
def getTheaterDetail (catalog : Catalog) (s : ReadState) (theaterId : Int) :
    Option TheaterDetail × ReadState :=
  match s.theaterDetails theaterId with
  | some detail => (some detail, s)
  | none =>
      let (payload, next) := s.buildBootstrapPayload catalog
      match theaterDetailFromBootstrap payload theaterId with
      | none => (none, next)
      | some detail =>
          (some detail, { next with
            bootstrap := some payload
            theaterDetails := fun other =>
              if other = theaterId then some detail else next.theaterDetails other })

/-- `rebuild_movie_cache`. -/
def rebuildMovieCache (catalog : Catalog) (s : ReadState) : ReadState :=
  { s with
    moviesList := writeMoviesCache (fetchMoviesFromDb catalog s.db)
    details := (selectListedIds catalog).foldl (refreshMovieDetailCache catalog s.db) s.details }

/-- `warmup_theaters_booking_caches`. -/
def warmupTheatersBookingCaches (catalog : Catalog) (s : ReadState) : ReadState :=
  let (payload, next) := s.buildBootstrapPayload catalog
  { next with
    bootstrap := some payload
    theaterDetails := writeTheaterDetails payload next.theaterDetails }

/-- The refreshers of `_warmup_all_sync` for these pages. -/
def warmupAll (catalog : Catalog) (s : ReadState) : ReadState :=
  (s.rebuildMovieCache catalog).warmupTheatersBookingCaches catalog

/-- A DEL of theater keys. -/
def deleteKeys (s : ReadState) (keys : List TheaterKey) : ReadState :=
  { s with
    bootstrap := if .bootstrap ∈ keys then none else s.bootstrap
    theaterDetails := fun theaterId =>
      if .detail theaterId ∈ keys then none else s.theaterDetails theaterId }

/-- `process_theater_booking` with its DEL. -/
def book (s : ReadState) (env : Env) (codes : Nat → String) (body : Json) :
    Verdict × ReadState :=
  let (verdict, db) := processTheaterBooking env codes body s.db
  let keys := if verdict.isCommitted then deletedKeys (theaterIdForCache s.db body) else []
  (verdict, { s with db := db }.deleteKeys keys)

/-- `_refund_movie_booking` with its warmup. -/
def refundMovie (catalog : Catalog) (s : ReadState) (env : Env) (userId bookingId : Int) :
    RefundReply × ReadState :=
  let (reply, db) := refundMovieBooking env userId bookingId s.db
  let next := { s with db := db }
  (reply, if reply = .done then next.warmupTheatersBookingCaches catalog else next)

/-- `_refund_concert_booking`, which writes no key of these pages. -/
def refundConcert (s : ReadState) (env : Env) (userId bookingId : Int) : RefundReply × ReadState :=
  let (reply, db) := refundConcertBooking env userId bookingId s.db
  (reply, { s with db := db })

end ReadState

/-- A whole operation. -/
inductive ReadStep where
  | warmup
  | book (env : Env) (codes : Nat → String) (body : Json)
  | refundMovie (env : Env) (userId bookingId : Int)
  | refundConcert (env : Env) (userId bookingId : Int)
  | getMovies
  | getMovieDetail (movieId : Int)
  | getTheatersBootstrap
  | getTheaterDetail (theaterId : Int)

/-- Operations that do not overlap. -/
def readMachine (catalog : Catalog) : Machine ReadState ReadStep where
  step s
    | .warmup => some (s.warmupAll catalog)
    | .book env codes body => some (s.book env codes body).2
    | .refundMovie env userId bookingId => some (s.refundMovie catalog env userId bookingId).2
    | .refundConcert env userId bookingId => some (s.refundConcert env userId bookingId).2
    | .getMovies => some (s.getMovies catalog).2
    | .getMovieDetail movieId => some (s.getMovieDetail catalog movieId).2
    | .getTheatersBootstrap => some (s.getTheatersBootstrap catalog).2
    | .getTheaterDetail theaterId => some (s.getTheaterDetail catalog theaterId).2

/-- The two endpoints report the same count and the same status for every
schedule that both of them list. -/
def ReportsAgree (catalog : Catalog) (s : ReadState) : Prop :=
  ∀ movieId detail, (s.getMovieDetail catalog movieId).1 = some detail →
    ∀ item ∈ detail.schedules, ∀ payload ∈ (s.getTheatersBootstrap catalog).1.schedules,
      payload.scheduleId = item.scheduleId →
        item.remainCount = payload.remainCount ∧ item.status = payload.status

theorem readMachine_total (catalog : Catalog) (s : ReadState) (steps : List ReadStep) :
    ∃ final, (readMachine catalog).run s steps = some final :=
  Machine.run_total (fun _ a => by cases a <;> exact ⟨_, rfl⟩) s steps

end Ticketing
