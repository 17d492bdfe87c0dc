import Mathlib.Algebra.Ring.Int.Defs
import Mathlib.Data.List.AList
import Mathlib.Data.List.Infix
import Mathlib.Data.List.Lex
import Mathlib.Data.List.Sort
import Ticketing.Python.Row
import Ticketing.Schema

/-!
# The catalog and the list of movies

The columns of the theater tables that no booking changes, the query behind
`GET /api/read/movies`, and the movies that can be booked. How the database
compares text is a parameter.
-/

namespace Ticketing

open Foundation Python

/-- Comparisons under the collation of the database. -/
structure Collation where
  same : String → String → Bool
  /-- `text LIKE 'start%'`. -/
  startsWith : String → String → Bool

/-- A row of `movies`. -/
structure Movie where
  movieId : Int
  title : String
  genre : Option String
  director : Option String
  runtimeMinutes : Int
  posterUrl : Option String
  mainPosterUrl : Option String
  videoUrl : Option String
  audienceCount : Int
  releaseDate : Option Date
  synopsis : Option String
  synopsisLine : Option String
  status : String
  hide : String
deriving DecidableEq

/-- A row of `theaters`. -/
structure Theater where
  theaterId : Int
  address : String
deriving DecidableEq

def movieIx : Indexes Movie Unit := ⟨Movie.movieId, fun _ => none⟩

def theaterIx : Indexes Theater Unit := ⟨Theater.theaterId, fun _ => none⟩

/-- The tables `movies` and `theaters`, and the remaining columns of `halls`,
`hall_seats` and `schedules` by primary key. -/
structure Catalog where
  collation : Collation
  movies : Table movieIx
  theaters : Table theaterIx
  hallName : Int → String
  totalSeats : Int → Int
  /-- `UPPER(COALESCE(hall_seats.status, 'ACTIVE')) = 'ACTIVE'`. -/
  seatActive : Int → Bool
  movieId : Int → Int
  showDate : Int → DateTime

/-- The fields from the year down to the second. -/
def showDateFields (value : DateTime) : List Nat :=
  [value.date.year, value.date.month, value.date.day, value.hour, value.minute, value.second]

/-- `GREATEST(0, s.total_count - IFNULL(bs.cnt, 0))`. -/
def remaining (db : Db) (schedule : Schedule) : Int :=
  max 0 (schedule.totalCount - (db.movies.activeSeats schedule.scheduleId).length)

/-! ## The list of movies -/

def dummyTitle : String := "더미데이터"

/-- The WHERE clause of `_fetch_movies_from_db`. -/
def Movie.isListed (collation : Collation) (movie : Movie) : Bool :=
  collation.same movie.hide "N" &&
    (collation.same movie.status "ACTIVE" || collation.startsWith movie.title dummyTitle ||
      movie.synopsis.any fun text => collation.startsWith text dummyTitle)

/-- The schedules of a movie that are open and have seats left. -/
def sellingSchedules (catalog : Catalog) (db : Db) (movieId : Int) : List Schedule :=
  db.schedules.rows.filter fun row =>
    catalog.movieId row.scheduleId = movieId ∧ row.status = .opened ∧ 0 < remaining db row

/-- `MIN(CASE WHEN .. THEN s.show_date END)`. -/
def nextShowDate (catalog : Catalog) (db : Db) (movieId : Int) : Option DateTime :=
  (((sellingSchedules catalog db movieId).map fun row => catalog.showDate row.scheduleId)
    |>.insertionSort fun left right => showDateFields left ≤ showDateFields right).head?

/-- `SUM(CASE WHEN .. THEN GREATEST(..) ELSE 0 END)`. -/
def totalRemainCount (catalog : Catalog) (db : Db) (movieId : Int) : Int :=
  ((sellingSchedules catalog db movieId).map (remaining db)).sum

/-- A text column that may be NULL. -/
def textColumn (value : Option String) : Scalar :=
  .json (value.elim .null .str)

/-- `_format_release_date_display`, for a column that is a date or NULL. -/
def formatReleaseDateDisplay : Option Date → String
  | none => "-"
  | some date =>
      String.ofList ((Nat.toDigits 10 date.year).drop 2) ++ ". " ++ zfill 2 date.month ++ ". " ++
        zfill 2 date.day

/-- A row of the query in `_fetch_movies_from_db`. -/
def movieRow (catalog : Catalog) (db : Db) (movie : Movie) : Row :=
  [("movie_id", .json (.int movie.movieId)),
    ("title", .json (.str movie.title)),
    ("genre", textColumn movie.genre),
    ("director", textColumn movie.director),
    ("runtime_minutes", .json (.int movie.runtimeMinutes)),
    ("poster_url", textColumn movie.posterUrl),
    ("main_poster_url", textColumn movie.mainPosterUrl),
    ("video_url", textColumn movie.videoUrl),
    ("audience_count", .json (.int movie.audienceCount)),
    ("release_date", movie.releaseDate.elim (.json .null) .date),
    ("synopsis", textColumn movie.synopsis),
    ("synopsis_line", textColumn movie.synopsisLine),
    ("status", .json (.str movie.status)),
    ("hide", .json (.str movie.hide)),
    ("next_show_date", (nextShowDate catalog db movie.movieId).elim (.json .null) .datetime),
    ("total_remain_count", .decimal (totalRemainCount catalog db movie.movieId))]

/-- `_enrich_movie_row`. -/
def enrichMovieRow (movie : Movie) (row : Row) : Row :=
  row ++ [("release_date_display", .json (.str (formatReleaseDateDisplay movie.releaseDate)))]

/-- The movies that the query selects, newest first. -/
def listedMovies (catalog : Catalog) : List Movie :=
  (catalog.movies.rows.filter (Movie.isListed catalog.collation)).insertionSort
    fun left right => right.movieId ≤ left.movieId

/-- `_fetch_movies_from_db`. -/
def fetchMoviesFromDb (catalog : Catalog) (db : Db) : List Row :=
  (listedMovies catalog).map fun movie => enrichMovieRow movie (movieRow catalog db movie)

/-! ## The movies that can be booked -/

/-- `_is_excluded_from_booking`. -/
def isExcludedFromBooking (row : Row) : Bool :=
  let strip := fun column => stripStr ((row.get column).strOr "").toList
  dummyTitle.toList.isPrefixOf (strip "title") || dummyTitle.toList.isPrefixOf (strip "synopsis") ||
    (strip "genre" = "더미".toList && strip "director" = "더미".toList)

/-- The tests of the loop in `_load_movie_cache_rows`. -/
def isBookable (row : Row) : Bool :=
  upperStr ((row.get "status").strOr "") = "ACTIVE".toList &&
    upperStr ((row.get "hide").strOr "N") = "N".toList && !isExcludedFromBooking row

/-- A dictionary from movie ids to rows. -/
abbrev MovieMap := AList fun _ : Int => Row

/-- The loop in `_load_movie_cache_rows`. -/
def movieMap (rows : List Row) : MovieMap :=
  rows.foldl (fun map row =>
    if isBookable row then map.insert (row.get "movie_id").toInt row else map) ∅

/-- A text in the cache: it parses, or it is not JSON. An empty text is taken
for no text. -/
inductive Cached (α : Type) where
  | readable (value : α)
  | broken

/-- What the key of the movie list holds. Only `_write_movies_cache` writes it,
so a text that parses is a list of objects. -/
abbrev MovieListCache := Option (Cached (List (List (String × Json))))

/-- `_write_movies_cache`. -/
def writeMoviesCache (rows : List Row) : MovieListCache :=
  some (.readable (rows.map fun row => row.map fun field => (field.1, field.2.dumped)))

/-- `_load_movie_cache_rows`, with what it leaves in the cache. -/
def loadMovieCacheRows (catalog : Catalog) (db : Db) (cache : MovieListCache) :
    MovieMap × MovieListCache :=
  match cache with
  | some (.readable objects) =>
      (movieMap (objects.map fun fields => fields.map fun field => (field.1, .json field.2)), cache)
  | some .broken => (movieMap [], cache)
  | none =>
      let rows := fetchMoviesFromDb catalog db
      (movieMap rows, writeMoviesCache rows)

end Ticketing
