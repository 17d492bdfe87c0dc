import Ticketing.Movie.Detail
import Ticketing.Theater.Consistency

/-!
# What the movie page and the theater pages show

The theater pages show the schedules of the movies in a map that bookings do not
change. As long as the theater keys are up to date, the movie page and the theater
pages agree exactly if the cached details of the movies do.
-/

namespace Ticketing

open Foundation Python

/-! ## The movies of the theater pages -/

/-- The columns that `isBookable` reads. -/
def bookableColumns : List String := ["status", "hide", "title", "synopsis", "genre", "director"]

/-- A row as `_load_movie_cache_rows` finds it in the cache. -/
def storedRow (row : Row) : Row := row.map fun field => (field.1, .json field.2.dumped)

/-- The movie is in the map of `_load_movie_cache_rows`. -/
def Catalog.BookableMovie (catalog : Catalog) (movieId : Int) : Prop :=
  ∃ movie ∈ catalog.movies.rows, movie.isListed catalog.collation = true ∧
    isBookable (movieDetailRow movie) = true ∧ movie.movieId = movieId

theorem Row.get_append {row : Row} (rest : Row) {column : String}
    (h : column ∈ row.map Prod.fst) : Row.get (row ++ rest) column = row.get column := by
  obtain ⟨field, hfield, rfl⟩ := List.mem_map.mp h
  have hfound : (row.find? fun other => other.1 == field.1).isSome = true :=
    List.find?_isSome.mpr ⟨field, hfield, by simp⟩
  rw [Row.get, List.find?_append, Option.or_of_isSome hfound, Row.get]

theorem get_storedRow (row : Row) (column : String) :
    (storedRow row).get column = .json (row.get column).dumped := by
  rw [Row.get, storedRow, List.find?_map, Option.map_map, Row.get]
  change (Option.map _ (row.find? fun field => field.1 == column)).getD _ = _
  cases row.find? fun field => field.1 == column with
  | none => rfl
  | some field => rfl

theorem isBookable_congr {row other : Row}
    (h : ∀ column ∈ bookableColumns, other.get column = row.get column) :
    isBookable other = isBookable row := by
  simp only [bookableColumns, List.forall_mem_cons] at h
  obtain ⟨hstatus, hhide, htitle, hsynopsis, hgenre, hdirector, _⟩ := h
  simp only [isBookable, isExcludedFromBooking, hstatus, hhide, htitle, hsynopsis, hgenre,
    hdirector]

/-- These columns are texts and numbers, which the cache gives back as they are. -/
theorem get_movieDetailRow (movie : Movie) {column : String}
    (h : column ∈ "movie_id" :: bookableColumns) :
    column ∈ (movieDetailRow movie).map Prod.fst ∧
      Scalar.json ((movieDetailRow movie).get column).dumped =
        (movieDetailRow movie).get column := by
  simp only [bookableColumns, List.mem_cons, List.not_mem_nil, or_false] at h
  rcases h with rfl | rfl | rfl | rfl | rfl | rfl | rfl
  all_goals exact ⟨by simp [movieDetailRow], rfl⟩

/-- What becomes of a row keeps the columns that the loop reads. -/
def KeepsColumns (form : Row → Row) : Prop :=
  ∀ movie rest, ∀ column ∈ "movie_id" :: bookableColumns,
    (form (movieDetailRow movie ++ rest)).get column = (movieDetailRow movie).get column

theorem keepsColumns_id : KeepsColumns id := fun movie rest _ hcolumn =>
  Row.get_append rest (get_movieDetailRow movie hcolumn).1

theorem keepsColumns_storedRow : KeepsColumns storedRow := by
  intro movie rest column hcolumn
  obtain ⟨hmem, hjson⟩ := get_movieDetailRow movie hcolumn
  rw [get_storedRow, Row.get_append rest hmem, hjson]

theorem mem_movieMap {rows : List Row} {movieId : Int} :
    movieId ∈ movieMap rows ↔
      ∃ row ∈ rows, isBookable row = true ∧ (row.get "movie_id").toInt = movieId := by
  have hfold : ∀ map : MovieMap, movieId ∈ rows.foldl (fun map row =>
      if isBookable row then map.insert (row.get "movie_id").toInt row else map) map ↔
        movieId ∈ map ∨
          ∃ row ∈ rows, isBookable row = true ∧ (row.get "movie_id").toInt = movieId := by
    induction rows with
    | nil => simp
    | cons row rest ih =>
        intro map
        rw [List.foldl_cons, ih]
        by_cases hrow : isBookable row = true
        · simp only [hrow, if_true, AList.mem_insert, List.exists_mem_cons_iff, true_and]
          rw [eq_comm, or_comm (a := _ = _), or_assoc]
        · simp [hrow]
  rw [movieMap, hfold]
  simp

/-- The list of movies that was fetched at some time, if any. -/
def MoviesListOk (catalog : Catalog) (cache : MovieListCache) : Prop :=
  cache = none ∨ ∃ db, cache = writeMoviesCache (fetchMoviesFromDb catalog db)

theorem mem_fetchMovies {catalog : Catalog} {db : Db} {row : Row} :
    row ∈ fetchMoviesFromDb catalog db ↔
      ∃ movie ∈ catalog.movies.rows, movie.isListed catalog.collation = true ∧
        enrichMovieRow movie (movieRow catalog db movie) = row := by
  simp [fetchMoviesFromDb, listedMovies, List.mem_insertionSort, and_assoc]

/-- The columns of the query for the list that the detail does not have. -/
def listedRest (catalog : Catalog) (db : Db) (movie : Movie) : Row :=
  [("next_show_date", (nextShowDate catalog db movie.movieId).elim (.json .null) .datetime),
    ("total_remain_count", .decimal (totalRemainCount catalog db movie.movieId)),
    ("release_date_display", .json (.str (formatReleaseDateDisplay movie.releaseDate)))]

/-- Bookings do not move a movie into the map or out of it. -/
theorem KeepsColumns.mem_movieMap {form : Row → Row} (hform : KeepsColumns form)
    {catalog : Catalog} {db : Db} {movieId : Int} :
    movieId ∈ movieMap ((fetchMoviesFromDb catalog db).map form) ↔
      catalog.BookableMovie movieId := by
  have hbookable : ∀ movie, isBookable (form (enrichMovieRow movie (movieRow catalog db movie))) =
      isBookable (movieDetailRow movie) := fun movie =>
    isBookable_congr fun column hcolumn =>
      hform movie (listedRest catalog db movie) column (List.mem_cons_of_mem _ hcolumn)
  have hid : ∀ movie, ((form (enrichMovieRow movie (movieRow catalog db movie))).get
      "movie_id").toInt = movie.movieId := fun movie =>
    congrArg Scalar.toInt
      (hform movie (listedRest catalog db movie) "movie_id" List.mem_cons_self)
  rw [Ticketing.mem_movieMap]
  constructor
  · rintro ⟨_, hmem, hrow⟩
    obtain ⟨_, hfetched, rfl⟩ := List.mem_map.mp hmem
    obtain ⟨movie, hmovie, hlisted, rfl⟩ := mem_fetchMovies.mp hfetched
    rw [hbookable, hid] at hrow
    exact ⟨movie, hmovie, hlisted, hrow⟩
  · rintro ⟨movie, hmovie, hlisted, hmovieBookable, rfl⟩
    have hfetched : enrichMovieRow movie (movieRow catalog db movie) ∈
        fetchMoviesFromDb catalog db := mem_fetchMovies.mpr ⟨movie, hmovie, hlisted, rfl⟩
    refine ⟨_, List.mem_map_of_mem hfetched, ?_, hid movie⟩
    rw [hbookable, hmovieBookable]

/-- The map has the same movies at any time, from the database or from the cache. -/
theorem mem_loadMovieCacheRows {catalog : Catalog} {db : Db} {cache : MovieListCache}
    (hok : MoviesListOk catalog cache) {movieId : Int} :
    movieId ∈ (loadMovieCacheRows catalog db cache).1 ↔ catalog.BookableMovie movieId := by
  rcases hok with rfl | ⟨fetched, rfl⟩
  · have hmem : movieId ∈ movieMap ((fetchMoviesFromDb catalog db).map id) ↔
        catalog.BookableMovie movieId := keepsColumns_id.mem_movieMap
    rwa [List.map_id] at hmem
  · have hmem : movieId ∈ movieMap ((fetchMoviesFromDb catalog fetched).map storedRow) ↔
        catalog.BookableMovie movieId := keepsColumns_storedRow.mem_movieMap
    rw [← hmem]
    simp only [loadMovieCacheRows, writeMoviesCache, List.map_map, Function.comp_def]
    rfl

theorem loadMovieCacheRows_ok {catalog : Catalog} {db : Db} {cache : MovieListCache}
    (hok : MoviesListOk catalog cache) :
    MoviesListOk catalog (loadMovieCacheRows catalog db cache).2 := by
  rcases hok with rfl | ⟨fetched, rfl⟩
  · exact .inr ⟨db, rfl⟩
  · exact .inr ⟨fetched, rfl⟩

/-! ## What the pages show -/

/-- The theater pages show the schedule. -/
def Shown (catalog : Catalog) (row : Schedule) : Prop :=
  row.status ≠ .other ∧ catalog.BookableMovie (catalog.movieId row.scheduleId)

/-- The payload has the shown schedules, with their counts in this database. -/
def Bootstrap.Shows (catalog : Catalog) (db : Db) (payload : Bootstrap) : Prop :=
  ∀ item, item ∈ payload.schedules ↔
    ∃ row ∈ db.schedules.rows, Shown catalog row ∧ schedulePayload catalog db row = item

/-- The keys of the theater pages are up to date. -/
structure PagesOk (catalog : Catalog) (s : ReadState) : Prop where
  moviesList : MoviesListOk catalog s.moviesList
  bootstrap : ∀ payload, s.bootstrap = some payload → payload.Shows catalog s.db

/-- What the detail of a movie says about a schedule is what the theater pages
say, if they show it. -/
def MovieSchedule.Agrees (catalog : Catalog) (db : Db) (item : MovieSchedule) : Prop :=
  ∀ row ∈ db.schedules.rows, Shown catalog row → row.scheduleId = item.scheduleId →
    item.remainCount = remaining db row ∧ item.status = reportedStatus db row

/-- Every item of the cached details agrees. -/
def DetailsAgree (catalog : Catalog) (db : Db) (details : Int → Option MovieDetail) : Prop :=
  ∀ movieId detail, details movieId = some detail → ∀ item ∈ detail.schedules,
    item.Agrees catalog db

section Pages

variable {catalog : Catalog} {s : ReadState}

theorem buildBootstrapPayload_shows (hlist : MoviesListOk catalog s.moviesList) :
    (s.buildBootstrapPayload catalog).1.Shows catalog s.db := by
  intro item
  rw [ReadState.buildBootstrapPayload]
  simp only [mem_schedules, mem_loadMovieCacheRows hlist, Shown, and_assoc]

theorem getTheatersBootstrap_shows (hok : PagesOk catalog s) :
    (s.getTheatersBootstrap catalog).1.Shows catalog s.db := by
  unfold ReadState.getTheatersBootstrap
  cases h : s.bootstrap with
  | some payload => exact hok.bootstrap payload h
  | none => exact buildBootstrapPayload_shows hok.moviesList

theorem mem_fetchMovieDetail {db : Db} {movieId : Int} {detail : MovieDetail}
    (h : fetchMovieDetailFromDb catalog db movieId = some detail) {item : MovieSchedule} :
    item ∈ detail.schedules ↔
      ∃ row ∈ db.schedules.rows, catalog.movieId row.scheduleId = movieId ∧
        movieSchedule catalog db row = item := by
  obtain ⟨movie, _, rfl⟩ := Option.map_eq_some_iff.mp h
  simp [selectMovieSchedules, List.mem_insertionSort, and_assoc]

/-- What is fetched now agrees. -/
theorem fetchMovieDetail_agrees {db : Db} {movieId : Int} {detail : MovieDetail}
    (h : fetchMovieDetailFromDb catalog db movieId = some detail) {item : MovieSchedule}
    (hitem : item ∈ detail.schedules) : item.Agrees catalog db := by
  obtain ⟨row, hrow, _, rfl⟩ := (mem_fetchMovieDetail h).mp hitem
  intro other hother _ hid
  obtain rfl := db.schedules.eq_of_pk_eq hother hrow hid
  exact ⟨rfl, rfl⟩

theorem getMovieDetail_fst (s : ReadState) (movieId : Int) :
    (s.getMovieDetail catalog movieId).1 =
      (s.details movieId).or (fetchMovieDetailFromDb catalog s.db movieId) := by
  unfold ReadState.getMovieDetail
  cases s.details movieId with
  | some detail => rfl
  | none =>
      cases fetchMovieDetailFromDb catalog s.db movieId with
      | some detail => rfl
      | none => rfl

/-- With theater keys that are up to date, it is the cached details that count. -/
theorem reportsAgree_iff (hok : PagesOk catalog s) :
    ReportsAgree catalog s ↔ DetailsAgree catalog s.db s.details := by
  have hshows := getTheatersBootstrap_shows hok
  constructor
  · intro hagree movieId detail hdetail item hitem row hrow hshown hid
    refine hagree movieId detail ?_ item hitem (schedulePayload catalog s.db row) ?_ hid
    · rw [getMovieDetail_fst, hdetail, Option.some_or]
    · exact (hshows _).mpr ⟨row, hrow, hshown, rfl⟩
  · intro hagree movieId detail hdetail item hitem payload hpayload hid
    obtain ⟨row, hrow, hshown, rfl⟩ := (hshows payload).mp hpayload
    rw [getMovieDetail_fst] at hdetail
    rcases Option.or_eq_some_iff.mp hdetail with hcached | ⟨_, hfetched⟩
    · exact hagree movieId detail hcached item hitem row hrow hshown hid
    · exact fetchMovieDetail_agrees hfetched hitem row hrow hshown hid

end Pages

/-! ## Operations that only fill keys -/

/-- The database stays, and a movie key that changes gets what is fetched. -/
structure Refreshes (catalog : Catalog) (s next : ReadState) : Prop where
  db_eq : next.db = s.db
  pages : PagesOk catalog next
  details : ∀ movieId, next.details movieId = s.details movieId ∨
    next.details movieId = fetchMovieDetailFromDb catalog s.db movieId

section Refresh

variable {catalog : Catalog} {s : ReadState}

theorem warmupTheaters_pagesOk (hlist : MoviesListOk catalog s.moviesList) :
    PagesOk catalog (s.warmupTheatersBookingCaches catalog) where
  moviesList := loadMovieCacheRows_ok hlist
  bootstrap := by
    intro payload hpayload
    obtain rfl := Option.some.inj hpayload
    exact buildBootstrapPayload_shows hlist

theorem getMovies_refreshes (hok : PagesOk catalog s) :
    Refreshes catalog s (s.getMovies catalog).2 where
  db_eq := rfl
  pages := by
    refine ⟨?_, hok.bootstrap⟩
    unfold ReadState.getMovies Ticketing.getMovies
    rcases hok.moviesList with hnone | ⟨fetched, hstored⟩
    · rw [hnone]
      exact .inr ⟨s.db, rfl⟩
    · rw [hstored]
      exact .inr ⟨fetched, rfl⟩
  details := fun _ => .inl rfl

theorem getMovieDetail_refreshes (hok : PagesOk catalog s) (movieId : Int) :
    Refreshes catalog s (s.getMovieDetail catalog movieId).2 := by
  have hsame : Refreshes catalog s s := ⟨rfl, hok, fun _ => .inl rfl⟩
  unfold ReadState.getMovieDetail
  cases s.details movieId with
  | some detail => exact hsame
  | none =>
      cases hfetched : fetchMovieDetailFromDb catalog s.db movieId with
      | none => exact hsame
      | some detail =>
          refine ⟨rfl, ⟨hok.moviesList, hok.bootstrap⟩, fun other => ?_⟩
          dsimp only
          split
          next hother => exact .inr (by rw [hother, hfetched])
          next => exact .inl rfl

theorem getTheatersBootstrap_refreshes (hok : PagesOk catalog s) :
    Refreshes catalog s (s.getTheatersBootstrap catalog).2 := by
  unfold ReadState.getTheatersBootstrap
  cases s.bootstrap with
  | some payload => exact ⟨rfl, hok, fun _ => .inl rfl⟩
  | none =>
      have hpages := warmupTheaters_pagesOk hok.moviesList
      exact ⟨rfl, ⟨hpages.moviesList, hpages.bootstrap⟩, fun _ => .inl rfl⟩

theorem getTheaterDetail_refreshes (hok : PagesOk catalog s) (theaterId : Int) :
    Refreshes catalog s (s.getTheaterDetail catalog theaterId).2 := by
  have hpages := warmupTheaters_pagesOk hok.moviesList
  unfold ReadState.getTheaterDetail
  cases s.theaterDetails theaterId with
  | some detail => exact ⟨rfl, hok, fun _ => .inl rfl⟩
  | none =>
      dsimp only
      split
      next => exact ⟨rfl, ⟨hpages.moviesList, hok.bootstrap⟩, fun _ => .inl rfl⟩
      next => exact ⟨rfl, ⟨hpages.moviesList, hpages.bootstrap⟩, fun _ => .inl rfl⟩

theorem foldl_refreshMovieDetailCache {db : Db} (movieIds : List Int)
    (details : Int → Option MovieDetail) (movieId : Int) :
    movieIds.foldl (refreshMovieDetailCache catalog db) details movieId =
      if movieId ∈ movieIds then fetchMovieDetailFromDb catalog db movieId
      else details movieId := by
  induction movieIds generalizing details with
  | nil => rfl
  | cons first rest ih =>
      rw [List.foldl_cons, ih, refreshMovieDetailCache]
      by_cases hrest : movieId ∈ rest
      · rw [if_pos hrest, if_pos (List.mem_cons_of_mem first hrest)]
      · by_cases hfirst : movieId = first
        · rw [if_neg hrest, if_pos hfirst, if_pos (hfirst ▸ List.mem_cons_self), hfirst]
        · rw [if_neg hrest, if_neg hfirst, if_neg (by simp [hfirst, hrest])]

theorem mem_selectListedIds {movieId : Int} :
    movieId ∈ selectListedIds catalog ↔ (selectListedMovie catalog movieId).isSome = true := by
  simp [selectListedIds, selectListedMovie, List.mem_insertionSort, and_comm, and_left_comm]

/-- A warmup renews every key of a movie that is listed. -/
theorem warmupAll_details (movieId : Int) :
    (s.warmupAll catalog).details movieId =
      if (selectListedMovie catalog movieId).isSome then
        fetchMovieDetailFromDb catalog s.db movieId
      else s.details movieId := by
  change (selectListedIds catalog).foldl _ s.details movieId = _
  rw [foldl_refreshMovieDetailCache]
  simp only [mem_selectListedIds]

theorem warmupAll_refreshes : Refreshes catalog s (s.warmupAll catalog) where
  db_eq := rfl
  pages := warmupTheaters_pagesOk (.inr ⟨s.db, rfl⟩)
  details := by
    intro movieId
    rw [warmupAll_details]
    split
    next => exact .inr rfl
    next => exact .inl rfl

theorem Refreshes.agree {next : ReadState} (h : Refreshes catalog s next)
    (hagree : DetailsAgree catalog s.db s.details) :
    DetailsAgree catalog next.db next.details := by
  rw [h.db_eq]
  intro movieId detail hdetail item hitem
  rcases h.details movieId with hkept | hfetched
  · exact hagree movieId detail (hkept.symm.trans hdetail) item hitem
  · exact fetchMovieDetail_agrees (hfetched.symm.trans hdetail) hitem

end Refresh

end Ticketing
