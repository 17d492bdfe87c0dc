import Ticketing.Theater.Consistency

/-!
# Two bodies for one request

`GET /api/read/movies` and `GET /api/read/theaters/bootstrap` answer a cache miss
with the rows of the database, which FastAPI encodes, and a cache hit with what
was stored of the same rows. The two bodies differ as soon as a row with a time
or a decimal is in them.
-/

namespace Ticketing

open Foundation Python

/-! ## The payloads as values -/

def intValue (n : Int) : PyValue := .scalar (.json (.int n))

def strValue (text : String) : PyValue := .scalar (.json (.str text))

def TheaterPayload.toPy (item : TheaterPayload) : PyValue :=
  .dict [("theater_id", intValue item.theaterId), ("region_name", strValue item.regionName),
    ("theater_name", strValue item.theaterName), ("address", strValue item.address)]

def HallPayload.toPy (item : HallPayload) : PyValue :=
  .dict [("hall_id", intValue item.hallId), ("theater_id", intValue item.theaterId),
    ("hall_name", strValue item.hallName), ("total_seats", intValue item.totalSeats),
    ("seat_rows", intValue item.seatRows), ("seat_cols", intValue item.seatCols),
    ("special_tag", strValue item.specialTag)]

/-- The CASE expression of the third SELECT gives one of two texts. -/
def SaleStatus.text : SaleStatus → String
  | .closed => "CLOSED"
  | .opened | .other => "OPEN"

def SchedulePayload.toPy (item : SchedulePayload) : PyValue :=
  .dict [("schedule_id", intValue item.scheduleId), ("movie_id", intValue item.movieId),
    ("hall_id", intValue item.hallId), ("show_date", .scalar (.datetime item.showDate)),
    ("total_count", intValue item.totalCount), ("remain_count", intValue item.remainCount),
    ("status", strValue item.status.text)]

def ReservedSeats.toPy (reserved : ReservedSeats) : PyValue :=
  .dict (reserved.entries.map fun entry => (toString entry.1, .list (entry.2.map strValue)))

def Bootstrap.toPy (payload : Bootstrap) : PyValue :=
  .dict [("theaters", .list (payload.theaters.map TheaterPayload.toPy)),
    ("halls", .list (payload.halls.map HallPayload.toPy)),
    ("movies", .list (payload.movies.map Row.toPy)),
    ("schedules", .list (payload.schedules.map SchedulePayload.toPy)),
    ("reservedSeats", payload.reservedSeats.toPy)]

/-! ## The endpoints -/

/-- The two cache keys. They do not expire. -/
structure TheaterCache where
  moviesList : MovieListCache
  bootstrap : Option (Cached Json)

/-- `get_movies`; an exception is the JSONDecodeError that it lets pass. -/
def getMovies (catalog : Catalog) (db : Db) (cache : TheaterCache) :
    Except String Json × TheaterCache :=
  match cache.moviesList with
  | some (.readable objects) => (.ok (.arr (objects.map .obj)), cache)
  | some .broken => (.error "JSONDecodeError", cache)
  | none =>
      let rows := fetchMoviesFromDb catalog db
      (.ok (PyValue.list (rows.map Row.toPy)).jsonable,
        { cache with moviesList := writeMoviesCache rows })

/-- `get_theaters_bootstrap`. A text that is not JSON is deleted, and then the
key is missing. -/
def getTheatersBootstrap (catalog : Catalog) (db : Db) (cache : TheaterCache) :
    Json × TheaterCache :=
  match cache.bootstrap with
  | some (.readable body) => (body, cache)
  | some .broken | none =>
      let (movieMap, moviesList) := loadMovieCacheRows catalog db cache.moviesList
      let payload := fetchBootstrapFromDb catalog movieMap db db db
      (payload.toPy.jsonable, ⟨moviesList, some (.readable payload.toPy.dumped)⟩)

/-! ## Which payloads are portable -/

@[simp] theorem scalars_intValue (n : Int) : (intValue n).scalars = [.json (.int n)] := rfl

@[simp] theorem scalars_strValue (text : String) : (strValue text).scalars = [.json (.str text)] :=
  rfl

theorem scalars_list {items : List PyValue} {leaf : Scalar} :
    leaf ∈ (PyValue.list items).scalars ↔ ∃ item ∈ items, leaf ∈ item.scalars :=
  mem_itemScalars

theorem TheaterPayload.portable (item : TheaterPayload) :
    ∀ leaf ∈ item.toPy.scalars, leaf.Portable := by
  simp [toPy, PyValue.scalars, fieldScalars, Scalar.Portable]

theorem HallPayload.portable (item : HallPayload) : ∀ leaf ∈ item.toPy.scalars, leaf.Portable := by
  simp [toPy, PyValue.scalars, fieldScalars, Scalar.Portable]

theorem ReservedSeats.portable (reserved : ReservedSeats) :
    ∀ leaf ∈ reserved.toPy.scalars, leaf.Portable := by
  intro leaf hleaf
  obtain ⟨field, hfield, hleaf⟩ := mem_fieldScalars.mp hleaf
  obtain ⟨entry, _, rfl⟩ := List.mem_map.mp hfield
  obtain ⟨item, hitem, hleaf⟩ := scalars_list.mp hleaf
  obtain ⟨text, _, rfl⟩ := List.mem_map.mp hitem
  obtain rfl := List.mem_singleton.mp hleaf
  trivial

/-- The `show_date` of a schedule is a time. -/
theorem SchedulePayload.not_portable (item : SchedulePayload) :
    ¬ ∀ leaf ∈ item.toPy.scalars, leaf.Portable := fun hall =>
  hall (.datetime item.showDate) (by simp [toPy, PyValue.scalars, fieldScalars])

/-- The `total_remain_count` of a movie is a decimal. -/
theorem movieRow_not_portable (catalog : Catalog) (db : Db) (movie : Movie) :
    ¬ ∀ leaf ∈ (enrichMovieRow movie (movieRow catalog db movie)).toPy.scalars,
      leaf.Portable := fun hall =>
  hall (.decimal (totalRemainCount catalog db movie.movieId)) (Row.mem_scalars.mpr
    ⟨("total_remain_count", .decimal (totalRemainCount catalog db movie.movieId)),
      by simp [enrichMovieRow, movieRow], rfl⟩)

theorem movies_portable_iff (catalog : Catalog) (db : Db) :
    (∀ leaf ∈ (PyValue.list ((fetchMoviesFromDb catalog db).map Row.toPy)).scalars,
        leaf.Portable) ↔
      ∀ movie ∈ catalog.movies.rows, movie.isListed catalog.collation = false := by
  have hlisted : (∀ movie ∈ catalog.movies.rows, movie.isListed catalog.collation = false) ↔
      listedMovies catalog = [] := by
    rw [← List.length_eq_zero_iff, listedMovies, List.length_insertionSort,
      List.length_eq_zero_iff, List.filter_eq_nil_iff]
    simp
  rw [hlisted]
  constructor
  · intro hall
    refine List.eq_nil_iff_forall_not_mem.mpr fun movie hmovie => ?_
    apply movieRow_not_portable catalog db movie
    intro leaf hleaf
    refine hall leaf (scalars_list.mpr ⟨_, ?_, hleaf⟩)
    exact List.mem_map_of_mem (List.mem_map_of_mem hmovie)
  · intro hnone leaf hleaf
    rw [fetchMoviesFromDb, hnone] at hleaf
    cases hleaf

theorem Bootstrap.mem_scalars {payload : Bootstrap} {item : SchedulePayload}
    (hitem : item ∈ payload.schedules) {leaf : Scalar} (hleaf : leaf ∈ item.toPy.scalars) :
    leaf ∈ payload.toPy.scalars := by
  have hlist : leaf ∈ itemScalars (payload.schedules.map SchedulePayload.toPy) :=
    mem_itemScalars.mpr ⟨_, List.mem_map_of_mem hitem, hleaf⟩
  simp [toPy, PyValue.scalars, fieldScalars, hlist]

theorem Bootstrap.portable_of_nil {payload : Bootstrap} (hmovies : payload.movies = [])
    (hschedules : payload.schedules = []) : ∀ leaf ∈ payload.toPy.scalars, leaf.Portable := by
  have hlist : ∀ {α : Type} (items : List α) (toPy : α → PyValue),
      (∀ item, ∀ leaf ∈ (toPy item).scalars, leaf.Portable) →
        ∀ leaf ∈ (PyValue.list (items.map toPy)).scalars, leaf.Portable := by
    intro α items toPy hitem leaf hleaf
    obtain ⟨value, hvalue, hleaf⟩ := scalars_list.mp hleaf
    obtain ⟨item, _, rfl⟩ := List.mem_map.mp hvalue
    exact hitem item leaf hleaf
  intro leaf hleaf
  simp only [toPy, PyValue.scalars, fieldScalars, hmovies, hschedules, List.map_nil, itemScalars,
    List.nil_append, List.append_nil, List.mem_append] at hleaf
  rcases hleaf with htheater | hhall | hreserved
  · exact hlist _ _ TheaterPayload.portable leaf htheater
  · exact hlist _ _ HallPayload.portable leaf hhall
  · exact payload.reservedSeats.portable leaf hreserved

theorem bootstrap_portable_iff (catalog : Catalog) (movieMap : MovieMap) (db : Db) :
    (∀ leaf ∈ (fetchBootstrapFromDb catalog movieMap db db db).toPy.scalars, leaf.Portable) ↔
      ∀ row ∈ db.schedules.rows,
        row.status = .other ∨ catalog.movieId row.scheduleId ∉ movieMap := by
  constructor
  · intro hall row hrow
    by_contra hlisted
    obtain ⟨hstatus, hmovie⟩ := not_or.mp hlisted
    have hmem : schedulePayload catalog db row ∈
        (fetchBootstrapFromDb catalog movieMap db db db).schedules :=
      mem_schedules.mpr ⟨row, hrow, hstatus, not_not.mp hmovie, rfl⟩
    exact (schedulePayload catalog db row).not_portable fun leaf hleaf =>
      hall leaf (Bootstrap.mem_scalars hmem hleaf)
  · intro hnone
    have hschedules : (fetchBootstrapFromDb catalog movieMap db db db).schedules = [] := by
      refine List.eq_nil_iff_forall_not_mem.mpr fun payload hpayload => ?_
      obtain ⟨row, hrow, hstatus, hmovie, _⟩ := mem_schedules.mp hpayload
      exact (hnone row hrow).elim hstatus (absurd hmovie)
    refine Bootstrap.portable_of_nil ?_ hschedules
    -- the movies are those of the schedules
    change (((fetchBootstrapFromDb catalog movieMap db db db).schedules.map
      SchedulePayload.movieId).dedup.insertionSort (· ≤ ·)).filterMap _ = []
    rw [hschedules]
    rfl

/-! ## Transparency -/

/-- The answer to a miss is the answer to every hit that follows. -/
def MoviesTransparent (catalog : Catalog) (db : Db) (cache : TheaterCache) : Prop :=
  ∀ later, (getMovies catalog later (getMovies catalog db cache).2).1 =
    (getMovies catalog db cache).1

def BootstrapTransparent (catalog : Catalog) (db : Db) (cache : TheaterCache) : Prop :=
  ∀ later, (getTheatersBootstrap catalog later (getTheatersBootstrap catalog db cache).2).1 =
    (getTheatersBootstrap catalog db cache).1

/-- The list of rows as the cache gives it back. -/
theorem dumped_rows (rows : List Row) :
    Json.arr ((rows.map fun row => row.map fun field => (field.1, field.2.dumped)).map .obj) =
      (PyValue.list (rows.map Row.toPy)).dumped := by
  have hfields : ∀ row : Row, encodeFields Scalar.dumped
      (row.map fun field => (field.1, PyValue.scalar field.2)) =
        row.map fun field => (field.1, field.2.dumped) := by
    intro row
    induction row with
    | nil => rfl
    | cons field rest ih =>
        rw [List.map_cons, encodeFields, ih]
        rfl
  rw [PyValue.dumped, PyValue.encode]
  congr 1
  induction rows with
  | nil => rfl
  | cons row rest ih =>
      rw [List.map_cons, List.map_cons, List.map_cons, encodeItems, ih, Row.toPy, PyValue.encode,
        hfields]

theorem moviesTransparent_iff {catalog : Catalog} {db : Db} {cache : TheaterCache}
    (hmiss : cache.moviesList = none) :
    MoviesTransparent catalog db cache ↔
      ∀ movie ∈ catalog.movies.rows, movie.isListed catalog.collation = false := by
  rw [← movies_portable_iff catalog db, ← PyValue.jsonable_eq_dumped_iff, ← dumped_rows]
  unfold MoviesTransparent getMovies
  simp only [hmiss, writeMoviesCache, Except.ok.injEq]
  exact ⟨fun h => (h db).symm, fun h _ => h.symm⟩

theorem bootstrapTransparent_iff {catalog : Catalog} {db : Db} {cache : TheaterCache}
    (hmiss : ∀ body, cache.bootstrap ≠ some (.readable body)) :
    BootstrapTransparent catalog db cache ↔
      ∀ row ∈ db.schedules.rows, row.status = .other ∨
        catalog.movieId row.scheduleId ∉ (loadMovieCacheRows catalog db cache.moviesList).1 := by
  rw [← bootstrap_portable_iff, ← PyValue.jsonable_eq_dumped_iff]
  unfold BootstrapTransparent getTheatersBootstrap
  cases hcached : cache.bootstrap with
  | none => exact ⟨fun h => (h db).symm, fun h _ => h.symm⟩
  | some cached =>
      cases cached with
      | readable body => exact absurd hcached (hmiss body)
      | broken => exact ⟨fun h => (h db).symm, fun h _ => h.symm⟩

/-- On a miss, the body of either endpoint is the body of the hits that follow
exactly if no movie, or no schedule of a bookable movie, is in it. -/
theorem cache_transparent_iff (catalog : Catalog) (db : Db) (cache : TheaterCache) :
    (cache.moviesList = none →
      (MoviesTransparent catalog db cache ↔
        ∀ movie ∈ catalog.movies.rows, movie.isListed catalog.collation = false)) ∧
    ((∀ body, cache.bootstrap ≠ some (.readable body)) →
      (BootstrapTransparent catalog db cache ↔
        ∀ row ∈ db.schedules.rows, row.status = .other ∨
          catalog.movieId row.scheduleId ∉ (loadMovieCacheRows catalog db cache.moviesList).1)) :=
  ⟨moviesTransparent_iff, bootstrapTransparent_iff⟩

/-- Neither endpoint is transparent for the movie of `oneSeatDb`. -/
theorem hit_differs_from_miss :
    ¬ MoviesTransparent oneSeatCatalog oneSeatDb ⟨none, none⟩ ∧
      ¬ BootstrapTransparent oneSeatCatalog oneSeatDb ⟨none, none⟩ := by
  constructor
  · intro htransparent
    have hnone := (moviesTransparent_iff rfl).mp htransparent openingMovie (by decide)
    exact absurd hnone (by decide +kernel)
  · intro htransparent
    have hnone := (bootstrapTransparent_iff (by simp)).mp htransparent oneSeatSchedule (by decide)
    exact absurd hnone (by decide +kernel)

/-- Without a movie both are. -/
theorem cache_transparent_iff_noMovie :
    MoviesTransparent { oneSeatCatalog with movies := .empty } oneSeatDb ⟨none, none⟩ ∧
      BootstrapTransparent { oneSeatCatalog with movies := .empty } oneSeatDb ⟨none, none⟩ := by
  obtain ⟨hmovies, hbootstrap⟩ := cache_transparent_iff
    { oneSeatCatalog with movies := .empty } oneSeatDb ⟨none, none⟩
  constructor
  · exact (hmovies rfl).mpr (by simp [Table.empty])
  · exact (hbootstrap (by simp)).mpr (by decide +kernel)

end Ticketing
