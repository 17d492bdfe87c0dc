import Mathlib.Data.List.Dedup
import Ticketing.Movie.Pages
import Ticketing.Theater.Freshness

/-!
# The details are the payload, cut into theaters

What `_theater_detail_from_bootstrap` gives for the theaters of a payload is closed
under the references between its lists, and the slices together are the payload:
nothing is lost and nothing is in two of them. Both follow from the links between
the lists of the payload, which the foreign keys give.
-/

namespace Ticketing

open Foundation Python

/-- The foreign keys of `create.sql` that the payload depends on. -/
structure ForeignKeys (catalog : Catalog) (db : Db) : Prop where
  halls : ∀ hall ∈ db.halls.rows, hall.theaterId ∈ catalog.theaters.rows.map Theater.theaterId
  schedules : ∀ row ∈ db.schedules.rows, row.hallId ∈ db.halls.rows.map Hall.hallId

/-- The `movie_id` of an item of `movies`. -/
def movieIdOf (row : Row) : Int := (row.get "movie_id").toInt

/-- What one list of a payload refers to is in another one. -/
structure Bootstrap.Linked (payload : Bootstrap) : Prop where
  theaterIds : (payload.theaters.map TheaterPayload.theaterId).Nodup
  hallIds : (payload.halls.map HallPayload.hallId).Nodup
  scheduleIds : (payload.schedules.map SchedulePayload.scheduleId).Nodup
  halls : ∀ hall ∈ payload.halls,
    hall.theaterId ∈ payload.theaters.map TheaterPayload.theaterId
  schedules : ∀ row ∈ payload.schedules, row.hallId ∈ payload.halls.map HallPayload.hallId
  movies : ∀ row ∈ payload.schedules, row.movieId ∈ payload.movies.map movieIdOf
  reservedSeats : ∀ scheduleId ∈ payload.reservedSeats,
    scheduleId ∈ payload.schedules.map SchedulePayload.scheduleId

/-- The references of a detail stay inside it, and it has no movie without a
schedule. -/
structure TheaterDetail.Closed (detail : TheaterDetail) : Prop where
  halls : ∀ row ∈ detail.schedules, row.hallId ∈ detail.halls.map HallPayload.hallId
  movies : ∀ row ∈ detail.schedules, row.movieId ∈ detail.movies.map movieIdOf
  reservedSeats : ∀ scheduleId ∈ detail.reservedSeats,
    scheduleId ∈ detail.schedules.map SchedulePayload.scheduleId
  shown : ∀ movie ∈ detail.movies,
    movieIdOf movie ∈ detail.schedules.map SchedulePayload.movieId

/-- Just one theater has a detail for which this is true. -/
def Bootstrap.InOneDetail (payload : Bootstrap) (holds : TheaterDetail → Prop) : Prop :=
  ∃! theaterId, ∃ detail, theaterDetailFromBootstrap payload theaterId = some detail ∧
    holds detail

/-- Each theater has a closed detail, and the details are the payload, each hall,
schedule and list of seats being in one of them. -/
structure Bootstrap.Partitioned (payload : Bootstrap) : Prop where
  closed : ∀ theater ∈ payload.theaters, ∃ detail,
    theaterDetailFromBootstrap payload theater.theaterId = some detail ∧
      detail.theater = theater ∧ detail.Closed
  halls : ∀ hall ∈ payload.halls, payload.InOneDetail fun detail => hall ∈ detail.halls
  schedules : ∀ row ∈ payload.schedules, payload.InOneDetail fun detail => row ∈ detail.schedules
  reservedSeats : ∀ scheduleId seats, payload.reservedSeats.lookup scheduleId = some seats →
    payload.InOneDetail fun detail => detail.reservedSeats.lookup scheduleId = some seats

/-! ## A linked payload is partitioned -/

section Slices

variable {payload : Bootstrap} {theaterId : Int}

theorem ReservedSeats.lookup_restrict {reserved : ReservedSeats} {keep : Int → Bool}
    {scheduleId : Int} {seats : List String} :
    (reserved.restrict keep).lookup scheduleId = some seats ↔
      reserved.lookup scheduleId = some seats ∧ keep scheduleId = true := by
  rw [← Option.mem_def, ← Option.mem_def, AList.mem_lookup_iff, AList.mem_lookup_iff]
  simp [restrict]

theorem Bootstrap.Linked.find_theater (h : payload.Linked) {theater : TheaterPayload}
    (hmem : theater ∈ payload.theaters) :
    theaterDetailFromBootstrap payload theater.theaterId =
      some (theaterSlice payload theater.theaterId theater) := by
  rw [theaterDetailFromBootstrap, Option.map_eq_some_iff]
  refine ⟨theater, ?_, rfl⟩
  cases hfind : payload.theaters.find? fun other => other.theaterId == theater.theaterId with
  | none =>
      have hother := List.find?_eq_none.mp hfind theater hmem
      simp at hother
  | some other =>
      have hid : other.theaterId = theater.theaterId := by simpa using List.find?_some hfind
      rw [List.inj_on_of_nodup_map h.theaterIds (List.mem_of_find?_eq_some hfind) hmem hid]

/-- The theaters that have a detail are those of the payload. -/
theorem Bootstrap.Linked.detail_iff (h : payload.Linked) {holds : TheaterDetail → Prop} :
    (∃ detail, theaterDetailFromBootstrap payload theaterId = some detail ∧ holds detail) ↔
      ∃ theater ∈ payload.theaters, theater.theaterId = theaterId ∧
        holds (theaterSlice payload theaterId theater) := by
  constructor
  · rintro ⟨detail, hdetail, hholds⟩
    obtain ⟨theater, hfind, rfl⟩ := Option.map_eq_some_iff.mp hdetail
    have hid : theater.theaterId = theaterId := by simpa using List.find?_some hfind
    exact ⟨theater, List.mem_of_find?_eq_some hfind, hid, hholds⟩
  · rintro ⟨theater, hmem, rfl, hholds⟩
    exact ⟨_, h.find_theater hmem, hholds⟩

variable {theater : TheaterPayload}

theorem Bootstrap.Linked.mem_slice_halls (h : payload.Linked) {hall : HallPayload}
    (hmem : hall ∈ payload.halls) :
    hall ∈ (theaterSlice payload theaterId theater).halls ↔ hall.theaterId = theaterId := by
  simp only [theaterSlice, List.mem_filter, List.mem_map, decide_eq_true_eq]
  constructor
  · rintro ⟨_, other, ⟨hother, hsame⟩, hid⟩
    rw [← List.inj_on_of_nodup_map h.hallIds hother hmem hid]
    exact hsame
  · intro hsame
    exact ⟨hmem, hall, ⟨hmem, hsame⟩, rfl⟩

theorem Bootstrap.Linked.mem_slice_schedules (h : payload.Linked) {row : SchedulePayload}
    (hmem : row ∈ payload.schedules) {hall : HallPayload} (hhall : hall ∈ payload.halls)
    (hid : hall.hallId = row.hallId) :
    row ∈ (theaterSlice payload theaterId theater).schedules ↔ hall.theaterId = theaterId := by
  simp only [theaterSlice, List.mem_filter, List.mem_map, decide_eq_true_eq]
  constructor
  · rintro ⟨_, other, ⟨hother, hsame⟩, hotherId⟩
    rw [← List.inj_on_of_nodup_map h.hallIds hother hhall (hotherId.trans hid.symm)]
    exact hsame
  · intro hsame
    exact ⟨hmem, hall, ⟨hhall, hsame⟩, hid⟩

/-- The lists of seats go with their schedules. -/
theorem Bootstrap.Linked.lookup_slice (h : payload.Linked) {row : SchedulePayload}
    (hmem : row ∈ payload.schedules) {seats : List String}
    (hseats : payload.reservedSeats.lookup row.scheduleId = some seats) :
    (theaterSlice payload theaterId theater).reservedSeats.lookup row.scheduleId = some seats ↔
      row ∈ (theaterSlice payload theaterId theater).schedules := by
  have hlookup := @ReservedSeats.lookup_restrict payload.reservedSeats
    (fun id => id ∈ (theaterSlice payload theaterId theater).schedules.map
      SchedulePayload.scheduleId) row.scheduleId seats
  refine hlookup.trans ?_
  rw [decide_eq_true_eq]
  constructor
  · rintro ⟨_, hid⟩
    obtain ⟨other, hother, hid⟩ := List.mem_map.mp hid
    have hsub : other ∈ payload.schedules := (List.mem_filter.mp hother).1
    rwa [← List.inj_on_of_nodup_map h.scheduleIds hsub hmem hid]
  · intro hrow
    exact ⟨hseats, List.mem_map_of_mem hrow⟩

theorem mem_slice_reservedSeats {scheduleId : Int}
    (hkey : scheduleId ∈ (theaterSlice payload theaterId theater).reservedSeats) :
    scheduleId ∈ (theaterSlice payload theaterId theater).schedules.map
      SchedulePayload.scheduleId := by
  obtain ⟨seats, hseats⟩ := Option.isSome_iff_exists.mp (AList.lookup_isSome.mpr hkey)
  exact of_decide_eq_true (ReservedSeats.lookup_restrict.mp hseats).2

theorem Bootstrap.Linked.slice_closed (h : payload.Linked) :
    (theaterSlice payload theaterId theater).Closed := by
  constructor
  · intro row hrow
    obtain ⟨hall, hhall, hid⟩ := List.mem_map.mp (of_decide_eq_true (List.mem_filter.mp hrow).2)
    refine List.mem_map.mpr ⟨hall, List.mem_filter.mpr ⟨(List.mem_filter.mp hhall).1, ?_⟩, hid⟩
    exact decide_eq_true (List.mem_map_of_mem hhall)
  · intro row hrow
    obtain ⟨movie, hmovie, hid⟩ := List.mem_map.mp (h.movies row (List.mem_filter.mp hrow).1)
    refine List.mem_map.mpr ⟨movie, List.mem_filter.mpr ⟨hmovie, ?_⟩, hid⟩
    exact decide_eq_true (List.mem_map.mpr ⟨row, hrow, hid.symm⟩)
  · intro scheduleId hkey
    exact mem_slice_reservedSeats hkey
  · intro movie hmovie
    exact of_decide_eq_true (List.mem_filter.mp hmovie).2

/-- What is in the slice of one theater alone is in one detail. -/
theorem Bootstrap.Linked.inOneDetail (h : payload.Linked) {holds : TheaterDetail → Prop}
    {owner : Int} (howner : owner ∈ payload.theaters.map TheaterPayload.theaterId)
    (hholds : ∀ theaterId theater, holds (theaterSlice payload theaterId theater) ↔
      owner = theaterId) : payload.InOneDetail holds := by
  obtain ⟨theater, hmem, hid⟩ := List.mem_map.mp howner
  refine ⟨owner, h.detail_iff.mpr ⟨theater, hmem, hid, (hholds owner theater).mpr rfl⟩, ?_⟩
  intro theaterId hdetail
  obtain ⟨other, _, _, hother⟩ := h.detail_iff.mp hdetail
  exact ((hholds theaterId other).mp hother).symm

theorem Bootstrap.Linked.partitioned (h : payload.Linked) : payload.Partitioned := by
  have hschedules : ∀ row ∈ payload.schedules,
      ∃ owner ∈ payload.theaters.map TheaterPayload.theaterId, ∀ theaterId theater,
        row ∈ (theaterSlice payload theaterId theater).schedules ↔ owner = theaterId := by
    intro row hrow
    obtain ⟨hall, hhall, hid⟩ := List.mem_map.mp (h.schedules row hrow)
    exact ⟨hall.theaterId, h.halls hall hhall, fun theaterId theater =>
      h.mem_slice_schedules hrow hhall hid⟩
  constructor
  · intro theater hmem
    exact ⟨_, h.find_theater hmem, rfl, h.slice_closed⟩
  · intro hall hmem
    exact h.inOneDetail (h.halls hall hmem) fun _ _ => h.mem_slice_halls hmem
  · intro row hrow
    obtain ⟨owner, howner, hholds⟩ := hschedules row hrow
    exact h.inOneDetail howner hholds
  · intro scheduleId seats hseats
    have hkey : scheduleId ∈ payload.reservedSeats :=
      AList.lookup_isSome.mp (Option.isSome_of_eq_some hseats)
    obtain ⟨row, hrow, rfl⟩ := List.mem_map.mp (h.reservedSeats scheduleId hkey)
    obtain ⟨owner, howner, hholds⟩ := hschedules row hrow
    refine h.inOneDetail howner fun theaterId theater => ?_
    rw [h.lookup_slice hrow hseats]
    exact hholds theaterId theater

end Slices

/-! ## A fetched payload is linked -/

section Fetch

variable {catalog : Catalog} {rows : List Row} {map : MovieMap} {db : Db}

/-- Every row of the map is filed under its own id. -/
theorem movieMap_lookup {movieId : Int} {row : Row}
    (h : (movieMap rows).lookup movieId = some row) : movieIdOf row = movieId := by
  have hfold : ∀ start : MovieMap, (∀ id row, start.lookup id = some row → movieIdOf row = id) →
      ∀ id row, (rows.foldl (fun map row => if isBookable row then
        map.insert (row.get "movie_id").toInt row else map) start).lookup id = some row →
          movieIdOf row = id := by
    clear h
    induction rows with
    | nil => exact fun _ hstart => hstart
    | cons first rest ih =>
        intro start hstart
        rw [List.foldl_cons]
        apply ih
        split
        next =>
          intro id row hrow
          by_cases hid : id = (first.get "movie_id").toInt
          · subst hid
            rw [AList.lookup_insert] at hrow
            obtain rfl := Option.some.inj hrow
            rfl
          · rw [AList.lookup_insert_ne hid] at hrow
            exact hstart id row hrow
        next => exact hstart
  exact hfold ∅ (fun id row hrow => by cases hrow) movieId row h

/-- The lists of seats are those of valid schedules. -/
theorem mem_appendReserved {valid : List Int} {reservedRows : List ReservedRow}
    {reserved : ReservedSeats} {scheduleId : Int}
    (h : scheduleId ∈ appendReserved valid reservedRows reserved) :
    scheduleId ∈ reserved ∨ scheduleId ∈ valid := by
  induction reservedRows generalizing reserved with
  | nil => exact .inl h
  | cons row rest ih =>
      rw [appendReserved] at h
      rcases ih h with hkey | hvalid
      · split at hkey
        next => exact .inl hkey
        next hkept =>
          rcases (AList.mem_insert _).mp hkey with rfl | hold
          · exact .inr (not_not.mp (not_or.mp hkept).1)
          · exact .inl hold
      · exact .inr hvalid

theorem fetch_theaterIds_nodup :
    ((fetchBootstrapFromDb catalog map db db db).theaters.map
      TheaterPayload.theaterId).Nodup := by
  have hids : (fetchBootstrapFromDb catalog map db db db).theaters.map TheaterPayload.theaterId =
      (selectTheaters catalog).map Theater.theaterId := by
    simp only [fetchBootstrapFromDb, List.map_map]
    exact List.map_congr_left fun _ _ => rfl
  rw [hids, selectTheaters, ((List.perm_insertionSort _ _).map _).nodup_iff]
  exact catalog.theaters.pk_nodup

theorem fetch_hallIds_nodup :
    ((fetchBootstrapFromDb catalog map db db db).halls.map HallPayload.hallId).Nodup := by
  have hids : (selectHalls catalog db).map (HallPayload.hallId ∘ hallPayload) =
      (db.halls.rows.insertionSort fun left right => left.theaterId < right.theaterId ∨
        left.theaterId = right.theaterId ∧ left.hallId ≤ right.hallId).map Hall.hallId := by
    rw [selectHalls, List.map_map]
    exact List.map_congr_left fun _ _ => rfl
  simp only [fetchBootstrapFromDb, List.map_map]
  refine List.Nodup.sublist (List.filter_sublist.map _) ?_
  rw [hids, ((List.perm_insertionSort _ _).map _).nodup_iff]
  exact db.halls.pk_nodup

theorem fetch_scheduleIds_nodup {second third fourth : Db} :
    ((fetchBootstrapFromDb catalog map second third fourth).schedules.map
      SchedulePayload.scheduleId).Nodup := by
  refine List.Nodup.sublist (List.filter_sublist.map _) ?_
  rw [selectSchedules, ((List.perm_insertionSort _ _).map _).nodup_iff, List.map_map]
  exact third.schedules.pk_nodup.sublist (List.filter_sublist.map _)

/-- The halls of the payload are those of its schedules. -/
theorem mem_fetch_hallIds (hkeys : ForeignKeys catalog db) {row : SchedulePayload}
    (hrow : row ∈ (fetchBootstrapFromDb catalog map db db db).schedules) :
    row.hallId ∈ (fetchBootstrapFromDb catalog map db db db).halls.map HallPayload.hallId := by
  obtain ⟨schedule, hschedule, _, _, hpayload⟩ := mem_schedules.mp hrow
  obtain ⟨hall, hhall, hid⟩ := List.mem_map.mp (hkeys.schedules schedule hschedule)
  have hsame : hall.hallId = row.hallId := by
    rw [hid, ← hpayload]
    rfl
  refine List.mem_map.mpr ⟨hallPayload (hallRow catalog db hall), ?_, hsame⟩
  refine List.mem_map_of_mem (List.mem_filter.mpr ⟨?_, ?_⟩)
  · exact List.mem_map_of_mem ((List.mem_insertionSort _).mpr hhall)
  · exact decide_eq_true (List.mem_map.mpr ⟨row, hrow, hsame.symm⟩)

theorem mem_fetch_movieIds {row : SchedulePayload}
    (hrow : row ∈ (fetchBootstrapFromDb catalog (movieMap rows) db db db).schedules) :
    row.movieId ∈ (fetchBootstrapFromDb catalog (movieMap rows) db db db).movies.map
      movieIdOf := by
  have hmap : row.movieId ∈ movieMap rows := of_decide_eq_true (List.mem_filter.mp hrow).2
  obtain ⟨movie, hmovie⟩ := Option.isSome_iff_exists.mp (AList.lookup_isSome.mpr hmap)
  refine List.mem_map.mpr ⟨movie, List.mem_filterMap.mpr ⟨row.movieId, ?_, hmovie⟩,
    movieMap_lookup hmovie⟩
  rw [List.mem_insertionSort, List.mem_dedup]
  exact List.mem_map_of_mem hrow

theorem fetch_linked (hkeys : ForeignKeys catalog db) :
    (fetchBootstrapFromDb catalog (movieMap rows) db db db).Linked := by
  refine ⟨fetch_theaterIds_nodup, fetch_hallIds_nodup, fetch_scheduleIds_nodup, ?_,
    fun row hrow => mem_fetch_hallIds hkeys hrow, fun row hrow => mem_fetch_movieIds hrow, ?_⟩
  · intro payload hmem
    obtain ⟨hall, hhall, rfl⟩ := mem_halls hmem
    obtain ⟨theater, htheater, hid⟩ := List.mem_map.mp (hkeys.halls hall hhall)
    refine List.mem_map.mpr ⟨theaterPayload theater, ?_, hid⟩
    exact List.mem_map_of_mem ((List.mem_insertionSort _).mpr htheater)
  · intro scheduleId hkey
    rcases mem_appendReserved hkey with hnone | hvalid
    · cases hnone
    · exact hvalid

/-- Whatever the tables hold under the foreign keys, and whatever rows the movie map
is made of, the details of a payload read from one snapshot partition it. -/
theorem fetch_partitioned (hkeys : ForeignKeys catalog db) :
    (fetchBootstrapFromDb catalog (movieMap rows) db db db).Partitioned :=
  (fetch_linked hkeys).partitioned

end Fetch

theorem fetch_partitioned_oneSeat :
    (fetchBootstrapFromDb oneSeatCatalog (movieMap (fetchMoviesFromDb oneSeatCatalog oneSeatDb))
      oneSeatDb oneSeatDb oneSeatDb).Partitioned :=
  fetch_partitioned ⟨by decide, by decide⟩

end Ticketing
