import Mathlib.Logic.Function.Basic
import Ticketing.Concert.BatchFetch
import Ticketing.Theater.Catalog

/-!
# The booking bootstrap of a concert

`GET /api/read/concert/{concert_id}/booking-bootstrap`. The response puts together
the header of the concert and one snapshot for each show. Headers, the rows of the
shows and the snapshots are cached under keys of their own; a snapshot that is not
in the cache is built from the row, the reserved set and the seats in the database.
A response is computed here without other requests in between.
-/

namespace Ticketing

open Foundation Python

/-- A row of `concerts`. -/
structure Concert where
  concertId : Int
  title : String
  category : Option String
  genre : Option String
  venueSummary : Option String
  posterUrl : Option String
  runtimeMinutes : Int
  synopsis : Option String
  synopsisLine : Option String
  status : String
  hide : String
deriving DecidableEq

def concertIx : Indexes Concert Unit := ⟨Concert.concertId, fun _ => none⟩

/-- The table `concerts`, and the `show_date` of each show. -/
structure ConcertCatalog where
  concerts : Table concertIx
  showDate : Int → DateTime

/-! ## What the cache holds -/

/-- The rows of the shows of one concert, as one SELECT gives them. -/
structure ShowRows (concertId : Int) where
  rows : List ConcertShow
  own : ∀ row ∈ rows, row.concertId = concertId
  nodup : (rows.map ConcertShow.showId).Nodup

/-- A snapshot as `_store_show_snapshot` has written it for the show. -/
structure StoredSnapshot (showId : Int) where
  payload : ShowPayload
  written : ∃ row holdCount keys,
    payload = showPayloadFromRow row holdCount keys ∧ row.showId = showId

/-- The read cache of the concerts: the `concert` object of
`concert:detail:{id}:read:v1`, `concert:shows_meta:{id}:read:v1` and
`concert:show:{id}:read:v2`. -/
structure ConcertCache where
  detail : Int → Option (Cached (List (String × Json)))
  showsMeta : (concertId : Int) → Option (Cached (ShowRows concertId))
  snapshot : (showId : Int) → Option (Cached (StoredSnapshot showId))

namespace ConcertCache

def empty : ConcertCache := ⟨fun _ => none, fun _ => none, fun _ => none⟩

/-- The snapshot that a reader of the key gets. -/
def hit (cache : ConcertCache) (showId : Int) : Option ShowPayload :=
  match cache.snapshot showId with
  | some (.readable stored) => some stored.payload
  | some .broken | none => none

/-- `_store_show_snapshot`. -/
def storeShowSnapshot (cache : ConcertCache) (row : ConcertShow) (holdCount : Int)
    (keys : List String) : ConcertCache :=
  { cache with
    snapshot := Function.update cache.snapshot row.showId
      (some (.readable ⟨showPayloadFromRow row holdCount keys, row, holdCount, keys, rfl, rfl⟩)) }

/-- The texts among the snapshots of the shows that are not JSON are deleted. -/
def dropBroken (cache : ConcertCache) (showIds : List Int) : ConcertCache :=
  { cache with
    snapshot := fun showId =>
      match cache.snapshot showId with
      | some .broken => if showId ∈ showIds then none else some .broken
      | found => found }

end ConcertCache

/-! ## The header -/

/-- `row[column] = value`. -/
def setColumn (row : Row) (column : String) (value : Scalar) : Row :=
  if row.any fun field => field.1 == column then
    row.map fun field => if field.1 = column then (column, value) else field
  else row ++ [(column, value)]

/-- `_fetch_concert_row`, with the `release_date_display` that
`build_concert_detail_api_dict` puts in. -/
def Concert.detail (concert : Concert) : Row :=
  [("concert_id", .json (.int concert.concertId)),
    ("title", .json (.str concert.title)),
    ("category", textColumn concert.category),
    ("genre", textColumn concert.genre),
    ("venue_summary", textColumn concert.venueSummary),
    ("poster_url", textColumn concert.posterUrl),
    ("runtime_minutes", .json (.int concert.runtimeMinutes)),
    ("synopsis", textColumn concert.synopsis),
    ("synopsis_line", textColumn concert.synopsisLine),
    ("status", .json (.str concert.status)),
    ("hide", .json (.str concert.hide)),
    ("release_date", .json .null),
    ("release_date_display", .json (.str (concert.venueSummary.getD "")))]

/-- `build_concert_detail_api_dict`. -/
def buildConcertDetailApiDict (catalog : ConcertCatalog) (concertId : Int) : Option Row :=
  (catalog.concerts.find concertId).map Concert.detail

/-- `get_concert_detail_cached_or_load`. A text that is not JSON is deleted, and
replaced if the concert exists. -/
def getConcertDetailCachedOrLoad (catalog : ConcertCatalog) (concertId : Int)
    (cache : ConcertCache) : Option Row × ConcertCache :=
  match cache.detail concertId with
  | some (.readable fields) => (some (fields.map fun field => (field.1, .json field.2)), cache)
  | some .broken | none =>
      let detail := buildConcertDetailApiDict catalog concertId
      (detail, { cache with
        detail := Function.update cache.detail concertId
          (detail.map fun row => .readable (row.map fun field => (field.1, field.2.dumped))) })

/-- The last step of `_concert_header_for_bootstrap`. -/
def withReleaseDateDisplay (concert : Row) : Row :=
  if (concert.get "release_date_display").truthy then concert
  else
    let summary := concert.get "venue_summary"
    setColumn concert "release_date_display" (if summary.truthy then summary else .json (.str ""))

/-- `_concert_header_for_bootstrap`. -/
def concertHeaderForBootstrap (catalog : ConcertCatalog) (concertId : Int)
    (cache : ConcertCache) : Option Row × ConcertCache :=
  let (detail, cache) := getConcertDetailCachedOrLoad catalog concertId cache
  (detail.map withReleaseDateDisplay, cache)

/-! ## The rows of the shows -/

/-- `_fetch_concert_show_rows`, ordered by `show_date`. -/
def fetchConcertShowRows (catalog : ConcertCatalog) (db : Db) (concertId : Int) :
    ShowRows concertId where
  rows := (db.concertShows.rows.filter fun row => row.concertId = concertId).insertionSort
    fun left right =>
      showDateFields (catalog.showDate left.showId) ≤ showDateFields (catalog.showDate right.showId)
  own row hrow := by
    rw [List.mem_insertionSort, List.mem_filter] at hrow
    exact of_decide_eq_true hrow.2
  nodup := by
    rw [((List.perm_insertionSort _ _).map _).nodup_iff]
    exact db.concertShows.pk_nodup.sublist (List.filter_sublist.map _)

/-- `_get_show_rows_for_bootstrap`; `metaTtl` is CONCERT_SHOWS_META_TTL_SEC. -/
def getShowRowsForBootstrap (catalog : ConcertCatalog) (metaTtl : Int) (db : Db)
    (concertId : Int) (cache : ConcertCache) : ShowRows concertId × ConcertCache :=
  if metaTtl ≤ 0 then (fetchConcertShowRows catalog db concertId, cache)
  else
    match cache.showsMeta concertId with
    | some (.readable rows) => (rows, cache)
    | some .broken | none =>
        let found := fetchConcertShowRows catalog db concertId
        (found, { cache with
          showsMeta := Function.update cache.showsMeta concertId
            (if found.rows = [] then none else some (.readable found)) })

/-- `_fetch_concert_show_row`. -/
def fetchConcertShowRow (db : Db) (concertId showId : Int) : Option ConcertShow :=
  (db.concertShows.find showId).filter fun row => row.concertId = concertId

/-- The row that a new snapshot is made of: read again, if it is still there. -/
def freshRow (db : Db) (row : ConcertShow) : ConcertShow :=
  if 0 < row.concertId then (fetchConcertShowRow db row.concertId row.showId).getD row else row

/-! ## The response -/

/-- An element of `shows`. `sale` is no field of what a miss gives to a request
without `show_id`. -/
structure ShowEntry where
  payload : ShowPayload
  sale : Option Sale

structure ConcertBootstrap where
  concert : Row
  shows : List ShowEntry

section Endpoints

variable (catalog : ConcertCatalog) (metaTtl : Int) (fails : Int → Bool) (s : HoldState)

/-- `_coalesced_fill_show_snapshot`. -/
def coalescedFillShowSnapshot (row : ConcertShow) (reservedKeys : Option (List String))
    (cache : ConcertCache) : ShowPayload × ConcertCache :=
  match cache.hit row.showId with
  | some payload => (payload, cache)
  | none =>
      let row := freshRow s.db row
      let keys := reservedKeys.getD
        ((fetchReservedSeatKeysByShow s.store fails s.db [row.showId]).ofShow row.showId)
      let holdCount := s.store.reservedCount fails row.showId
      (showPayloadFromRow row holdCount keys, cache.storeShowSnapshot row holdCount keys)

/-- `get_concert_bootstrap_for_show`. -/
def getConcertBootstrapForShow (concertId showId : Int) (cache : ConcertCache) :
    Option ConcertBootstrap × ConcertCache :=
  match fetchConcertShowRow s.db concertId showId with
  | none => (none, cache)
  | some row =>
      match concertHeaderForBootstrap catalog concertId cache with
      | (none, cache) => (none, cache)
      | (some concert, cache) =>
          let (payload, cache) := coalescedFillShowSnapshot fails s row none cache
          (some ⟨concert, [⟨payload, some (getSaleState (s.sales showId))⟩]⟩, cache)

/-- The slot of a row after the loop over what MGET has given. -/
def readSlot (cache : ConcertCache) (row : ConcertShow) : Option ShowEntry :=
  (cache.hit row.showId).map fun payload => ⟨payload, some (getSaleState (s.sales row.showId))⟩

/-- `miss_ids`. -/
def missIds (cache : ConcertCache) (rows : List ConcertShow) : List Int :=
  (rows.filter fun row => (cache.hit row.showId).isNone).map ConcertShow.showId

/-- The loop over `missed`, and the slots when it ends. -/
def fillMissed (reservedBulk : SeatKeys) :
    List (ConcertShow × Option ShowEntry) → ConcertCache → List ShowEntry × ConcertCache
  | [], cache => ([], cache)
  | (_, some entry) :: rest, cache =>
      let (entries, cache) := fillMissed reservedBulk rest cache
      (entry :: entries, cache)
  | (row, none) :: rest, cache =>
      let (payload, cache) :=
        coalescedFillShowSnapshot fails s row (some (reservedBulk.ofShow row.showId)) cache
      let (entries, cache) := fillMissed reservedBulk rest cache
      (⟨payload, none⟩ :: entries, cache)

/-- `get_concert_bootstrap_cached_or_load`. -/
def getConcertBootstrapCachedOrLoad (concertId : Int) (cache : ConcertCache) :
    Option ConcertBootstrap × ConcertCache :=
  match concertHeaderForBootstrap catalog concertId cache with
  | (none, cache) => (none, cache)
  | (some concert, cache) =>
      let (shows, cache) := getShowRowsForBootstrap catalog metaTtl s.db concertId cache
      let slots := shows.rows.map fun row => (row, readSlot s cache row)
      let reservedBulk :=
        fetchReservedSeatKeysByShow s.store fails s.db (missIds cache shows.rows)
      let (entries, cache) := fillMissed fails s reservedBulk slots
        (cache.dropBroken (shows.rows.map ConcertShow.showId))
      (some ⟨concert, entries⟩, cache)

/-- `get_concert_booking_bootstrap`; `none` is the answer 404. -/
def getConcertBookingBootstrap (concertId : Int) (showId : Option Int) (cache : ConcertCache) :
    Option ConcertBootstrap × ConcertCache :=
  match showId.filter (0 < ·) with
  | some showId => getConcertBootstrapForShow catalog fails s concertId showId cache
  | none => getConcertBootstrapCachedOrLoad catalog metaTtl fails s concertId cache

end Endpoints

/-! ## What a response consists of -/

section Response

variable {catalog : ConcertCatalog} {metaTtl : Int} {fails : Int → Bool} {s : HoldState}
  {cache : ConcertCache} {concertId : Int}

theorem hit_of_snapshot_eq {next : ConcertCache} (h : next.snapshot = cache.snapshot) :
    next.hit = cache.hit := by
  funext showId
  rw [ConcertCache.hit, ConcertCache.hit, h]

theorem hit_storeShowSnapshot (row : ConcertShow) (holdCount : Int) (keys : List String)
    {showId : Int} (hother : showId ≠ row.showId) :
    (cache.storeShowSnapshot row holdCount keys).hit showId = cache.hit showId := by
  unfold ConcertCache.hit ConcertCache.storeShowSnapshot
  dsimp only
  rw [Function.update_of_ne hother]

@[simp] theorem hit_dropBroken (showIds : List Int) :
    (cache.dropBroken showIds).hit = cache.hit := by
  funext showId
  unfold ConcertCache.hit ConcertCache.dropBroken
  cases hfound : cache.snapshot showId with
  | none => simp only [hfound]
  | some found =>
      cases found with
      | readable stored => simp only [hfound]
      | broken =>
          by_cases hasked : showId ∈ showIds
          · simp only [hfound, if_pos hasked]
          · simp only [hfound, if_neg hasked]

/-- The snapshot under the key of a show is one of that show. -/
theorem hit_written {showId : Int} {payload : ShowPayload} (h : cache.hit showId = some payload) :
    ∃ row holdCount keys, payload = showPayloadFromRow row holdCount keys ∧
      row.showId = showId := by
  unfold ConcertCache.hit at h
  split at h
  next stored _ =>
    obtain rfl := Option.some.inj h
    exact stored.written
  next => cases h
  next => cases h

theorem concertHeader_snapshot :
    (concertHeaderForBootstrap catalog concertId cache).2.snapshot = cache.snapshot := by
  unfold concertHeaderForBootstrap getConcertDetailCachedOrLoad
  dsimp only
  split <;> rfl

theorem concertHeader_showsMeta :
    (concertHeaderForBootstrap catalog concertId cache).2.showsMeta = cache.showsMeta := by
  unfold concertHeaderForBootstrap getConcertDetailCachedOrLoad
  dsimp only
  split <;> rfl

theorem getShowRows_snapshot (db : Db) :
    (getShowRowsForBootstrap catalog metaTtl db concertId cache).2.snapshot = cache.snapshot := by
  unfold getShowRowsForBootstrap
  split
  next => rfl
  next => split <;> rfl

theorem getShowRows_congr (db : Db) {next : ConcertCache} (h : next.showsMeta = cache.showsMeta) :
    (getShowRowsForBootstrap catalog metaTtl db concertId next).1 =
      (getShowRowsForBootstrap catalog metaTtl db concertId cache).1 := by
  unfold getShowRowsForBootstrap
  rw [h]
  split
  next => rfl
  next => split <;> rfl

theorem fetchConcertShowRow_eq_some {db : Db} {showId : Int} {row : ConcertShow} :
    fetchConcertShowRow db concertId showId = some row ↔
      row ∈ db.concertShows.rows ∧ row.showId = showId ∧ row.concertId = concertId := by
  rw [fetchConcertShowRow, Option.filter_eq_some_iff, Table.find_eq_some, and_assoc]
  simp [concertShowIx]

theorem freshRow_showId (db : Db) (row : ConcertShow) :
    (freshRow db row).showId = row.showId := by
  unfold freshRow
  split
  next =>
    cases hfound : fetchConcertShowRow db row.concertId row.showId with
    | none => rfl
    | some found => exact (fetchConcertShowRow_eq_some.mp hfound).2.1
  next => rfl

/-- The payload of a row: the cached one, or one that is built from a fetch for
the shows `showIds`. -/
def entryPayload (fails : Int → Bool) (s : HoldState) (cache : ConcertCache) (showIds : List Int)
    (row : ConcertShow) : ShowPayload :=
  (cache.hit row.showId).getD (buildShowSnapshot s.store fails s.db (freshRow s.db row) showIds)

theorem entryPayload_showId (showIds : List Int) (row : ConcertShow) :
    (entryPayload fails s cache showIds row).showId = row.showId := by
  unfold entryPayload
  cases hhit : cache.hit row.showId with
  | none => exact freshRow_showId s.db row
  | some payload =>
      obtain ⟨written, _, _, rfl, hshow⟩ := hit_written hhit
      exact hshow

/-- `_coalesced_fill_show_snapshot` with the keys of a fetch for several shows. -/
theorem coalescedFill_bulk (row : ConcertShow) (showIds : List Int) :
    (coalescedFillShowSnapshot fails s row (some
      ((fetchReservedSeatKeysByShow s.store fails s.db showIds).ofShow row.showId)) cache).1 =
      entryPayload fails s cache showIds row := by
  unfold coalescedFillShowSnapshot entryPayload buildShowSnapshot
  cases cache.hit row.showId with
  | none => simp only [Option.getD_some, Option.getD_none, freshRow_showId]
  | some payload => rfl

/-- `_coalesced_fill_show_snapshot` that fetches the keys itself. -/
theorem coalescedFill_alone (row : ConcertShow) :
    (coalescedFillShowSnapshot fails s row none cache).1 =
      entryPayload fails s cache [row.showId] row := by
  unfold coalescedFillShowSnapshot entryPayload buildShowSnapshot
  cases cache.hit row.showId with
  | none => simp only [Option.getD_none, freshRow_showId]
  | some payload => rfl

/-- It writes the key of its own show only. -/
theorem coalescedFill_hit_other (row : ConcertShow) (keys : Option (List String)) {showId : Int}
    (hother : showId ≠ row.showId) :
    (coalescedFillShowSnapshot fails s row keys cache).2.hit showId = cache.hit showId := by
  unfold coalescedFillShowSnapshot
  cases cache.hit row.showId with
  | none => exact hit_storeShowSnapshot _ _ _ (by rwa [freshRow_showId])
  | some payload => rfl

/-- The entry of a row in the end: only a hit has got the sale state. -/
def slotEntry (fails : Int → Bool) (s : HoldState) (cache : ConcertCache) (showIds : List Int)
    (row : ConcertShow) : ShowEntry :=
  ⟨entryPayload fails s cache showIds row,
    (cache.hit row.showId).map fun _ => getSaleState (s.sales row.showId)⟩

/-- The slots in the end: for each row the hit, or what a fetch for the missed
shows gives. -/
theorem fillMissed_entries {start : ConcertCache} {rows : List ConcertShow} (showIds : List Int)
    (hnodup : (rows.map ConcertShow.showId).Nodup)
    (hsame : ∀ row ∈ rows, cache.hit row.showId = start.hit row.showId) :
    (fillMissed fails s (fetchReservedSeatKeysByShow s.store fails s.db showIds)
        (rows.map fun row => (row, readSlot s start row)) cache).1 =
      rows.map (slotEntry fails s start showIds) := by
  induction rows generalizing cache with
  | nil => rfl
  | cons row rest ih =>
      obtain ⟨hnew, hrest⟩ := List.nodup_cons.mp hnodup
      obtain ⟨hrow, hothers⟩ := List.forall_mem_cons.mp hsame
      rw [List.map_cons, List.map_cons, readSlot]
      cases hhit : start.hit row.showId with
      | some payload =>
          rw [Option.map_some, fillMissed]
          dsimp only
          rw [ih hrest hothers, slotEntry, entryPayload, hhit, Option.getD_some, Option.map_some]
      | none =>
          rw [Option.map_none, fillMissed]
          dsimp only
          -- the keys of the other rows are as they were
          have hnext : ∀ other ∈ rest, (coalescedFillShowSnapshot fails s row
              (some ((fetchReservedSeatKeysByShow s.store fails s.db showIds).ofShow row.showId))
                cache).2.hit other.showId = start.hit other.showId := by
            intro other hother
            rw [coalescedFill_hit_other, hothers other hother]
            intro heq
            exact hnew (heq ▸ List.mem_map_of_mem hother)
          rw [ih hrest hnext, coalescedFill_bulk, slotEntry, entryPayload, entryPayload, hrow,
            hhit, Option.map_none]

/-- The rows that a response is about. -/
def bootstrapRows (catalog : ConcertCatalog) (metaTtl : Int) (db : Db) (concertId : Int)
    (showId : Option Int) (cache : ConcertCache) : List ConcertShow :=
  match showId.filter (0 < ·) with
  | some showId => (fetchConcertShowRow db concertId showId).toList
  | none => (getShowRowsForBootstrap catalog metaTtl db concertId cache).1.rows

/-- A request is answered if the concert has a header and, with a `show_id`, the
show is one of the concert. -/
theorem bootstrap_isSome {showId : Option Int} :
    (getConcertBookingBootstrap catalog metaTtl fails s concertId showId cache).1.isSome = true ↔
      (concertHeaderForBootstrap catalog concertId cache).1.isSome = true ∧
        ∀ asked ∈ showId.filter (0 < ·),
          (fetchConcertShowRow s.db concertId asked).isSome = true := by
  unfold getConcertBookingBootstrap
  cases showId.filter (0 < ·) with
  | none =>
      dsimp only [getConcertBootstrapCachedOrLoad]
      split
      next hheader => simp [hheader]
      next hheader => simp [hheader]
  | some asked =>
      dsimp only [getConcertBootstrapForShow]
      cases hrow : fetchConcertShowRow s.db concertId asked with
      | none => simp [hrow]
      | some row =>
          dsimp only
          split
          next hheader => simp [hheader]
          next hheader => simp [hheader, hrow]

theorem bootstrapForShow_entries {showId : Int} {body : ConcertBootstrap}
    (h : (getConcertBootstrapForShow catalog fails s concertId showId cache).1 = some body) :
    ∃ row, fetchConcertShowRow s.db concertId showId = some row ∧
      body.shows = [⟨entryPayload fails s cache [row.showId] row,
        some (getSaleState (s.sales showId))⟩] := by
  have hheader : (concertHeaderForBootstrap catalog concertId cache).2.hit = cache.hit :=
    hit_of_snapshot_eq concertHeader_snapshot
  unfold getConcertBootstrapForShow at h
  split at h
  next => cases h
  next row hrow =>
    split at h
    next => cases h
    next concert after hfound =>
      rw [hfound] at hheader
      obtain rfl := Option.some.inj h
      refine ⟨row, hrow, ?_⟩
      rw [coalescedFill_alone, entryPayload, entryPayload, hheader]

theorem bootstrapForShow_payloads {showId : Int} {body : ConcertBootstrap}
    (h : (getConcertBootstrapForShow catalog fails s concertId showId cache).1 = some body) :
    ∃ row, fetchConcertShowRow s.db concertId showId = some row ∧
      body.shows.map ShowEntry.payload = [entryPayload fails s cache [row.showId] row] := by
  obtain ⟨row, hrow, hshows⟩ := bootstrapForShow_entries h
  exact ⟨row, hrow, by rw [hshows, List.map_singleton]⟩

/-- Reading the header changes neither the rows nor the snapshots. -/
theorem getShowRows_afterHeader (metaTtl : Int) (db : Db) {concert : Option Row}
    {after : ConcertCache}
    (hfound : concertHeaderForBootstrap catalog concertId cache = (concert, after)) :
    (getShowRowsForBootstrap catalog metaTtl db concertId after).1 =
        (getShowRowsForBootstrap catalog metaTtl db concertId cache).1 ∧
      (getShowRowsForBootstrap catalog metaTtl db concertId after).2.hit = cache.hit := by
  have hheader : (concertHeaderForBootstrap catalog concertId cache).2.hit = cache.hit :=
    hit_of_snapshot_eq concertHeader_snapshot
  have hmeta : (concertHeaderForBootstrap catalog concertId cache).2.showsMeta = cache.showsMeta :=
    concertHeader_showsMeta
  rw [hfound] at hheader hmeta
  exact ⟨getShowRows_congr db hmeta, (hit_of_snapshot_eq (getShowRows_snapshot db)).trans hheader⟩

theorem bootstrapCachedOrLoad_entries {body : ConcertBootstrap}
    (h : (getConcertBootstrapCachedOrLoad catalog metaTtl fails s concertId cache).1 = some body) :
    body.shows =
      (getShowRowsForBootstrap catalog metaTtl s.db concertId cache).1.rows.map
        (slotEntry fails s cache (missIds cache
          (getShowRowsForBootstrap catalog metaTtl s.db concertId cache).1.rows)) := by
  unfold getConcertBootstrapCachedOrLoad at h
  split at h
  next => cases h
  next concert after hfound =>
    obtain rfl := Option.some.inj h
    obtain ⟨hrows, hhit⟩ := getShowRows_afterHeader metaTtl s.db hfound
    dsimp only
    rw [fillMissed_entries _ (ShowRows.nodup _) (by simp), hrows]
    unfold slotEntry entryPayload missIds
    rw [hhit]

theorem bootstrapCachedOrLoad_payloads {body : ConcertBootstrap}
    (h : (getConcertBootstrapCachedOrLoad catalog metaTtl fails s concertId cache).1 = some body) :
    body.shows.map ShowEntry.payload =
      (getShowRowsForBootstrap catalog metaTtl s.db concertId cache).1.rows.map
        (entryPayload fails s cache (missIds cache
          (getShowRowsForBootstrap catalog metaTtl s.db concertId cache).1.rows)) := by
  rw [bootstrapCachedOrLoad_entries h, List.map_map]
  rfl

/-- The entries of a response are the payloads of its rows, in their order. -/
theorem bootstrap_payloads {showId : Option Int} {body : ConcertBootstrap}
    (h : (getConcertBookingBootstrap catalog metaTtl fails s concertId showId cache).1 =
      some body) :
    body.shows.map ShowEntry.payload =
      (bootstrapRows catalog metaTtl s.db concertId showId cache).map (entryPayload fails s cache
        (missIds cache (bootstrapRows catalog metaTtl s.db concertId showId cache))) := by
  unfold getConcertBookingBootstrap at h
  unfold bootstrapRows
  split at h
  next asked hasked =>
    obtain ⟨row, hrow, hshows⟩ := bootstrapForShow_payloads h
    rw [hshows]
    simp only [hrow, Option.toList_some, List.map_singleton, List.cons.injEq, and_true]
    unfold entryPayload
    -- the fetch is for this show, if there is one at all
    cases hhit : cache.hit row.showId with
    | some payload => rfl
    | none => simp [missIds, hhit]
  next => rw [bootstrapCachedOrLoad_payloads h]

theorem forall_entries_iff {showId : Option Int} {body : ConcertBootstrap} (P : ShowPayload → Prop)
    (h : (getConcertBookingBootstrap catalog metaTtl fails s concertId showId cache).1 =
      some body) :
    (∀ entry ∈ body.shows, P entry.payload) ↔
      ∀ row ∈ bootstrapRows catalog metaTtl s.db concertId showId cache,
        P (entryPayload fails s cache
          (missIds cache (bootstrapRows catalog metaTtl s.db concertId showId cache)) row) := by
  rw [← List.forall_mem_map (f := ShowEntry.payload), bootstrap_payloads h, List.forall_mem_map]

theorem exists_entry_iff {showId : Option Int} {body : ConcertBootstrap} (P : ShowPayload → Prop)
    (h : (getConcertBookingBootstrap catalog metaTtl fails s concertId showId cache).1 =
      some body) :
    (∃ entry ∈ body.shows, P entry.payload) ↔
      ∃ row ∈ bootstrapRows catalog metaTtl s.db concertId showId cache,
        P (entryPayload fails s cache
          (missIds cache (bootstrapRows catalog metaTtl s.db concertId showId cache)) row) := by
  have hnone := not_congr (forall_entries_iff (fun payload => ¬ P payload) h)
  simpa only [not_forall, not_not, exists_prop] using hnone

end Response

end Ticketing
