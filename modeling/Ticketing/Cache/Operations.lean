import Mathlib.Data.List.Basic
import Ticketing.Cache.Keys
import Ticketing.Concert.Write
import Ticketing.Foundation.KeyStore
import Ticketing.Foundation.Leases
import Ticketing.Python.Row

/-!
# What the APIs do to Redis

Every operation of the read and the write API that calls `redis_client`, as the
program of its Redis commands. A pipeline is one call. The database and the queue
are other servers: a request is given what the first one has for it, and a call to
either may raise like a Redis command. An expiry is not something an API does, so
times to live are left out, and so are the contents of responses.

The names are those of the source, in a namespace of their own: what these functions
compute, rather than which commands they send, is the subject of other modules.
-/

namespace Ticketing.Api

open Foundation Python

/-- The logical database of `redis_client`. -/
abbrev Redis := KeyStore String String String

/-- `json.loads` and `json.dumps`. A text that `loads` gives nothing for is a
JSONDecodeError. -/
structure JsonText where
  loads : String → Option Json
  dumps : Json → String

/-- What the database has for a request: the payload that the code builds for a key,
if there is one, the ids that its loops go through, and the row of one show. -/
structure Backend where
  build : ReadKey → Option Json
  movieIds : List Int
  theaterIds : List Int
  concertIds : List Int
  showRow : Int → Int → Option Json

/-- CONCERT_SHOWS_META_TTL_SEC, CONCERT_CACHE_WARMUP_MODE and
CONCERT_SEAT_HOLD_TTL_SEC. -/
structure CacheSettings where
  metaTtl : Int
  warmupFull : Bool
  holdTtl : Int

/-! ## Commands -/

def redisGet (key : String) : Remote Redis (Option String) :=
  Remote.call fun s => (s.texts key, s)

/-- MGET, and a pipeline of GETs. -/
def redisGetAll (keys : List String) : Remote Redis (List (Option String)) :=
  Remote.call fun s => (keys.map s.texts, s)

def redisSet (key text : String) : Remote Redis Unit := Remote.call fun s => ((), s.set key text)

def redisDelete (keys : List String) : Remote Redis Unit :=
  Remote.call fun s => ((), s.delete keys)

def redisMembers (key : String) : Remote Redis (List String) :=
  Remote.call fun s => (s.sets key, s)

def redisFlushdb : Remote Redis Unit := Remote.call fun _ => ((), .empty)

/-- A call to the database or to SQS. -/
def otherServer : Remote Redis Unit := Remote.call fun s => ((), s)

/-- `if raw:`. -/
def present (raw : Option String) : Option String := raw.filter (· ≠ "")

/-! ## Sale state -/

/-- `int(value)`; `none` for any exception. -/
def intOf : Json → Option Int
  | .int n => some n
  | .bool value => some (if value then 1 else 0)
  | .float (.finite _ truncated) => some truncated
  | .str text => intOfStr text.toList
  | .float (.infinity _) | .float .nan | .null | .arr _ | .obj _ => none

section Operations

variable (json : JsonText) (backend : Backend) (settings : CacheSettings)

/-- What `get_sale_state` makes of the text under its key. -/
def saleOf (raw : Option String) : Sale :=
  match (present raw).bind json.loads with
  | some (.obj fields) =>
      let state := Json.obj fields
      { closed := upperStr ((state.get "status").orElse (.str "OPEN")).toStr = "CLOSED".toList
        closeAtEpochMs := intOf (state.get "close_at_epoch_ms") }
  | _ => ⟨false, none⟩

def getSaleState (showId : Int) : Remote Redis Sale := do
  return saleOf json (← redisGet (saleKey showId))

/-- `set_sale_state`; `now` is the time in milliseconds. -/
def setSaleState (now showId : Int) (status : String) (closeAtEpochMs : Option Int) :
    Remote Redis Unit :=
  let st := upperStr (String.ofList (stripStr status.toList))
  let closeAt := (closeAtEpochMs.filter (· ≠ 0)).elim .null .int
  redisSet (saleKey showId) (json.dumps (.obj [
    ("status", .str (if st = "CLOSED".toList then "CLOSED" else "OPEN")),
    ("close_at_epoch_ms", closeAt), ("updated_at_epoch_ms", .int now)]))

/-- The command of `mget_sale_states`. -/
def mgetSaleStates (showIds : List Int) : Remote Redis Unit :=
  if showIds = [] then return ()
  else do
    let _ ← redisGetAll (showIds.map saleKey)

/-! ## Reading through the cache -/

/-- A key is read: its payload, or what `load` gives if there is no text, or one that
is not JSON, which is deleted. -/
def cachedOrLoad (key : ReadKey) (load : Remote Redis (Option Json)) :
    Remote Redis (Option Json) := do
  match present (← redisGet key.text) with
  | none => load
  | some text =>
      match json.loads text with
      | some payload => return some payload
      | none => do
          redisDelete [key.text]
          load

/-- The payload of a key is written, if there is one. -/
def storeBuilt (key : ReadKey) : Remote Redis Unit :=
  match backend.build key with
  | some payload => redisSet key.text (json.dumps payload)
  | none => return ()

def loadAndStore (key : ReadKey) : Remote Redis (Option Json) := do
  otherServer
  storeBuilt json backend key
  return backend.build key

/-! ## Movies and theaters -/

/-- A key of the movies is read. Here a text that is not JSON raises. -/
def cachedMovies (key : ReadKey) : Remote Redis (Option Json) := do
  match present (← redisGet key.text) with
  | none => loadAndStore json backend key
  | some text =>
      match json.loads text with
      | some payload => return some payload
      | none => Remote.raise "JSONDecodeError"

def getMovies : Remote Redis (Option Json) := cachedMovies json backend .moviesList

def getMovieDetailPayload (movieId : Int) : Remote Redis (Option Json) :=
  cachedMovies json backend (.movieDetail movieId)

/-- `_load_movie_cache_rows`. A text that is not JSON counts as an empty list. -/
def loadMovieCacheRows : Remote Redis Unit := do
  match present (← redisGet ReadKey.moviesList.text) with
  | some _ => return ()
  | none => do
      otherServer
      storeBuilt json backend .moviesList

def buildBootstrapPayload : Remote Redis Unit := do
  loadMovieCacheRows json backend
  otherServer

def getTheatersBootstrap : Remote Redis (Option Json) :=
  cachedOrLoad json .theatersBootstrap do
    buildBootstrapPayload json backend
    storeBuilt json backend .theatersBootstrap
    return backend.build .theatersBootstrap

def getTheaterDetail (theaterId : Int) : Remote Redis (Option Json) :=
  cachedOrLoad json (.theaterDetail theaterId) do
    buildBootstrapPayload json backend
    match backend.build (.theaterDetail theaterId) with
    | none => return none
    | some payload => do
        storeBuilt json backend .theatersBootstrap
        storeBuilt json backend (.theaterDetail theaterId)
        return some payload

def warmupTheatersBookingCaches : Remote Redis Unit := do
  buildBootstrapPayload json backend
  storeBuilt json backend .theatersBootstrap
  backend.theaterIds.forM fun theaterId => storeBuilt json backend (.theaterDetail theaterId)

def refreshMovieDetailCache (movieId : Int) : Remote Redis Unit := do
  otherServer
  match backend.build (.movieDetail movieId) with
  | none => redisDelete [(ReadKey.movieDetail movieId).text]
  | some payload => redisSet (ReadKey.movieDetail movieId).text (json.dumps payload)

def rebuildMovieCache : Remote Redis Unit := do
  otherServer
  storeBuilt json backend .moviesList
  otherServer
  backend.movieIds.forM (refreshMovieDetailCache json backend)

/-! ## Concerts -/

def getConcertsListCachedOrLoad : Remote Redis (Option Json) :=
  cachedOrLoad json .concertsList (loadAndStore json backend .concertsList)

def getConcertDetailCachedOrLoad (concertId : Int) : Remote Redis (Option Json) :=
  cachedOrLoad json (.concertDetail concertId)
    (loadAndStore json backend (.concertDetail concertId))

/-- `_concert_header_for_bootstrap`, as far as there is a header. -/
def concertHeaderForBootstrap (concertId : Int) : Remote Redis Bool := do
  match ← getConcertDetailCachedOrLoad json backend concertId with
  | none => return false
  | some detail =>
      if detail.truthy then
        match detail.item "concert" with
        | some (.obj _) => return true
        | _ => Remote.raise "no concert in the cached detail"
      else return false

def fetchConcertShowRows (concertId : Int) : List Json :=
  match backend.build (.showsMeta concertId) with
  | some (.arr rows) => rows
  | _ => []

/-- The end of `_get_show_rows_for_bootstrap`. -/
def loadShowRows (concertId : Int) : Remote Redis (List Json) := do
  otherServer
  let rows := fetchConcertShowRows backend concertId
  if rows ≠ [] then
    redisSet (ReadKey.showsMeta concertId).text (json.dumps (.arr rows))
  return rows

/-- `_get_show_rows_for_bootstrap`. A cached value that is no list stays where it
is until it is overwritten. -/
def getShowRowsForBootstrap (concertId : Int) : Remote Redis (List Json) :=
  if settings.metaTtl ≤ 0 then do
    otherServer
    return fetchConcertShowRows backend concertId
  else do
    match present (← redisGet (ReadKey.showsMeta concertId).text) with
    | none => loadShowRows json backend concertId
    | some text =>
        match json.loads text with
        | some (.arr rows) => return rows
        | some _ => loadShowRows json backend concertId
        | none => do
            redisDelete [(ReadKey.showsMeta concertId).text]
            loadShowRows json backend concertId

def reservedSeatsSnapshot (showId : Int) : Remote Redis (List String) :=
  Remote.tryCatch (redisMembers (reservedSetKey showId)) fun _ => return []

/-- The command of `reserved_count`. -/
def reservedCount (showId : Int) : Remote Redis Unit :=
  Remote.tryCatch (do let _ ← redisMembers (reservedSetKey showId)) fun _ => return ()

/-- The sort key of `_fetch_reserved_seat_keys_by_show` does not raise. -/
def isSortable (member : String) : Bool :=
  match member.toList.splitOn '-' with
  | first :: second :: _ => (intOfStr first).isSome && (intOfStr second).isSome
  | _ => false

/-- The loop over the reserved sets, left at the first one that cannot be sorted:
whether all of them have members. -/
def allReserved : List Int → Remote Redis Bool
  | [] => return true
  | showId :: rest => do
      let members ← reservedSeatsSnapshot showId
      if members.all isSortable then
        let others ← allReserved rest
        return others && !members.isEmpty
      else return false

def fetchReservedSeatKeysByShow (showIds : List Int) : Remote Redis Unit :=
  if showIds = [] then return ()
  else do
    let complete ← allReserved showIds
    if complete && decide showIds.Nodup then return () else otherServer

/-- `int(row["show_id"])`. -/
def showIdOf (row : Json) : Option Int := (row.item "show_id").bind intOf

/-- The end of `_coalesced_fill_show_snapshot`. `prefetched` says that the reserved
keys are given. -/
def fillShowSnapshot (row : Json) (showId : Int) (prefetched : Bool) :
    Remote Redis (Option Json) :=
  match intOf ((row.get "concert_id").orElse (.int 0)) with
  | none => Remote.raise "concert_id is no number"
  | some concertId => do
      -- the row is read again
      if 0 < concertId then otherServer
      if prefetched = false then fetchReservedSeatKeysByShow [showId]
      reservedCount showId
      storeBuilt json backend (.showSnapshot showId)
      return backend.build (.showSnapshot showId)

/-- `_coalesced_fill_show_snapshot`: the key is looked at once more behind the
lock. -/
def coalescedFillShowSnapshot (row : Json) (prefetched : Bool) : Remote Redis Unit :=
  match showIdOf row with
  | none => Remote.raise "the row has no show_id"
  | some showId => do
      let _ ← cachedOrLoad json (.showSnapshot showId)
        (cachedOrLoad json (.showSnapshot showId)
          (fillShowSnapshot json backend row showId prefetched))

def redisMgetValues (keys : List String) : Remote Redis (List (Option String)) := do
  let chunks ← (keys.toChunks 128).mapM' redisGetAll
  return chunks.flatten

/-- The loop over the rows and their snapshots: the rows that are missed. -/
def missedRows : List ((Json × Int) × Option String) → Remote Redis (List (Json × Int))
  | [] => return []
  | ((row, showId), raw) :: rest => do
      match present raw with
      | none =>
          let missed ← missedRows rest
          return (row, showId) :: missed
      | some text =>
          match json.loads text with
          | some _ => missedRows rest
          | none => do
              redisDelete [(ReadKey.showSnapshot showId).text]
              let missed ← missedRows rest
              return (row, showId) :: missed

/-- `get_concert_bootstrap_cached_or_load` behind the header. -/
def readShowSnapshots (rows : List Json) : Remote Redis Unit :=
  match rows.mapM showIdOf with
  | none => Remote.raise "a row has no show_id"
  | some showIds => do
      mgetSaleStates showIds
      let raws ← redisMgetValues (showIds.map fun showId => (ReadKey.showSnapshot showId).text)
      let missed ← missedRows json ((rows.zip showIds).zip raws)
      fetchReservedSeatKeysByShow (missed.map Prod.snd)
      missed.forM fun pair => coalescedFillShowSnapshot json backend pair.1 true

def getConcertBootstrapCachedOrLoad (concertId : Int) : Remote Redis Unit := do
  if ← concertHeaderForBootstrap json backend concertId then
    let rows ← getShowRowsForBootstrap json backend settings concertId
    if rows ≠ [] then readShowSnapshots json backend rows

def getConcertBootstrapForShow (concertId showId : Int) : Remote Redis Unit := do
  otherServer
  match backend.showRow concertId showId with
  | none => return ()
  | some row =>
      if ← concertHeaderForBootstrap json backend concertId then
        coalescedFillShowSnapshot json backend row false
        mgetSaleStates [showId]

def warmupConcertCaches : Remote Redis Unit := do
  otherServer
  storeBuilt json backend .concertsList
  if settings.warmupFull then
    backend.concertIds.forM fun concertId => do
      otherServer
      storeBuilt json backend (.concertDetail concertId)

def invalidateConcertCachesAfterBooking (concertId showId : Int) : Remote Redis Unit :=
  Remote.tryCatch (redisDelete ((ReadKey.concertBootstrap concertId).text ::
    if 0 < showId then [(ReadKey.showSnapshot showId).text] else [])) fun _ => return ()

def invalidateConcertCatalogCaches (concertId : Int) : Remote Redis Unit :=
  Remote.tryCatch (redisDelete [ReadKey.concertsList.text, (ReadKey.concertDetail concertId).text,
    (ReadKey.concertBootstrap concertId).text, (ReadKey.showsMeta concertId).text])
    fun _ => return ()

end Operations

end Ticketing.Api
