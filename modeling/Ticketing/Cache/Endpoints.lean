import Ticketing.Cache.Operations

/-!
# The requests to the APIs

The write API puts the state of sales and holds into the Redis database that the
read API fills and the rebuild flushes. An `ApiCall` is one run of an operation
that sends a command there: an endpoint, the warmup of the read API, or the
invalidation that deployments use.
-/

namespace Ticketing.Api

open Foundation Python

section Endpoints

variable (json : JsonText) (backend : Backend) (settings : CacheSettings)

/-! ## Holds -/

/-- The value of the hold-meta key; `now` is the time in milliseconds. -/
def holdMeta (now showId : Int) (seats : List Seat) : Json := .obj [
  ("show_id", .int showId), ("seats", .arr (seats.map fun seat => .str seat.key)),
  ("ttl_sec", .int (max 10 settings.holdTtl)), ("created_at_epoch_ms", .int now)]

/-- `release_seats`. -/
def releaseSeats (showId : Int) (seats : List Seat) (bookingRef : String) : Remote Redis Unit :=
  if seats = [] then return ()
  else do
    let existing ← redisGetAll (seats.map (seatKey showId))
    let own := ((seats.zip existing).filter fun pair => pair.2.getD "" = bookingRef).map Prod.fst
    Remote.call fun s => ((), (s.delete (own.map (seatKey showId))).removeMembers
      (reservedSetKey showId) (own.map Seat.key))

/-- `try_hold_seats`; nothing for HELD. -/
def tryHoldSeats (now showId : Int) (seats : List Seat) (bookingRef : String) :
    Remote Redis (Option CommitReply) :=
  if seats = [] then return some .noSeats
  else do
    let results ← Remote.call (KeyStore.setNxAll bookingRef (seats.map (seatKey showId)))
    match Leases.acquired seats results with
    | (held, true) => do
        Remote.call fun s => ((), (s.addMembers (reservedSetKey showId) (held.map Seat.key)).set
          (holdMetaKey bookingRef) (json.dumps (holdMeta settings now showId held)))
        return none
    | (held, false) => do
        releaseSeats showId held bookingRef
        return some .duplicateSeat

/-- `commit_concert_booking`, with the time and the new UUID. -/
def commitConcertBooking (now : Int) (bookingRef : String) (payload : Json) :
    Remote Redis CommitReply :=
  match readConcertOrder payload with
  | none => Remote.raise "cannot convert float infinity to integer"
  | some (.error reply) => return reply
  | some (.ok order) => do
      if (← getSaleState json order.showId).closed then
        return .salesClosed (← getSaleState json order.showId)
      else
        match ← tryHoldSeats json settings now order.showId order.seats bookingRef with
        | some reply => return reply
        | none => do
            otherServer
            return .queued bookingRef

/-! ## The other endpoints, and the warmup -/

def getConcertBookingBootstrap (concertId : Int) (showId : Option Int) : Remote Redis Unit :=
  match showId.filter (0 < ·) with
  | some showId => getConcertBootstrapForShow json backend concertId showId
  | none => getConcertBootstrapCachedOrLoad json backend settings concertId

/-- `open_concert_sale` and `close_concert_sale`. -/
def setConcertSale (now showId : Int) (status : String) : Remote Redis Sale := do
  setSaleState json now showId status none
  getSaleState json showId

/-- `_refund_movie_booking`; `refunded` says whether the transaction has committed. -/
def refundMovieBooking (refunded : Bool) : Remote Redis Unit := do
  otherServer
  if refunded then
    Remote.tryCatch (warmupTheatersBookingCaches json backend) fun _ => return ()

/-- `_refund_concert_booking`, with the ids that the transaction has found. -/
def refundConcertBooking (refunded : Bool) (concertId showId : Int) : Remote Redis Unit := do
  otherServer
  if refunded && decide (0 < concertId) then
    invalidateConcertCachesAfterBooking concertId showId

/-- The refreshers of READ_CACHE_TARGETS. -/
def readCacheTargets : List (Remote Redis Unit) :=
  [rebuildMovieCache json backend, warmupTheatersBookingCaches json backend,
    warmupConcertCaches json backend settings]

/-- `_warmup_all_sync`, and `_warmup_concert_only_sync` with `concertOnly`. -/
def warmup (concertOnly : Bool) : Remote Redis Unit :=
  (if concertOnly then [warmupConcertCaches json backend settings]
    else readCacheTargets json backend settings).forM fun refresher =>
      Remote.tryCatch refresher fun _ => return ()

/-- The answers of `rebuild_all_cache`. -/
inductive RebuildReply where
  | alreadyRunning
  | success
  | failed (message : String)
deriving DecidableEq

def RebuildReply.statusCode : RebuildReply → Nat
  | .alreadyRunning => 409
  | .success => 200
  | .failed _ => 500

/-- `rebuild_all_cache`; `running` says whether another thread has the lock. -/
def rebuildAllCache (running : Bool) : Remote Redis RebuildReply :=
  if running then return .alreadyRunning
  else
    Remote.tryCatch (do
      redisFlushdb
      (readCacheTargets json backend settings).forM id
      return .success) fun text => return .failed ("cache rebuild failed: " ++ text)

/-! ## Calls -/

inductive ApiCall where
  | getMovies
  | getMovieDetail (movieId : Int)
  | getTheatersBootstrap
  | getTheaterDetail (theaterId : Int)
  | listConcerts
  | getConcertDetail (concertId : Int)
  | getConcertBookingBootstrap (concertId : Int) (showId : Option Int)
  | getConcertSale (showId : Int)
  | openConcertSale (showId : Int)
  | closeConcertSale (showId : Int)
  | commitConcertBooking (bookingRef : String) (payload : Json)
  | refundMovieBooking (refunded : Bool)
  | refundConcertBooking (refunded : Bool) (concertId showId : Int)
  | invalidateConcertCatalogCaches (concertId : Int)
  | warmup (concertOnly : Bool)
  | rebuildAllCache (running : Bool)

/-- What a call does to Redis. -/
def ApiCall.program (now : Int) : ApiCall → Remote Redis Unit
  | .getMovies => do
      let _ ← Api.getMovies json backend
  | .getMovieDetail movieId => do
      let _ ← getMovieDetailPayload json backend movieId
  | .getTheatersBootstrap => do
      let _ ← Api.getTheatersBootstrap json backend
  | .getTheaterDetail theaterId => do
      let _ ← Api.getTheaterDetail json backend theaterId
  | .listConcerts => do
      let _ ← getConcertsListCachedOrLoad json backend
  | .getConcertDetail concertId => do
      let _ ← getConcertDetailCachedOrLoad json backend concertId
  | .getConcertBookingBootstrap concertId showId =>
      Api.getConcertBookingBootstrap json backend settings concertId showId
  | .getConcertSale showId => do
      let _ ← getSaleState json showId
  | .openConcertSale showId => do
      let _ ← setConcertSale json now showId "OPEN"
  | .closeConcertSale showId => do
      let _ ← setConcertSale json now showId "CLOSED"
  | .commitConcertBooking bookingRef payload => do
      let _ ← Api.commitConcertBooking json settings now bookingRef payload
  | .refundMovieBooking refunded => Api.refundMovieBooking json backend refunded
  | .refundConcertBooking refunded concertId showId =>
      Api.refundConcertBooking refunded concertId showId
  | .invalidateConcertCatalogCaches concertId => Api.invalidateConcertCatalogCaches concertId
  | .warmup concertOnly => Api.warmup json backend settings concertOnly
  | .rebuildAllCache running => do
      let _ ← Api.rebuildAllCache json backend settings running

/-- The show whose sale state the call sets. -/
def ApiCall.setsSale : ApiCall → Option Int
  | .openConcertSale showId | .closeConcertSale showId => some showId
  | _ => none

def ApiCall.isRebuild : ApiCall → Bool
  | .rebuildAllCache _ => true
  | _ => false

end Endpoints

end Ticketing.Api
