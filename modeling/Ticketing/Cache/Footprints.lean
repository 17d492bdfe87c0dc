import Ticketing.Cache.Endpoints

/-!
# The footprints of the operations

Reading through the cache and refreshing it write keys of the read cache and no
others, holds write keys of holds, and the sale state of a show is written by
`set_sale_state` alone. This holds of every single command, so also of an operation
that is left by an exception.
-/

namespace Ticketing.Api

open Foundation Python

section Operations

variable {json : JsonText} {backend : Backend} {settings : CacheSettings}
  {footprint : String → Prop} {frame : Remote.Frame Redis}

theorem redisGet_keeps (key : String) : (redisGet key).Keeps frame :=
  Remote.keeps_call fun s => frame.refl s

theorem redisGetAll_keeps (keys : List String) : (redisGetAll keys).Keeps frame :=
  Remote.keeps_call fun s => frame.refl s

theorem redisMembers_keeps (key : String) : (redisMembers key).Keeps frame :=
  Remote.keeps_call fun s => frame.refl s

theorem otherServer_keeps : otherServer.Keeps frame := Remote.keeps_call fun s => frame.refl s

theorem redisSet_keeps {key : String} (hkey : footprint key) (text : String) :
    (redisSet key text).Keeps (KeyStore.writesOnly footprint) :=
  Remote.keeps_call fun _ => KeyStore.set_writesOnly hkey text

theorem redisDelete_keeps {keys : List String} (hkeys : ∀ key ∈ keys, footprint key) :
    (redisDelete keys).Keeps (KeyStore.writesOnly footprint) :=
  Remote.keeps_call fun _ => KeyStore.delete_writesOnly hkeys

/-- The keys of the read cache are all that reading and refreshing touches. -/
def readFrame : Remote.Frame Redis := KeyStore.writesOnly IsReadKey

theorem deleteReadKey_keeps (key : ReadKey) : (redisDelete [key.text]).Keeps readFrame :=
  redisDelete_keeps fun _ h => List.mem_singleton.mp h ▸ key.isReadKey

theorem cachedOrLoad_keeps (key : ReadKey) {load : Remote Redis (Option Json)}
    (hload : load.Keeps readFrame) : (cachedOrLoad json key load).Keeps readFrame := by
  refine (redisGet_keeps _).bind fun raw => ?_
  split
  next => exact hload
  next text _ =>
    split
    next => exact Remote.keeps_pure _
    next => exact (deleteReadKey_keeps key).bind fun _ => hload

theorem storeBuilt_keeps (key : ReadKey) : (storeBuilt json backend key).Keeps readFrame := by
  unfold storeBuilt
  split
  next payload _ => exact redisSet_keeps (key.isReadKey) _
  next => exact Remote.keeps_pure _

theorem loadAndStore_keeps (key : ReadKey) : (loadAndStore json backend key).Keeps readFrame :=
  otherServer_keeps.bind fun _ => (storeBuilt_keeps key).bind fun _ => Remote.keeps_pure _

/-! ## Movies and theaters -/

theorem cachedMovies_keeps (key : ReadKey) : (cachedMovies json backend key).Keeps readFrame := by
  refine (redisGet_keeps _).bind fun raw => ?_
  split
  next => exact loadAndStore_keeps key
  next text _ =>
    split
    next => exact Remote.keeps_pure _
    next => exact Remote.keeps_raise _

theorem buildBootstrapPayload_keeps : (buildBootstrapPayload json backend).Keeps readFrame := by
  have hrows : (loadMovieCacheRows json backend).Keeps readFrame := by
    refine (redisGet_keeps _).bind fun raw => ?_
    split
    next => exact Remote.keeps_pure _
    next => exact otherServer_keeps.bind fun _ => storeBuilt_keeps _
  exact hrows.bind fun _ => otherServer_keeps

theorem getTheatersBootstrap_keeps : (getTheatersBootstrap json backend).Keeps readFrame :=
  cachedOrLoad_keeps _ (buildBootstrapPayload_keeps.bind fun _ =>
    (storeBuilt_keeps _).bind fun _ => Remote.keeps_pure _)

theorem getTheaterDetail_keeps (theaterId : Int) :
    (getTheaterDetail json backend theaterId).Keeps readFrame := by
  refine cachedOrLoad_keeps _ (buildBootstrapPayload_keeps.bind fun _ => ?_)
  split
  next => exact Remote.keeps_pure _
  next => exact (storeBuilt_keeps _).bind fun _ => (storeBuilt_keeps _).bind fun _ =>
    Remote.keeps_pure _

theorem warmupTheatersBookingCaches_keeps :
    (warmupTheatersBookingCaches json backend).Keeps readFrame :=
  buildBootstrapPayload_keeps.bind fun _ => (storeBuilt_keeps _).bind fun _ =>
    Remote.Keeps.forM fun _ _ => storeBuilt_keeps _

theorem rebuildMovieCache_keeps : (rebuildMovieCache json backend).Keeps readFrame := by
  refine otherServer_keeps.bind fun _ => (storeBuilt_keeps _).bind fun _ =>
    otherServer_keeps.bind fun _ => Remote.Keeps.forM fun movieId _ => ?_
  refine otherServer_keeps.bind fun _ => ?_
  split
  next => exact deleteReadKey_keeps _
  next => exact redisSet_keeps (ReadKey.movieDetail movieId).isReadKey _

/-! ## Concerts -/

theorem concertHeaderForBootstrap_keeps (concertId : Int) :
    (concertHeaderForBootstrap json backend concertId).Keeps readFrame := by
  refine (cachedOrLoad_keeps _ (loadAndStore_keeps _)).bind fun detail => ?_
  split
  next => exact Remote.keeps_pure _
  next detail =>
    split
    next =>
      split
      next => exact Remote.keeps_pure _
      next => exact Remote.keeps_raise _
    next => exact Remote.keeps_pure _

theorem loadShowRows_keeps (concertId : Int) :
    (loadShowRows json backend concertId).Keeps readFrame := by
  refine otherServer_keeps.bind fun _ => ?_
  dsimp only
  split
  next => exact (redisSet_keeps (ReadKey.showsMeta concertId).isReadKey _).bind fun _ =>
    Remote.keeps_pure _
  next => exact Remote.keeps_pure _

theorem getShowRowsForBootstrap_keeps (concertId : Int) :
    (getShowRowsForBootstrap json backend settings concertId).Keeps readFrame := by
  unfold getShowRowsForBootstrap
  split
  next => exact otherServer_keeps.bind fun _ => Remote.keeps_pure _
  next =>
    refine (redisGet_keeps _).bind fun raw => ?_
    split
    next => exact loadShowRows_keeps concertId
    next text _ =>
      split
      next => exact Remote.keeps_pure _
      next => exact loadShowRows_keeps concertId
      next => exact (deleteReadKey_keeps _).bind fun _ => loadShowRows_keeps concertId

theorem allReserved_keeps (showIds : List Int) : (allReserved showIds).Keeps frame := by
  induction showIds with
  | nil => exact Remote.keeps_pure _
  | cons showId rest ih =>
      have hmembers : (reservedSeatsSnapshot showId).Keeps frame :=
        (redisMembers_keeps _).tryCatch fun _ => Remote.keeps_pure _
      refine hmembers.bind fun members => ?_
      split
      next => exact ih.bind fun _ => Remote.keeps_pure _
      next => exact Remote.keeps_pure _

theorem fetchReservedSeatKeysByShow_keeps (showIds : List Int) :
    (fetchReservedSeatKeysByShow showIds).Keeps frame := by
  unfold fetchReservedSeatKeysByShow
  split
  next => exact Remote.keeps_pure _
  next =>
    refine (allReserved_keeps showIds).bind fun complete => ?_
    split
    next => exact Remote.keeps_pure _
    next => exact otherServer_keeps

theorem fillShowSnapshot_keeps (row : Json) (showId : Int) (prefetched : Bool) :
    (fillShowSnapshot json backend row showId prefetched).Keeps readFrame := by
  have hcount : (reservedCount showId).Keeps readFrame :=
    ((redisMembers_keeps _).bind fun _ => Remote.keeps_pure _).tryCatch fun _ =>
      Remote.keeps_pure _
  have hstore : (do
      reservedCount showId
      storeBuilt json backend (.showSnapshot showId)
      return backend.build (.showSnapshot showId)).Keeps readFrame :=
    hcount.bind fun _ => (storeBuilt_keeps _).bind fun _ => Remote.keeps_pure _
  have hfetch : (do
      if prefetched = false then fetchReservedSeatKeysByShow [showId]
      reservedCount showId
      storeBuilt json backend (.showSnapshot showId)
      return backend.build (.showSnapshot showId)).Keeps readFrame := by
    dsimp only
    split
    next => exact (fetchReservedSeatKeysByShow_keeps _).bind fun _ => hstore
    next => exact hstore
  unfold fillShowSnapshot
  split
  next => exact Remote.keeps_raise _
  next concertId _ =>
    dsimp only at hfetch ⊢
    split
    next => exact otherServer_keeps.bind fun _ => hfetch
    next => exact hfetch

theorem coalescedFillShowSnapshot_keeps (row : Json) (prefetched : Bool) :
    (coalescedFillShowSnapshot json backend row prefetched).Keeps readFrame := by
  unfold coalescedFillShowSnapshot
  split
  next => exact Remote.keeps_raise _
  next showId _ =>
    exact (cachedOrLoad_keeps _ (cachedOrLoad_keeps _
      (fillShowSnapshot_keeps row showId prefetched))).bind fun _ => Remote.keeps_pure _

theorem mgetSaleStates_keeps (showIds : List Int) : (mgetSaleStates showIds).Keeps frame := by
  unfold mgetSaleStates
  split
  next => exact Remote.keeps_pure _
  next => exact (redisGetAll_keeps _).bind fun _ => Remote.keeps_pure _

theorem missedRows_keeps (rows : List ((Json × Int) × Option String)) :
    (missedRows json rows).Keeps readFrame := by
  induction rows with
  | nil => exact Remote.keeps_pure _
  | cons row rest ih =>
      rw [missedRows]
      split
      next => exact ih.bind fun _ => Remote.keeps_pure _
      next text _ =>
        split
        next => exact ih
        next =>
          exact (deleteReadKey_keeps _).bind fun _ => ih.bind fun _ => Remote.keeps_pure _

theorem readShowSnapshots_keeps (rows : List Json) :
    (readShowSnapshots json backend rows).Keeps readFrame := by
  unfold readShowSnapshots
  split
  next => exact Remote.keeps_raise _
  next showIds _ =>
    have hraws : ∀ keys, (redisMgetValues keys).Keeps readFrame := fun keys =>
      (Remote.Keeps.mapM' redisGetAll_keeps).bind fun _ => Remote.keeps_pure _
    exact (mgetSaleStates_keeps _).bind fun _ => (hraws _).bind fun _ =>
      (missedRows_keeps _).bind fun _ => (fetchReservedSeatKeysByShow_keeps _).bind fun _ =>
        Remote.Keeps.forM fun _ _ => coalescedFillShowSnapshot_keeps _ _

theorem getConcertBootstrapCachedOrLoad_keeps (concertId : Int) :
    (getConcertBootstrapCachedOrLoad json backend settings concertId).Keeps readFrame := by
  refine (concertHeaderForBootstrap_keeps concertId).bind fun found => ?_
  split
  next =>
    refine (getShowRowsForBootstrap_keeps concertId).bind fun rows => ?_
    split
    next => exact readShowSnapshots_keeps rows
    next => exact Remote.keeps_pure _
  next => exact Remote.keeps_pure _

theorem getConcertBootstrapForShow_keeps (concertId showId : Int) :
    (getConcertBootstrapForShow json backend concertId showId).Keeps readFrame := by
  refine otherServer_keeps.bind fun _ => ?_
  split
  next => exact Remote.keeps_pure _
  next row _ =>
    refine (concertHeaderForBootstrap_keeps concertId).bind fun found => ?_
    split
    next => exact (coalescedFillShowSnapshot_keeps row false).bind fun _ => mgetSaleStates_keeps _
    next => exact Remote.keeps_pure _

theorem getConcertBookingBootstrap_keeps (concertId : Int) (showId : Option Int) :
    (getConcertBookingBootstrap json backend settings concertId showId).Keeps readFrame := by
  unfold getConcertBookingBootstrap
  split
  next showId _ => exact getConcertBootstrapForShow_keeps concertId showId
  next => exact getConcertBootstrapCachedOrLoad_keeps concertId

theorem warmupConcertCaches_keeps :
    (warmupConcertCaches json backend settings).Keeps readFrame := by
  refine otherServer_keeps.bind fun _ => (storeBuilt_keeps _).bind fun _ => ?_
  split
  next =>
    exact Remote.Keeps.forM fun _ _ => otherServer_keeps.bind fun _ => storeBuilt_keeps _
  next => exact Remote.keeps_pure _

theorem invalidateConcertCachesAfterBooking_keeps (concertId showId : Int) :
    (invalidateConcertCachesAfterBooking concertId showId).Keeps readFrame := by
  refine (redisDelete_keeps fun key hkey => ?_).tryCatch fun _ => Remote.keeps_pure _
  rcases List.mem_cons.mp hkey with rfl | hkey
  · exact (ReadKey.concertBootstrap concertId).isReadKey
  · split at hkey
    next => exact List.mem_singleton.mp hkey ▸ (ReadKey.showSnapshot showId).isReadKey
    next => cases hkey

theorem invalidateConcertCatalogCaches_keeps (concertId : Int) :
    (invalidateConcertCatalogCaches concertId).Keeps readFrame := by
  refine (redisDelete_keeps fun key hkey => ?_).tryCatch fun _ => Remote.keeps_pure _
  have hkeys : key ∈ [ReadKey.concertsList, .concertDetail concertId,
      .concertBootstrap concertId, .showsMeta concertId].map ReadKey.text := hkey
  obtain ⟨readKey, _, rfl⟩ := List.mem_map.mp hkeys
  exact readKey.isReadKey

/-! ## Holds, sales and refunds -/

def holdFrame : Remote.Frame Redis := KeyStore.writesOnly IsHoldKey

theorem seatKey_isHoldKey (showId : Int) (seat : Seat) : IsHoldKey (seatKey showId seat) :=
  ⟨.seat showId seat, rfl, fun _ => by simp⟩

theorem reservedSetKey_isHoldKey (showId : Int) : IsHoldKey (reservedSetKey showId) :=
  ⟨.reservedSet showId, rfl, fun _ => by simp⟩

theorem holdMetaKey_isHoldKey (bookingRef : String) : IsHoldKey (holdMetaKey bookingRef) :=
  ⟨.holdMeta bookingRef, rfl, fun _ => by simp⟩

theorem seatKeys_areHoldKeys {showId : Int} {seats : List Seat} :
    ∀ key ∈ seats.map (seatKey showId), IsHoldKey key := by
  intro key hkey
  obtain ⟨seat, _, rfl⟩ := List.mem_map.mp hkey
  exact seatKey_isHoldKey showId seat

theorem releaseSeats_keeps (showId : Int) (seats : List Seat) (bookingRef : String) :
    (releaseSeats showId seats bookingRef).Keeps holdFrame := by
  unfold releaseSeats
  split
  next => exact Remote.keeps_pure _
  next =>
    refine (redisGetAll_keeps _).bind fun existing => Remote.keeps_call fun s => ?_
    exact holdFrame.trans (KeyStore.delete_writesOnly seatKeys_areHoldKeys)
      (KeyStore.removeMembers_writesOnly (reservedSetKey_isHoldKey showId) _)

theorem tryHoldSeats_keeps (now showId : Int) (seats : List Seat) (bookingRef : String) :
    (tryHoldSeats json settings now showId seats bookingRef).Keeps holdFrame := by
  unfold tryHoldSeats
  split
  next => exact Remote.keeps_pure _
  next =>
    have hset : (Remote.call (KeyStore.setNxAll bookingRef (seats.map (seatKey showId))) :
        Remote Redis (List Bool)).Keeps holdFrame :=
      Remote.keeps_call fun _ => KeyStore.setNxAll_writesOnly seatKeys_areHoldKeys bookingRef
    refine hset.bind fun results => ?_
    split
    next held _ =>
      refine Remote.Keeps.bind (Remote.keeps_call fun s => ?_) fun _ => Remote.keeps_pure _
      exact holdFrame.trans
        (KeyStore.addMembers_writesOnly (reservedSetKey_isHoldKey showId) _)
        (KeyStore.set_writesOnly (holdMetaKey_isHoldKey bookingRef) _)
    next held _ =>
      exact (releaseSeats_keeps showId held bookingRef).bind fun _ => Remote.keeps_pure _

theorem getSaleState_keeps (showId : Int) : (getSaleState json showId).Keeps frame :=
  (redisGet_keeps _).bind fun _ => Remote.keeps_pure _

theorem commitConcertBooking_keeps (now : Int) (bookingRef : String) (payload : Json) :
    (commitConcertBooking json settings now bookingRef payload).Keeps holdFrame := by
  unfold commitConcertBooking
  split
  next => exact Remote.keeps_raise _
  next => exact Remote.keeps_pure _
  next order _ =>
    refine (getSaleState_keeps _).bind fun sale => ?_
    split
    next => exact (getSaleState_keeps _).bind fun _ => Remote.keeps_pure _
    next =>
      refine (tryHoldSeats_keeps now _ _ bookingRef).bind fun reply => ?_
      split
      next => exact Remote.keeps_pure _
      next => exact otherServer_keeps.bind fun _ => Remote.keeps_pure _

theorem setConcertSale_keeps (now showId : Int) (status : String) :
    (setConcertSale json now showId status).Keeps
      (KeyStore.writesOnly fun key => key = saleKey showId) := by
  have hset : (setSaleState json now showId status none).Keeps
      (KeyStore.writesOnly fun key => key = saleKey showId) :=
    @redisSet_keeps (fun key => key = saleKey showId) _ rfl _
  exact hset.bind fun _ => getSaleState_keeps _

theorem refundMovieBooking_keeps (refunded : Bool) :
    (refundMovieBooking json backend refunded).Keeps readFrame := by
  refine otherServer_keeps.bind fun _ => ?_
  split
  next => exact warmupTheatersBookingCaches_keeps.tryCatch fun _ => Remote.keeps_pure _
  next => exact Remote.keeps_pure _

theorem refundConcertBooking_keeps (refunded : Bool) (concertId showId : Int) :
    (refundConcertBooking refunded concertId showId).Keeps readFrame := by
  refine otherServer_keeps.bind fun _ => ?_
  split
  next => exact invalidateConcertCachesAfterBooking_keeps _ _
  next => exact Remote.keeps_pure _

/-! ## The refreshers -/

theorem readCacheTargets_keep :
    ∀ refresher ∈ readCacheTargets json backend settings, refresher.Keeps readFrame := by
  simp only [readCacheTargets, List.forall_mem_cons, List.not_mem_nil, false_imp_iff,
    implies_true, and_true]
  exact ⟨rebuildMovieCache_keeps, warmupTheatersBookingCaches_keeps, warmupConcertCaches_keeps⟩

theorem warmup_keeps (concertOnly : Bool) :
    (warmup json backend settings concertOnly).Keeps readFrame := by
  refine Remote.Keeps.forM fun refresher hrefresher => ?_
  refine Remote.Keeps.tryCatch ?_ fun _ => Remote.keeps_pure _
  split at hrefresher
  next => exact List.mem_singleton.mp hrefresher ▸ warmupConcertCaches_keeps
  next => exact readCacheTargets_keep refresher hrefresher

end Operations

end Ticketing.Api
