import Ticketing.Cache.Footprints

/-!
# What a rebuild takes with it

The state of sales and holds is safe from every operation but its own, with one
exception: a rebuild flushes the whole logical database, and refills the part of it
that can be rebuilt.
-/

namespace Ticketing.Api

open Foundation Python

section Calls

variable {json : JsonText} {backend : Backend} {settings : CacheSettings} {now : Int}

/-- The keys that a call may change, unless it is a rebuild. -/
def ApiCall.footprint : ApiCall → String → Prop
  | .openConcertSale showId | .closeConcertSale showId => fun key => key = saleKey showId
  | .commitConcertBooking _ _ => IsHoldKey
  | _ => IsReadKey

theorem ApiCall.keeps_footprint {call : ApiCall} (hcall : call.isRebuild = false) :
    (call.program json backend settings now).Keeps (KeyStore.writesOnly call.footprint) := by
  have hvoid : ∀ {α : Type} {frame : Remote.Frame Redis} {x : Remote Redis α}, x.Keeps frame →
      (do let _ ← x).Keeps frame := fun hx => hx.bind fun _ => Remote.keeps_pure _
  cases call with
  | getMovies => exact hvoid (cachedMovies_keeps _)
  | getMovieDetail movieId => exact hvoid (cachedMovies_keeps _)
  | getTheatersBootstrap => exact hvoid getTheatersBootstrap_keeps
  | getTheaterDetail theaterId => exact hvoid (getTheaterDetail_keeps theaterId)
  | listConcerts => exact hvoid (cachedOrLoad_keeps _ (loadAndStore_keeps _))
  | getConcertDetail concertId => exact hvoid (cachedOrLoad_keeps _ (loadAndStore_keeps _))
  | getConcertBookingBootstrap concertId showId =>
      exact getConcertBookingBootstrap_keeps concertId showId
  | getConcertSale showId => exact hvoid (getSaleState_keeps showId)
  | openConcertSale showId => exact hvoid (setConcertSale_keeps now showId "OPEN")
  | closeConcertSale showId => exact hvoid (setConcertSale_keeps now showId "CLOSED")
  | commitConcertBooking bookingRef payload =>
      exact hvoid (commitConcertBooking_keeps now bookingRef payload)
  | refundMovieBooking refunded => exact refundMovieBooking_keeps refunded
  | refundConcertBooking refunded concertId showId =>
      exact refundConcertBooking_keeps refunded concertId showId
  | invalidateConcertCatalogCaches concertId =>
      exact invalidateConcertCatalogCaches_keeps concertId
  | warmup concertOnly => exact warmup_keeps concertOnly
  | rebuildAllCache running => cases hcall

/-- The key of the sale state of a show is not in the footprint of a call that does
not set it. -/
theorem ApiCall.saleKey_not_footprint {call : ApiCall} {showId : Int}
    (hcall : call.setsSale ≠ some showId) : ¬ call.footprint (saleKey showId) := by
  cases call with
  | openConcertSale other | closeConcertSale other =>
      intro hsame
      exact hcall (congrArg some (saleKey_injective hsame).symm)
  | commitConcertBooking _ _ => exact sale_not_isHoldKey showId
  | getMovies | getMovieDetail _ | getTheatersBootstrap | getTheaterDetail _ | listConcerts
  | getConcertDetail _ | getConcertBookingBootstrap _ _ | getConcertSale _ | refundMovieBooking _
  | refundConcertBooking _ _ _ | invalidateConcertCatalogCaches _ | warmup _
  | rebuildAllCache _ => exact (BookingKey.sale showId).not_isReadKey

/-! ## The rebuild -/

/-- The call is a rebuild that gets the lock, and Redis executes its FLUSHDB, the
first command of the call. -/
def ApiCall.Flushes (call : ApiCall) (faults : Nat → Option Fault) (s : Session Redis) :
    Prop :=
  call = .rebuildAllCache false ∧ ∀ fault ∈ faults s.calls, fault.executed = true

section Rebuild

variable {faults : Nat → Option Fault} {s : Session Redis}

/-- What a rebuild leaves behind a FLUSHDB that was executed has been built since. -/
theorem rebuild_flushed (hexecuted : ∀ fault ∈ faults s.calls, fault.executed = true) :
    readFrame.rel .empty (rebuildAllCache json backend settings false faults s).2.state := by
  have hrest : (do
      (readCacheTargets json backend settings).forM id
      return RebuildReply.success).Keeps readFrame :=
    (Remote.Keeps.forM readCacheTargets_keep).bind fun _ => Remote.keeps_pure _
  change readFrame.rel .empty (Remote.tryCatch _ _ faults s).2.state
  rw [Remote.tryCatch_pure_session]
  cases hfault : faults s.calls with
  | none =>
      have hflush : redisFlushdb faults s = (.ok (), ⟨.empty, s.calls + 1⟩) := by
        simp [redisFlushdb, Remote.call, hfault]
      rw [Remote.bind_of_ok hflush]
      exact hrest faults ⟨.empty, s.calls + 1⟩
  | some fault =>
      have hflush : redisFlushdb faults s = (.error fault.text, ⟨.empty, s.calls + 1⟩) := by
        simp [redisFlushdb, Remote.call, hfault, hexecuted fault hfault]
      rw [Remote.bind_of_error hflush]
      exact readFrame.refl _

/-- A rebuild that cannot flush has not begun. -/
theorem rebuild_unflushed {fault : Fault} (hfault : faults s.calls = some fault)
    (hnot : fault.executed = false) :
    (rebuildAllCache json backend settings false faults s).2.state = s.state := by
  have hflush : redisFlushdb faults s = (.error fault.text, ⟨s.state, s.calls + 1⟩) := by
    simp [redisFlushdb, Remote.call, hfault, hnot]
  change (Remote.tryCatch _ _ faults s).2.state = s.state
  rw [Remote.tryCatch_pure_session, Remote.bind_of_error hflush]

theorem program_rebuild_session (running : Bool) :
    ((ApiCall.rebuildAllCache running).program json backend settings now faults s).2 =
      (rebuildAllCache json backend settings running faults s).2 := by
  change (((rebuildAllCache json backend settings running) >>= fun _ => pure ()) faults s).2 = _
  cases hrun : rebuildAllCache json backend settings running faults s with
  | mk outcome next =>
      cases outcome with
      | ok reply =>
          rw [Remote.bind_of_ok hrun]
          rfl
      | error text => rw [Remote.bind_of_error hrun]

end Rebuild

theorem ApiCall.eq_rebuild {call : ApiCall} (h : call.isRebuild = true) :
    ∃ running, call = .rebuildAllCache running := by
  cases call with
  | rebuildAllCache running => exact ⟨running, rfl⟩
  | getMovies | getMovieDetail _ | getTheatersBootstrap | getTheaterDetail _ | listConcerts
  | getConcertDetail _ | getConcertBookingBootstrap _ _ | getConcertSale _ | openConcertSale _
  | closeConcertSale _ | commitConcertBooking _ _ | refundMovieBooking _
  | refundConcertBooking _ _ _ | invalidateConcertCatalogCaches _ | warmup _ => cases h

/-! ## What is to be kept -/

/-- Redis holds nothing under a key that is not one of the read cache. -/
def OnlyReadKeys (s : Redis) : Prop :=
  ∀ key, ¬ IsReadKey key → s.texts key = none ∧ s.sets key = []

/-- The call sets no sale state but that of its show, and a rebuild leaves every key
alone that is not one of the read cache: sale states, hold keys, reserved sets and
hold-meta keys among them. -/
structure KeepsBooking (json : JsonText) (call : ApiCall) (before after : Redis) : Prop where
  sales : ∀ showId, call.setsSale ≠ some showId →
    saleOf json (after.texts (saleKey showId)) = saleOf json (before.texts (saleKey showId))
  rebuild : call.isRebuild = true → ∀ key, ¬ IsReadKey key → KeyStore.Same key before after

theorem KeepsBooking.of_same {call : ApiCall} {before after : Redis}
    (h : ∀ key, ¬ IsReadKey key → KeyStore.Same key before after) :
    KeepsBooking json call before after :=
  ⟨fun showId _ => congrArg (saleOf json) (h _ (BookingKey.sale showId).not_isReadKey).1,
    fun _ => h⟩

theorem rebuild_keeps {running : Bool} {faults : Nat → Option Fault} {s : Session Redis}
    (hflushes : (ApiCall.rebuildAllCache running).Flushes faults s → OnlyReadKeys s.state)
    (key : String) (hkey : ¬ IsReadKey key) :
    KeyStore.Same key s.state
      ((ApiCall.rebuildAllCache running).program json backend settings now faults s).2.state := by
  rw [program_rebuild_session]
  cases running with
  | true => exact KeyStore.same_refl key s.state
  | false =>
      by_cases hexecuted : ∀ fault ∈ faults s.calls, fault.executed = true
      · have hnothing : KeyStore.Same key s.state .empty := by
          obtain ⟨htext, hset⟩ := hflushes ⟨rfl, hexecuted⟩ key hkey
          exact ⟨htext.symm, hset.symm⟩
        exact hnothing.trans (rebuild_flushed hexecuted key hkey)
      · simp only [not_forall, Bool.not_eq_true] at hexecuted
        obtain ⟨fault, hfault, hnot⟩ := hexecuted
        rw [rebuild_unflushed hfault hnot]
        exact KeyStore.same_refl key s.state

end Calls

/-- Whatever Redis holds and whichever commands of the call fail: the call keeps the
state of sales and holds exactly if it is not a rebuild whose FLUSHDB is executed, or
there is nothing else in Redis than keys of the read cache. -/
theorem keepsBooking_iff (json : JsonText) (backend : Backend) (settings : CacheSettings)
    (now : Int) (call : ApiCall) (faults : Nat → Option Fault) (s : Session Redis) :
    KeepsBooking json call s.state
        (call.program json backend settings now faults s).2.state ↔
      (call.Flushes faults s → OnlyReadKeys s.state) := by
  constructor
  · rintro hkeeps ⟨rfl, hexecuted⟩ key hkey
    have hsame := hkeeps.rebuild rfl key hkey
    have hflushed : KeyStore.Same key .empty
        (rebuildAllCache json backend settings false faults s).2.state :=
      rebuild_flushed hexecuted key hkey
    rw [program_rebuild_session] at hsame
    exact ⟨hsame.1.symm.trans hflushed.1, hsame.2.symm.trans hflushed.2⟩
  · intro hflushes
    cases hcall : call.isRebuild with
    | false =>
        refine ⟨fun showId hshow => ?_, fun hrebuild => ?_⟩
        · exact congrArg (saleOf json) (ApiCall.keeps_footprint hcall faults s (saleKey showId)
            (ApiCall.saleKey_not_footprint hshow)).1
        · rw [hcall] at hrebuild
          cases hrebuild
    | true =>
        obtain ⟨running, rfl⟩ := ApiCall.eq_rebuild hcall
        exact .of_same (rebuild_keeps hflushes)

/-! ## A closed sale and a held seat -/

/-- What `set_sale_state` writes to close a sale. -/
def closedText : String :=
  "\x7b\"status\": \"CLOSED\", \"close_at_epoch_ms\": null, \"updated_at_epoch_ms\": 0\x7d"

/-- The bootstrap of a database without theaters. -/
def emptyBootstrap : Json := .obj [("theaters", .arr []), ("halls", .arr []), ("movies", .arr []),
  ("schedules", .arr []), ("reservedSeats", .obj [])]

/-- The library, as far as a database without rows needs it. -/
def smallJson : JsonText where
  loads text :=
    if text = closedText then
      some (.obj [("status", .str "CLOSED"), ("close_at_epoch_ms", .null),
        ("updated_at_epoch_ms", .int 0)])
    else if text = "[]" then some (.arr [])
    else none
  dumps
    | .arr _ => "[]"
    | _ => "\x7b\"theaters\": [], \"halls\": [], \"movies\": [], \"schedules\": [], " ++
        "\"reservedSeats\": \x7b\x7d\x7d"

def emptyBackend : Backend where
  build
    | .moviesList | .concertsList => some (.arr [])
    | .theatersBootstrap => some emptyBootstrap
    | _ => none
  movieIds := []
  theaterIds := []
  concertIds := []
  showRow _ _ := none

/-- The sale of show 1 is closed, and its first seat is held. -/
def closedAndHeld : Redis where
  texts := Function.update (Function.update (fun _ => none) (saleKey 1) (some closedText))
    (seatKey 1 ⟨1, 1, Nat.one_pos, Nat.one_pos⟩) (some "first")
  sets := Function.update (fun _ => []) (reservedSetKey 1) ["1-1"]

/-- A rebuild of the cache without any fault. -/
def afterRebuild : Redis :=
  ((ApiCall.rebuildAllCache false).program smallJson emptyBackend ⟨120, false, 600⟩ 0
    (fun _ => none) ⟨closedAndHeld, 0⟩).2.state

/-- The sale is open again, and the seat free. -/
theorem rebuild_reopens_sale :
    ((saleOf smallJson (closedAndHeld.texts (saleKey 1))).closed = true ∧
        closedAndHeld.texts (seatKey 1 ⟨1, 1, Nat.one_pos, Nat.one_pos⟩) = some "first") ∧
      ((saleOf smallJson (afterRebuild.texts (saleKey 1))).closed = false ∧
        afterRebuild.texts (seatKey 1 ⟨1, 1, Nat.one_pos, Nat.one_pos⟩) = none) ∧
      ¬ KeepsBooking smallJson (.rebuildAllCache false) closedAndHeld afterRebuild := by
  have hbefore : (saleOf smallJson (closedAndHeld.texts (saleKey 1))).closed = true := by
    decide +kernel
  have hafter : (saleOf smallJson (afterRebuild.texts (saleKey 1))).closed = false := by
    decide +kernel
  refine ⟨⟨hbefore, by decide +kernel⟩, ⟨hafter, by decide +kernel⟩, fun hkeeps => ?_⟩
  have hsame := hkeeps.sales 1 (by simp [ApiCall.setsSale])
  rw [hsame, hbefore] at hafter
  cases hafter

end Ticketing.Api
