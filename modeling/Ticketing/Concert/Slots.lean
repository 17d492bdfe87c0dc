import Ticketing.Concert.Bootstrap
import Ticketing.Foundation.Slots

/-!
# The slots of a bootstrap response

`get_concert_bootstrap_cached_or_load` loop by loop: the snapshots are read in
chunks, hits go to the slots of their rows, the missed places are filled in a
second pass, and what is still empty is left out. A key stands for its text, which
tells the show.
-/

namespace Ticketing

open Foundation Python

/-- What a snapshot key holds. -/
def ConcertCache.raw (cache : ConcertCache) (showId : Int) : Option (Cached ShowPayload) :=
  (cache.snapshot showId).map fun
    | .readable stored => .readable stored.payload
    | .broken => .broken

/-- `redis_client.delete(key)` for a snapshot key. -/
def ConcertCache.deleteSnapshot (cache : ConcertCache) (showId : Int) : ConcertCache :=
  { cache with snapshot := Function.update cache.snapshot showId none }

/-- `_redis_mget_values`. -/
def redisMgetValues (cache : ConcertCache) (keys : List Int) (chunkSize : Nat) :
    List (Option (Cached ShowPayload)) :=
  if keys = [] then [] else chunked (List.map cache.raw) chunkSize keys

/-- The local variables of the first loop, with the cache. -/
structure SlotState where
  slot : List (Option ShowEntry)
  missed : List (Nat × ConcertShow)
  cache : ConcertCache

section Loops

variable (fails : Int → Bool) (s : HoldState)

/-- One turn of the loop over `enumerate(zip(show_rows, raws, keys))`. -/
def readTurn (state : SlotState) :
    (ConcertShow × Option (Cached ShowPayload)) × Nat → SlotState
  | ((row, raw), i) =>
      match raw with
      | some (.readable snap) =>
          { state with
            slot := state.slot.set i (some ⟨snap, some (getSaleState (s.sales row.showId))⟩) }
      -- a text that is not JSON is deleted, and the row becomes a miss
      | some .broken =>
          { state with
            missed := state.missed ++ [(i, row)]
            cache := state.cache.deleteSnapshot row.showId }
      | none => { state with missed := state.missed ++ [(i, row)] }

/-- The first loop. -/
def readSnapshots (rows : List ConcertShow) (cache : ConcertCache) : SlotState :=
  ((rows.zip (redisMgetValues cache (rows.map ConcertShow.showId) 128)).zipIdx).foldl (readTurn s)
    ⟨List.replicate rows.length none, [], cache⟩

/-- One turn of the loop over `missed`. -/
def fillTurn (reservedBulk : SeatKeys) (state : List (Option ShowEntry) × ConcertCache) :
    Nat × ConcertShow → List (Option ShowEntry) × ConcertCache
  | (i, row) =>
      let (payload, cache) :=
        coalescedFillShowSnapshot fails s row (some (reservedBulk.ofShow row.showId)) state.2
      (state.1.set i (some ⟨payload, none⟩), cache)

/-- The part of `get_concert_bootstrap_cached_or_load` behind the rows: what is in
`shows_filled`, and the cache. -/
def fillShows (rows : List ConcertShow) (cache : ConcertCache) : List ShowEntry × ConcertCache :=
  if rows = [] then ([], cache)
  else
    let state := readSnapshots s rows cache
    let (slot, cache) :=
      if state.missed = [] then (state.slot, state.cache)
      else
        let missIds := state.missed.map fun place => place.2.showId
        let reservedBulk := fetchReservedSeatKeysByShow s.store fails s.db missIds
        state.missed.foldl (fillTurn fails s reservedBulk) (state.slot, state.cache)
    (slot.filterMap id, cache)

/-- `get_concert_bootstrap_cached_or_load` with its loops. -/
def getConcertBootstrapBySlots (catalog : ConcertCatalog) (metaTtl : Int) (concertId : Int)
    (cache : ConcertCache) : Option ConcertBootstrap × ConcertCache :=
  match concertHeaderForBootstrap catalog concertId cache with
  | (none, cache) => (none, cache)
  | (some concert, cache) =>
      let (shows, cache) := getShowRowsForBootstrap catalog metaTtl s.db concertId cache
      let (entries, cache) := fillShows fails s shows.rows cache
      (some ⟨concert, entries⟩, cache)

end Loops

section FirstPass

variable {s : HoldState} {cache : ConcertCache}

theorem redisMgetValues_eq (keys : List Int) :
    redisMgetValues cache keys 128 = keys.map cache.raw := by
  unfold redisMgetValues
  split
  next hnil => rw [hnil, List.map_nil]
  next => exact chunked_map cache.raw (by decide) keys

theorem readSlot_eq_of_raw {row : ConcertShow} :
    readSlot s cache row =
      match cache.raw row.showId with
      | some (.readable snap) => some ⟨snap, some (getSaleState (s.sales row.showId))⟩
      | some .broken | none => none := by
  unfold readSlot ConcertCache.hit ConcertCache.raw
  cases cache.snapshot row.showId with
  | none => rfl
  | some found => cases found <;> rfl

/-- The keys of the rows that the first loop has deleted. -/
def ConcertCache.deleteBroken (found cache : ConcertCache) : List ConcertShow → ConcertCache
  | [] => cache
  | row :: rest =>
      match found.raw row.showId with
      | some .broken => (found.deleteBroken (cache.deleteSnapshot row.showId) rest)
      | some (.readable _) | none => found.deleteBroken cache rest

theorem deleteBroken_cons (now : ConcertCache) (row : ConcertShow) (rest : List ConcertShow) :
    cache.deleteBroken now (row :: rest) =
      match cache.raw row.showId with
      | some .broken => cache.deleteBroken (now.deleteSnapshot row.showId) rest
      | some (.readable _) | none => cache.deleteBroken now rest := rfl

/-- The first loop from any place on: the slots of the rows that are hits are set,
the others are put down. -/
theorem foldl_readTurn (rows : List ConcertShow) (front : List (Option ShowEntry))
    (missed : List (Nat × ConcertShow)) (now : ConcertCache) :
    ((rows.zip (rows.map fun row => cache.raw row.showId)).zipIdx front.length).foldl (readTurn s)
        ⟨front ++ List.replicate rows.length none, missed, now⟩ =
      ⟨front ++ rows.map (readSlot s cache),
        missed ++ missedFrom (readSlot s cache) front.length rows,
        cache.deleteBroken now rows⟩ := by
  induction rows generalizing front missed now with
  | nil => simp [ConcertCache.deleteBroken]
  | cons row rest ih =>
      have hnext : ∀ slot : Option ShowEntry, front.length + 1 = (front ++ [slot]).length := by
        intro slot
        simp
      rw [List.map_cons, List.zip_cons_cons, List.zipIdx_cons, List.foldl_cons, List.length_cons,
        List.replicate_succ, List.map_cons, deleteBroken_cons]
      cases hraw : cache.raw row.showId with
      | none =>
          have hslot : readSlot s cache row = none := by rw [readSlot_eq_of_raw, hraw]
          simp only [readTurn, hslot]
          rw [hnext none, List.append_cons front none, ih, missedFrom_missed hslot]
          simp
      | some found =>
          cases found with
          | readable snap =>
              have hslot : readSlot s cache row =
                  some ⟨snap, some (getSaleState (s.sales row.showId))⟩ := by
                rw [readSlot_eq_of_raw, hraw]
              simp only [readTurn, hslot]
              rw [set_front, hnext (readSlot s cache row), ← hslot, ih, missedFrom_served hslot]
              simp
          | broken =>
              have hslot : readSlot s cache row = none := by rw [readSlot_eq_of_raw, hraw]
              simp only [readTurn, hslot]
              rw [hnext none, List.append_cons front none, ih, missedFrom_missed hslot]
              simp

theorem snapshot_deleteBroken (now : ConcertCache) (rows : List ConcertShow) (showId : Int) :
    (cache.deleteBroken now rows).snapshot showId =
      if showId ∈ rows.map ConcertShow.showId then
        match cache.raw showId with
        | some .broken => none
        | some (.readable _) | none => now.snapshot showId
      else now.snapshot showId := by
  induction rows generalizing now with
  | nil => simp [ConcertCache.deleteBroken]
  | cons row rest ih =>
      rw [deleteBroken_cons]
      by_cases hrow : showId = row.showId
      · subst hrow
        cases hraw : cache.raw row.showId with
        | none => simp [ih, hraw]
        | some found => cases found <;> simp [ih, hraw, ConcertCache.deleteSnapshot]
      · cases hraw : cache.raw row.showId with
        | none => simp [ih, hrow]
        | some found => cases found <;> simp [ih, hrow, ConcertCache.deleteSnapshot]

theorem deleteBroken_other (now : ConcertCache) (rows : List ConcertShow) :
    (cache.deleteBroken now rows).detail = now.detail ∧
      (cache.deleteBroken now rows).showsMeta = now.showsMeta := by
  induction rows generalizing now with
  | nil => exact ⟨rfl, rfl⟩
  | cons row rest ih =>
      rw [deleteBroken_cons]
      split
      next => exact ih (now.deleteSnapshot row.showId)
      next => exact ih now
      next => exact ih now

theorem deleteBroken_self (rows : List ConcertShow) :
    cache.deleteBroken cache rows = cache.dropBroken (rows.map ConcertShow.showId) := by
  obtain ⟨hdetail, hmeta⟩ := @deleteBroken_other cache cache rows
  have hsnapshot : (cache.deleteBroken cache rows).snapshot =
      (cache.dropBroken (rows.map ConcertShow.showId)).snapshot := by
    funext showId
    rw [snapshot_deleteBroken]
    unfold ConcertCache.raw ConcertCache.dropBroken
    cases hfound : cache.snapshot showId with
    | none => simp [hfound]
    | some found => cases found <;> simp [hfound]
  cases hafter : cache.deleteBroken cache rows
  rw [hafter] at hdetail hmeta hsnapshot
  cases hdetail
  cases hmeta
  cases hsnapshot
  rfl

theorem readSnapshots_eq (rows : List ConcertShow) :
    readSnapshots s rows cache =
      ⟨rows.map (readSlot s cache), missedFrom (readSlot s cache) 0 rows,
        cache.dropBroken (rows.map ConcertShow.showId)⟩ := by
  have hloop := @foldl_readTurn s cache rows [] [] cache
  rw [List.nil_append, List.nil_append, List.nil_append, deleteBroken_self] at hloop
  rw [readSnapshots, redisMgetValues_eq, List.map_map]
  exact hloop

end FirstPass

section SecondPass

variable {fails : Int → Bool} {s : HoldState} {cache : ConcertCache}

/-- The second loop from any place on fills what the first one has missed. -/
theorem foldl_fillTurn (reservedBulk : SeatKeys) (start : ConcertCache) (rows : List ConcertShow)
    (front : List (Option ShowEntry)) (now : ConcertCache) :
    (missedFrom (readSlot s start) front.length rows).foldl (fillTurn fails s reservedBulk)
        (front ++ rows.map (readSlot s start), now) =
      (front ++ (fillMissed fails s reservedBulk
          (rows.map fun row => (row, readSlot s start row)) now).1.map some,
        (fillMissed fails s reservedBulk
          (rows.map fun row => (row, readSlot s start row)) now).2) := by
  induction rows generalizing front now with
  | nil => rfl
  | cons row rest ih =>
      have hnext : ∀ slot : Option ShowEntry, front.length + 1 = (front ++ [slot]).length := by
        intro slot
        simp
      rw [List.map_cons, List.map_cons]
      cases hslot : readSlot s start row with
      | some entry =>
          rw [missedFrom_served hslot, hnext (some entry), List.append_cons front (some entry), ih,
            fillMissed]
          simp
      | none =>
          rw [missedFrom_missed hslot, List.foldl_cons, fillMissed]
          simp only [fillTurn]
          rw [set_front, hnext, ih]
          simp

/-- The two loops and the filter are the recursion over the rows. -/
theorem fillShows_eq (rows : List ConcertShow) :
    fillShows fails s rows cache =
      fillMissed fails s (fetchReservedSeatKeysByShow s.store fails s.db (missIds cache rows))
        (rows.map fun row => (row, readSlot s cache row))
        (cache.dropBroken (rows.map ConcertShow.showId)) := by
  have hmissIds : (missedFrom (readSlot s cache) 0 rows).map (fun place => place.2.showId) =
      missIds cache rows := by
    have hrows := congrArg (List.map ConcertShow.showId)
      (missedFrom_rows (readSlot s cache) 0 rows)
    rw [List.map_map] at hrows
    simpa [missIds, readSlot, Function.comp_def] using hrows
  have hloop := @foldl_fillTurn fails s (fetchReservedSeatKeysByShow s.store fails s.db
    (missIds cache rows)) cache rows [] (cache.dropBroken (rows.map ConcertShow.showId))
  rw [List.nil_append, List.nil_append, List.length_nil] at hloop
  unfold fillShows
  split
  next hnil =>
    subst hnil
    exact congrArg (Prod.mk []) (@deleteBroken_self cache [])
  next =>
    rw [readSnapshots_eq]
    dsimp only
    rw [hmissIds]
    split
    next hnone =>
      rw [hnone, List.foldl_nil] at hloop
      rw [hloop]
      simp
    next =>
      rw [hloop]
      simp

theorem getConcertBootstrapBySlots_eq (catalog : ConcertCatalog) (metaTtl : Int)
    (concertId : Int) :
    getConcertBootstrapBySlots fails s catalog metaTtl concertId cache =
      getConcertBootstrapCachedOrLoad catalog metaTtl fails s concertId cache := by
  unfold getConcertBootstrapBySlots getConcertBootstrapCachedOrLoad
  rcases concertHeaderForBootstrap catalog concertId cache with ⟨_ | concert, after⟩
  · rfl
  · dsimp only
    rw [fillShows_eq]

end SecondPass

/-! ## One entry for each row -/

section Rows

variable {fails : Int → Bool} {s : HoldState} {cache : ConcertCache}

/-- The two passes give one entry for each row, the i-th entry for the i-th row. -/
theorem fillShows_showIds {rows : List ConcertShow} (hnodup : (rows.map ConcertShow.showId).Nodup) :
    (fillShows fails s rows cache).1.map (fun entry => entry.payload.showId) =
      rows.map ConcertShow.showId := by
  rw [fillShows_eq, fillMissed_entries _ hnodup (by simp), List.map_map]
  exact List.map_congr_left fun row _ => entryPayload_showId (missIds cache rows) row

/-- Whatever the snapshot keys hold, rows with different show ids get one entry
each, in their order, and so do the rows that a response is about. -/
theorem shows_match_rows (fails : Int → Bool) (s : HoldState) (cache : ConcertCache) :
    (∀ rows : List ConcertShow, (rows.map ConcertShow.showId).Nodup →
      (fillShows fails s rows cache).1.map (fun entry => entry.payload.showId) =
        rows.map ConcertShow.showId) ∧
    ∀ catalog metaTtl concertId body,
      (getConcertBootstrapBySlots fails s catalog metaTtl concertId cache).1 = some body →
        body.shows.map (fun entry => entry.payload.showId) =
          (getShowRowsForBootstrap catalog metaTtl s.db concertId cache).1.rows.map
            ConcertShow.showId := by
  refine ⟨fun rows hnodup => fillShows_showIds hnodup, ?_⟩
  intro catalog metaTtl concertId body hbody
  rw [getConcertBootstrapBySlots_eq] at hbody
  rw [bootstrapCachedOrLoad_entries hbody, List.map_map]
  exact List.map_congr_left fun row _ => entryPayload_showId _ row

end Rows

/-- Three shows: the snapshot of show 1 is there, that of show 2 is not JSON, show 3
has none. -/
def mixedRows : List ConcertShow :=
  [{ twoSeatShow with showId := 3 }, twoSeatShow, { twoSeatShow with showId := 2 }]

def mixedCache : ConcertCache :=
  ConcertCache.storeShowSnapshot
    { ConcertCache.empty with
      snapshot := fun showId => if showId = 2 then some .broken else none } twoSeatShow 0 []

theorem shows_match_rows_mixed :
    (fillShows (fun _ => false) (.initial twoSeatDb) mixedRows mixedCache).1.map
      (fun entry => entry.payload.showId) = [3, 1, 2] :=
  (shows_match_rows (fun _ => false) (.initial twoSeatDb) mixedCache).1 mixedRows (by decide)

end Ticketing
