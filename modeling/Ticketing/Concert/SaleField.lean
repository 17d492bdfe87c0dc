import Ticketing.Concert.Visible

/-!
# Hits and misses in one response

The entry of a cached snapshot and the entry of a request for a single show both
get the sale state of their show. The entry that is filled in for a miss does not,
so a response tells its hits from its misses.
-/

namespace Ticketing

open Foundation Python

/-- The entries of a response carry the sale states of their shows, and a request
for one of these shows alone, on any of the caches, has the same entry. -/
structure HitsUnseen (catalog : ConcertCatalog) (fails : Int → Bool) (s : HoldState)
    (concertId : Int) (caches : List ConcertCache) (body : ConcertBootstrap) : Prop where
  sale : ∀ entry ∈ body.shows,
    entry.sale = some (getSaleState (s.sales entry.payload.showId))
  alone : ∀ entry ∈ body.shows, ∀ later ∈ caches, ∀ single,
    (getConcertBootstrapForShow catalog fails s concertId entry.payload.showId later).1 =
      some single → single.shows = [entry]

/-- Every show that the response is about has a snapshot in the cache. -/
def AllHit (catalog : ConcertCatalog) (metaTtl : Int) (db : Db) (concertId : Int)
    (cache : ConcertCache) : Prop :=
  ∀ row ∈ (getShowRowsForBootstrap catalog metaTtl db concertId cache).1.rows,
    (cache.hit row.showId).isSome = true

section Response

variable {catalog : ConcertCatalog} {metaTtl : Int} {fails : Int → Bool} {s : HoldState}
  {cache next : ConcertCache} {concertId : Int} {body : ConcertBootstrap}

/-- Without a miss the loop over `missed` has nothing to do. -/
theorem fillMissed_cache {start : ConcertCache} {rows : List ConcertShow} (reservedBulk : SeatKeys)
    (hhits : ∀ row ∈ rows, (start.hit row.showId).isSome = true) :
    (fillMissed fails s reservedBulk (rows.map fun row => (row, readSlot s start row)) cache).2 =
      cache := by
  induction rows with
  | nil => rfl
  | cons row rest ih =>
      obtain ⟨hrow, hrest⟩ := List.forall_mem_cons.mp hhits
      obtain ⟨payload, hpayload⟩ := Option.isSome_iff_exists.mp hrow
      rw [List.map_cons, readSlot, hpayload, Option.map_some, fillMissed]
      exact ih hrest

/-- A response that has no miss to fill leaves the snapshots as they are. -/
theorem bootstrapCachedOrLoad_hit (hhits : AllHit catalog metaTtl s.db concertId cache) :
    (getConcertBootstrapCachedOrLoad catalog metaTtl fails s concertId cache).2.hit =
      cache.hit := by
  unfold getConcertBootstrapCachedOrLoad
  split
  next after hfound =>
    have hheader : (concertHeaderForBootstrap catalog concertId cache).2.hit = cache.hit :=
      hit_of_snapshot_eq concertHeader_snapshot
    rw [hfound] at hheader
    exact hheader
  next concert after hfound =>
    obtain ⟨hrows, hhit⟩ := getShowRows_afterHeader metaTtl s.db hfound
    dsimp only
    rw [fillMissed_cache]
    · rw [hit_dropBroken, hhit]
    · intro row hrow
      rw [hrows] at hrow
      rw [hhit]
      exact hhits row hrow

/-- A request for one show of which there is a snapshot gives the snapshot with
the sale state. -/
theorem bootstrapForShow_of_hit {showId : Int} {payload : ShowPayload}
    (hhit : cache.hit showId = some payload)
    (h : (getConcertBootstrapForShow catalog fails s concertId showId cache).1 = some body) :
    body.shows = [⟨payload, some (getSaleState (s.sales showId))⟩] := by
  obtain ⟨row, hrow, hshows⟩ := bootstrapForShow_entries h
  obtain ⟨_, rfl, _⟩ := fetchConcertShowRow_eq_some.mp hrow
  rw [hshows, entryPayload, hhit, Option.getD_some]

theorem slotEntry_of_hit {showIds : List Int} {row : ConcertShow} {payload : ShowPayload}
    (hhit : cache.hit row.showId = some payload) :
    slotEntry fails s cache showIds row =
      ⟨payload, some (getSaleState (s.sales row.showId))⟩ := by
  rw [slotEntry, entryPayload, hhit, Option.getD_some, Option.map_some]

theorem slotEntry_of_miss {showIds : List Int} {row : ConcertShow}
    (hmiss : cache.hit row.showId = none) :
    (slotEntry fails s cache showIds row).sale = none := by
  rw [slotEntry, hmiss, Option.map_none]

/-- Hits and misses cannot be told apart exactly if there is no miss. -/
theorem hitsUnseen_iff
    (hcall : getConcertBootstrapCachedOrLoad catalog metaTtl fails s concertId cache =
      (some body, next)) :
    HitsUnseen catalog fails s concertId [cache, next] body ↔
      AllHit catalog metaTtl s.db concertId cache := by
  have hshows := bootstrapCachedOrLoad_entries (congrArg Prod.fst hcall)
  constructor
  · intro hunseen row hrow
    by_contra hmiss
    rw [Option.not_isSome_iff_eq_none] at hmiss
    have hsale := hunseen.sale _ (hshows ▸ List.mem_map_of_mem hrow)
    rw [slotEntry_of_miss hmiss] at hsale
    cases hsale
  · intro hhits
    have hnext : next.hit = cache.hit := by
      rw [← bootstrapCachedOrLoad_hit hhits, hcall]
    have hentry : ∀ entry ∈ body.shows, cache.hit entry.payload.showId = some entry.payload ∧
        entry.sale = some (getSaleState (s.sales entry.payload.showId)) := by
      intro entry hmem
      rw [hshows] at hmem
      obtain ⟨row, hrow, rfl⟩ := List.mem_map.mp hmem
      obtain ⟨payload, hpayload⟩ := Option.isSome_iff_exists.mp (hhits row hrow)
      obtain ⟨_, _, _, hwritten, hshow⟩ := hit_written hpayload
      have hid : payload.showId = row.showId := by
        rw [hwritten]
        exact hshow
      rw [slotEntry_of_hit hpayload]
      dsimp only
      rw [hid]
      exact ⟨hpayload, rfl⟩
    refine ⟨fun entry hmem => (hentry entry hmem).2, ?_⟩
    intro entry hmem later hlater single hsingle
    obtain ⟨hhit, hsale⟩ := hentry entry hmem
    have hlaterHit : later.hit = cache.hit := by
      rcases List.mem_pair.mp hlater with rfl | rfl
      · rfl
      · exact hnext
    rw [bootstrapForShow_of_hit (hlaterHit ▸ hhit) hsingle, ← hsale]

end Response

/-! ## One show, not in the cache -/

/-- With nothing in the cache, the only entry has no sale state, while the request
for its show alone gives one. -/
theorem miss_without_sale :
    ∃ body next, getConcertBootstrapCachedOrLoad oneConcertCatalog 120 (fun _ => false)
        (.initial twoSeatDb) 1 .empty = (some body, next) ∧
      body.shows.map ShowEntry.sale = [none] ∧
      (∃ single, (getConcertBootstrapForShow oneConcertCatalog (fun _ => false)
          (.initial twoSeatDb) 1 1 .empty).1 = some single ∧
        single.shows.map ShowEntry.sale = [some ⟨false, none⟩]) ∧
      ¬ HitsUnseen oneConcertCatalog (fun _ => false) (.initial twoSeatDb) 1 [.empty, next]
        body := by
  have hsale : (getConcertBootstrapCachedOrLoad oneConcertCatalog 120 (fun _ => false)
      (.initial twoSeatDb) 1 .empty).1.map (·.shows.map ShowEntry.sale) = some [none] := by
    decide
  have hsingle : (getConcertBootstrapForShow oneConcertCatalog (fun _ => false)
      (.initial twoSeatDb) 1 1 .empty).1.map (·.shows.map ShowEntry.sale) =
        some [some ⟨false, none⟩] := by
    decide
  obtain ⟨body, hbody, hsales⟩ := Option.map_eq_some_iff.mp hsale
  obtain ⟨single, hfound, hsingles⟩ := Option.map_eq_some_iff.mp hsingle
  refine ⟨body, _, Prod.ext hbody rfl, hsales, ⟨single, hfound, hsingles⟩, ?_⟩
  intro hunseen
  obtain ⟨entry, hentry, hnone⟩ : ∃ entry ∈ body.shows, entry.sale = none := by
    rw [← List.mem_map, hsales]
    exact List.mem_singleton_self none
  have hsome := hunseen.sale entry hentry
  rw [hnone] at hsome
  cases hsome

/-- The same request on the cache that the first one has filled. -/
theorem hitsUnseen_iff_loaded :
    ∃ body next, getConcertBootstrapCachedOrLoad oneConcertCatalog 120 (fun _ => false)
        (.initial twoSeatDb) 1 loadedCache = (some body, next) ∧
      HitsUnseen oneConcertCatalog (fun _ => false) (.initial twoSeatDb) 1 [loadedCache, next]
        body := by
  have hsome : (getConcertBootstrapCachedOrLoad oneConcertCatalog 120 (fun _ => false)
      (.initial twoSeatDb) 1 loadedCache).1.isSome = true := by decide
  have hhits : AllHit oneConcertCatalog 120 twoSeatDb 1 loadedCache := by
    unfold AllHit
    decide
  obtain ⟨body, hbody⟩ := Option.isSome_iff_exists.mp hsome
  exact ⟨body, _, Prod.ext hbody rfl, (hitsUnseen_iff (Prod.ext hbody rfl)).mpr hhits⟩

end Ticketing
