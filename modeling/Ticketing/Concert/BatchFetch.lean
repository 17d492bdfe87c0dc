import Ticketing.Concert.ReadCache

/-!
# Fetching the taken seats of several shows at once

The batch call of `_fetch_reserved_seat_keys_by_show` asks the database for all
its shows as soon as one of them has no reserved set, and appends what it finds
to the lists that Redis has already given. The single call never mixes the two.
-/

namespace Ticketing

open Foundation

/-- The members of a Redis set are different. -/
def HoldStore.Sets (store : HoldStore) : Prop := ∀ showId, (store.reserved showId).Nodup

instance : IsTrans (BookingSeat Seat) RowPrecedes where
  trans _ _ _ := by
    unfold RowPrecedes Seat.Precedes
    omega

instance : Std.Total RowPrecedes where
  total _ _ := by
    unfold RowPrecedes Seat.Precedes
    omega

/-- The sold seats of a show. -/
def soldSeats (db : Db) (showId : Int) : List Seat :=
  (db.concerts.activeSeats showId).map BookingSeat.cell

section Fetch

variable {store : HoldStore} {fails : Int → Bool} {db : Db} {showIds : List Int} {showId : Int}

/-- Whatever other shows are selected along, the rows of a show are its sold
seats, in order. -/
theorem selectActiveSeats_ofShow (hid : showId ∈ showIds) :
    ((selectActiveSeats db showIds).filter fun row => row.showingId = showId).map
      (fun row => row.cell.key) = sortedKeys (soldSeats db showId) := by
  have hcells : ((selectActiveSeats db showIds).filter fun row => row.showingId = showId).map
      BookingSeat.cell = (soldSeats db showId).insertionSort Seat.Precedes := by
    apply List.Perm.eq_of_pairwise' (r := Seat.Precedes)
    · rw [List.pairwise_map]
      have hsorted := (List.pairwise_insertionSort RowPrecedes
        (db.concerts.seats.rows.filter fun row => row.showingId ∈ showIds ∧ row.status = .active))
        |>.filter fun row => decide (row.showingId = showId)
      refine hsorted.imp_of_mem fun hleft hright hprecedes => ?_
      have hleft' := of_decide_eq_true (List.mem_filter.mp hleft).2
      have hright' := of_decide_eq_true (List.mem_filter.mp hright).2
      rcases hprecedes with hlt | ⟨_, hcell⟩
      · omega
      · exact hcell
    · exact List.pairwise_insertionSort Seat.Precedes _
    · refine List.Perm.trans ?_ (List.perm_insertionSort _ _).symm
      refine List.Perm.map BookingSeat.cell ?_
      refine ((List.perm_insertionSort _ _).filter _).trans (List.Perm.of_eq ?_)
      rw [List.filter_filter, Ledger.activeSeats]
      apply List.filter_congr
      intro row _
      by_cases hsame : row.showingId = showId
      · simp [hsame, hid]
      · simp [hsame]
  rw [sortedKeys, ← hcells, List.map_map]
  rfl

/-- Redis has a non-empty reserved set for the show, and answers. -/
def HasReserved (store : HoldStore) (fails : Int → Bool) (showId : Int) : Prop :=
  store.reservedSeatsSnapshot fails showId ≠ []

instance (store : HoldStore) (fails : Int → Bool) (showId : Int) :
    Decidable (HasReserved store fails showId) :=
  inferInstanceAs (Decidable (_ ≠ _))

theorem redisSeatKeys_ofShow (hid : showId ∈ showIds) :
    (redisSeatKeys store fails showIds ∅).ofShow showId =
      sortedKeys (store.reservedSeatsSnapshot fails showId) := by
  rw [SeatKeys.ofShow, redisSeatKeys_lookup]
  by_cases hreserved : store.reservedSeatsSnapshot fails showId = []
  · simp [hreserved]
  · rw [if_pos ⟨hid, hreserved⟩, Option.getD_some]

/-- Every show has an entry of Redis exactly if it has a reserved set. -/
theorem redisSeatKeys_complete (hnodup : showIds.Nodup) :
    (redisSeatKeys store fails showIds ∅).keys.length = showIds.length ↔
      ∀ showId ∈ showIds, HasReserved store fails showId := by
  have hmem : ∀ showId, showId ∈ (redisSeatKeys store fails showIds ∅).keys ↔
      showId ∈ showIds ∧ HasReserved store fails showId := by
    intro showId
    rw [← AList.mem_keys, ← AList.lookup_isSome, redisSeatKeys_lookup]
    unfold HasReserved
    split
    next h => simp [h]
    next h => simpa using h
  constructor
  · intro hlength showId hid
    have hsub : (redisSeatKeys store fails showIds ∅).keys ⊆ showIds :=
      fun other hother => ((hmem other).mp hother).1
    have hperm := (List.subperm_of_subset (AList.keys_nodup _) hsub).perm_of_length_le
      (Nat.le_of_eq hlength.symm)
    exact ((hmem showId).mp (hperm.mem_iff.mpr hid)).2
  · intro hall
    apply List.Perm.length_eq
    rw [List.perm_ext_iff_of_nodup (AList.keys_nodup _) hnodup]
    intro showId
    rw [hmem]
    exact ⟨And.left, fun hid => ⟨hid, hall showId hid⟩⟩

/-- What the call gives for one of its shows. -/
theorem fetch_ofShow (hnodup : showIds.Nodup) (hid : showId ∈ showIds) :
    (fetchReservedSeatKeysByShow store fails db showIds).ofShow showId =
      sortedKeys (store.reservedSeatsSnapshot fails showId) ++
        if ∀ other ∈ showIds, HasReserved store fails other then []
        else sortedKeys (soldSeats db showId) := by
  unfold fetchReservedSeatKeysByShow
  dsimp only
  by_cases hall : ∀ other ∈ showIds, HasReserved store fails other
  · rw [if_pos ((redisSeatKeys_complete hnodup).mpr hall), if_pos hall,
      redisSeatKeys_ofShow hid, List.append_nil]
  · rw [if_neg (fun h => hall ((redisSeatKeys_complete hnodup).mp h)), if_neg hall,
      appendRows_ofShow, redisSeatKeys_ofShow hid, selectActiveSeats_ofShow hid]

/-- The single call prefers the reserved set to the database. -/
theorem fetch_single_ofShow :
    (fetchReservedSeatKeysByShow store fails db [showId]).ofShow showId =
      if HasReserved store fails showId then
        sortedKeys (store.reservedSeatsSnapshot fails showId)
      else sortedKeys (soldSeats db showId) := by
  rw [fetch_ofShow (List.nodup_singleton showId) (List.mem_singleton_self showId)]
  by_cases hreserved : HasReserved store fails showId
  · simp [hreserved]
  · have hempty : store.reservedSeatsSnapshot fails showId = [] := not_not.mp hreserved
    simp [hreserved, hempty]

theorem fetch_single_nodup (hsets : store.Sets) :
    ((fetchReservedSeatKeysByShow store fails db [showId]).ofShow showId).Nodup := by
  rw [fetch_single_ofShow]
  split
  next =>
    apply sortedKeys_nodup
    unfold HoldStore.reservedSeatsSnapshot
    split
    next => exact List.nodup_nil
    next => exact hsets showId
  next => exact sortedKeys_nodup (db.concerts.activeSeats_nodup showId)

end Fetch

/-- The batch call gives each show the list that the single call gives it, without
repetitions, so that the snapshots built from either are the same. -/
structure BatchAgrees (store : HoldStore) (fails : Int → Bool) (db : Db) (showIds : List Int) :
    Prop where
  same : ∀ showId ∈ showIds, (fetchReservedSeatKeysByShow store fails db showIds).ofShow showId =
    (fetchReservedSeatKeysByShow store fails db [showId]).ofShow showId
  nodup : ∀ showId ∈ showIds,
    ((fetchReservedSeatKeysByShow store fails db showIds).ofShow showId).Nodup
  snapshots : ∀ row : ConcertShow, row.showId ∈ showIds →
    buildShowSnapshot store fails db row showIds = buildShowSnapshot store fails db row [row.showId]

/-- The batch call agrees with the single calls exactly if Redis has a reserved
set for all its shows, or for none that has sold seats in the database. -/
theorem batchAgrees_iff {store : HoldStore} {fails : Int → Bool} {db : Db} {showIds : List Int}
    (hsets : store.Sets) (hnodup : showIds.Nodup) :
    BatchAgrees store fails db showIds ↔
      (∀ showId ∈ showIds, HasReserved store fails showId) ∨
        ∀ showId ∈ showIds, HasReserved store fails showId → soldSeats db showId = [] := by
  constructor
  · intro hagrees
    by_cases hall : ∀ showId ∈ showIds, HasReserved store fails showId
    · exact .inl hall
    · refine .inr fun showId hid hreserved => ?_
      -- the batch list is longer by the sold seats
      have hsame := hagrees.same showId hid
      rw [fetch_ofShow hnodup hid, fetch_single_ofShow, if_neg hall, if_pos hreserved] at hsame
      have hlength := congrArg List.length hsame
      rw [List.length_append, sortedKeys_length, sortedKeys_length] at hlength
      exact List.length_eq_zero_iff.mp (by omega)
  · intro hcases
    have hsame : ∀ showId ∈ showIds,
        (fetchReservedSeatKeysByShow store fails db showIds).ofShow showId =
          (fetchReservedSeatKeysByShow store fails db [showId]).ofShow showId := by
      intro showId hid
      rw [fetch_ofShow hnodup hid, fetch_single_ofShow]
      by_cases hreserved : HasReserved store fails showId
      · rw [if_pos hreserved]
        rcases hcases with hall | hnone
        · rw [if_pos hall, List.append_nil]
        · simp [hnone showId hid hreserved]
      · have hempty : store.reservedSeatsSnapshot fails showId = [] := not_not.mp hreserved
        rw [if_neg hreserved, if_neg (fun hall => hreserved (hall showId hid)), hempty,
          sortedKeys_nil, List.nil_append]
    refine ⟨hsame, fun showId hid => ?_, fun row hid => ?_⟩
    · rw [hsame showId hid]
      exact fetch_single_nodup hsets
    · rw [buildShowSnapshot, buildShowSnapshot, hsame row.showId hid]

/-! ## One show with holds, one without -/

/-- Show 2 of the concert of `twoSeatShow`. -/
def secondShow : ConcertShow := { twoSeatShow with showId := 2 }

/-- The first seat of show 1 is sold, show 2 is untouched. -/
def soldDb : Db :=
  { twoSeatDb with
    concertShows := ⟨[twoSeatShow, secondShow], by decide, by decide⟩
    concerts :=
      { bookings := ⟨[⟨1, none, 1, 1, 1, .paid, by decide⟩], by decide, by decide⟩
        seats := ⟨[⟨1, 1, 1, cornerSeat, .active⟩], by decide, by decide⟩
        payments := ⟨[⟨1, 1, .y⟩], by decide, by decide⟩ } }

/-- The sold seat is still in the reserved set of its show. -/
def soldStore : HoldStore := ⟨.empty, fun showId => if showId = 1 then [cornerSeat] else []⟩

theorem soldStore_sets : soldStore.Sets := by
  intro showId
  change (if showId = 1 then [cornerSeat] else []).Nodup
  split
  next => exact List.nodup_singleton _
  next => exact List.nodup_nil

/-- Both shows together: the sold seat is listed twice. -/
theorem batch_lists_twice : soldStore.Sets ∧ [1, 2].Nodup ∧
    ¬ BatchAgrees soldStore (fun _ => false) soldDb [1, 2] := by
  refine ⟨soldStore_sets, by decide, fun hagrees => ?_⟩
  have hlist : (fetchReservedSeatKeysByShow soldStore (fun _ => false) soldDb [1, 2]).ofShow 1 =
      ["1-1", "1-1"] := by decide +kernel
  have hnodup := hagrees.nodup 1 (by decide)
  rw [hlist] at hnodup
  exact absurd hnodup (by decide)

theorem batchAgrees_iff_alone : BatchAgrees soldStore (fun _ => false) soldDb [1] :=
  (batchAgrees_iff soldStore_sets (List.nodup_singleton 1)).mpr (.inl (by decide))

end Ticketing
