import Mathlib.Data.List.AList
import Mathlib.Data.List.Sort
import Ticketing.Concert.Holding

/-!
# Snapshots of a show

`_fetch_reserved_seat_keys_by_show` and `_show_payload_from_row`. The list of
taken seats comes from the reserved set if Redis has a set for every requested
show, and otherwise from Redis and the database together. The reader of the
database is taken to be up to date.
-/

namespace Ticketing

open Foundation

/-- `ORDER BY show_id, seat_row_no, seat_col_no`. -/
def RowPrecedes (left right : BookingSeat Seat) : Prop :=
  left.showingId < right.showingId ∨
    left.showingId = right.showingId ∧ left.cell.Precedes right.cell

instance : DecidableRel RowPrecedes := fun _ _ => inferInstanceAs (Decidable (_ ∨ _))

/-- A dictionary from show ids to seat keys. -/
abbrev SeatKeys := AList fun _ : Int => List String

/-- The list of a show, empty if there is none. -/
def SeatKeys.ofShow (keys : SeatKeys) (showId : Int) : List String := (keys.lookup showId).getD []

/-- `out`: the non-empty reserved sets among the shows. -/
def redisSeatKeys (store : HoldStore) (fails : Int → Bool) (showIds : List Int)
    (out : SeatKeys) : SeatKeys :=
  match showIds with
  | [] => out
  | showId :: rest =>
      let members := store.reservedSeatsSnapshot fails showId
      redisSeatKeys store fails rest
        (if members = [] then out else out.insert showId (sortedKeys members))

/-- The loop over the rows of the database: `setdefault(sid, []).append(key)`. -/
def appendRows : List (BookingSeat Seat) → SeatKeys → SeatKeys
  | [], result => result
  | row :: rest, result =>
      appendRows rest (result.insert row.showingId (result.ofShow row.showingId ++ [row.cell.key]))

/-- The ACTIVE rows of the shows. -/
def selectActiveSeats (db : Db) (showIds : List Int) : List (BookingSeat Seat) :=
  (db.concerts.seats.rows.filter fun row => row.showingId ∈ showIds ∧ row.status = .active)
    |>.insertionSort RowPrecedes

/-- `_fetch_reserved_seat_keys_by_show`; `fails` says for which shows Redis does
not answer. -/
def fetchReservedSeatKeysByShow (store : HoldStore) (fails : Int → Bool) (db : Db)
    (showIds : List Int) : SeatKeys :=
  let out := redisSeatKeys store fails showIds ∅
  -- one show without a set, and the database is asked for all of them
  if out.keys.length = showIds.length then out
  else appendRows (selectActiveSeats db showIds) out

/-- The fields of a snapshot that do not only copy a text column. -/
structure ShowPayload where
  showId : Int
  concertId : Int
  seatRows : Int
  seatCols : Int
  totalCount : Int
  holdCount : Int
  remainCount : Int
  status : SaleStatus
  reservedSeats : List String

/-- `_show_payload_from_row`. -/
def showPayloadFromRow (row : ConcertShow) (holdCount : Int) (reservedKeys : List String) :
    ShowPayload :=
  let remain := max 0 (row.totalCount - reservedKeys.length)
  { showId := row.showId
    concertId := row.concertId
    seatRows := row.seatRows
    seatCols := row.seatCols
    totalCount := row.totalCount
    holdCount := holdCount
    remainCount := remain
    status := if remain ≤ 0 then .closed else row.status
    reservedSeats := reservedKeys }

/-- A snapshot of the show, built from a fetch for several shows. -/
def buildShowSnapshot (store : HoldStore) (fails : Int → Bool) (db : Db) (row : ConcertShow)
    (showIds : List Int) : ShowPayload :=
  showPayloadFromRow row (store.reservedCount fails row.showId)
    ((fetchReservedSeatKeysByShow store fails db showIds).ofShow row.showId)

/-! ## Which seats are listed -/

section Fetch

variable {store : HoldStore} {fails : Int → Bool} {db : Db} {showIds : List Int} {showId : Int}

theorem redisSeatKeys_lookup (out : SeatKeys) :
    (redisSeatKeys store fails showIds out).lookup showId =
      if showId ∈ showIds ∧ store.reservedSeatsSnapshot fails showId ≠ [] then
        some (sortedKeys (store.reservedSeatsSnapshot fails showId))
      else out.lookup showId := by
  induction showIds generalizing out with
  | nil => simp [redisSeatKeys]
  | cons first rest ih =>
      rw [redisSeatKeys, ih]
      by_cases hsame : showId = first
      · subst hsame
        by_cases hempty : store.reservedSeatsSnapshot fails showId = []
        · simp [hempty]
        · simp [hempty, AList.lookup_insert]
      · have hinsert : ∀ keys, (out.insert first keys).lookup showId = out.lookup showId :=
          fun keys => AList.lookup_insert_ne hsame
        have hother : (if store.reservedSeatsSnapshot fails first = [] then out
            else out.insert first (sortedKeys (store.reservedSeatsSnapshot fails first))).lookup
              showId = out.lookup showId := by
          split
          next => rfl
          next => exact hinsert _
        rw [hother]
        simp [hsame]

/-- The loop over the rows appends to the list of a show the keys of its rows, in
their order. -/
theorem appendRows_ofShow (rows : List (BookingSeat Seat)) (result : SeatKeys) :
    (appendRows rows result).ofShow showId = result.ofShow showId ++
      (rows.filter fun row => row.showingId = showId).map fun row => row.cell.key := by
  induction rows generalizing result with
  | nil => simp [appendRows]
  | cons row rest ih =>
      rw [appendRows, ih]
      by_cases hsame : row.showingId = showId
      · subst hsame
        rw [List.filter_cons_of_pos (by simp), List.map_cons, SeatKeys.ofShow,
          AList.lookup_insert]
        simp
      · rw [List.filter_cons_of_neg (by simpa using hsame), SeatKeys.ofShow,
          AList.lookup_insert_ne (Ne.symm hsame), SeatKeys.ofShow]

/-- Appending rows adds exactly their keys. -/
theorem mem_appendRows {rows : List (BookingSeat Seat)} {result : SeatKeys} {key : String} :
    key ∈ (appendRows rows result).ofShow showId ↔
      key ∈ result.ofShow showId ∨ ∃ row ∈ rows, row.showingId = showId ∧ row.cell.key = key := by
  rw [appendRows_ofShow, List.mem_append]
  simp only [List.mem_map, List.mem_filter, decide_eq_true_eq, and_assoc]

theorem mem_selectActiveSeats {row : BookingSeat Seat} (hid : showId ∈ showIds) :
    row ∈ selectActiveSeats db showIds ∧ row.showingId = showId ↔
      row ∈ db.concerts.activeSeats showId := by
  rw [selectActiveSeats, List.mem_insertionSort, Ledger.mem_activeSeats]
  simp only [List.mem_filter, decide_eq_true_eq]
  constructor
  · rintro ⟨⟨hrow, _, hstatus⟩, hshowing⟩
    exact ⟨hrow, hshowing, hstatus⟩
  · rintro ⟨hrow, rfl, hstatus⟩
    exact ⟨⟨hrow, hid, hstatus⟩, rfl⟩

/-- Seats that Redis names are listed. -/
theorem snapshot_mem_fetch (hid : showId ∈ showIds) {seat : Seat}
    (hseat : seat ∈ store.reservedSeatsSnapshot fails showId) :
    seat.key ∈ (fetchReservedSeatKeysByShow store fails db showIds).ofShow showId := by
  have hredis : seat.key ∈ (redisSeatKeys store fails showIds ∅).ofShow showId := by
    rw [SeatKeys.ofShow, redisSeatKeys_lookup, if_pos ⟨hid, List.ne_nil_of_mem hseat⟩]
    exact mem_sortedKeys.mpr ⟨seat, hseat, rfl⟩
  unfold fetchReservedSeatKeysByShow
  dsimp only
  split
  next => exact hredis
  next => exact mem_appendRows.mpr (.inl hredis)

/-- If Redis names no seat of the show, the database is asked. -/
theorem active_mem_fetch (hid : showId ∈ showIds)
    (hempty : store.reservedSeatsSnapshot fails showId = []) {row : BookingSeat Seat}
    (hrow : row ∈ db.concerts.activeSeats showId) :
    row.cell.key ∈ (fetchReservedSeatKeysByShow store fails db showIds).ofShow showId := by
  have hkeys : ∀ key ∈ (redisSeatKeys store fails showIds ∅).keys,
      key ∈ showIds.filter (· ≠ showId) := by
    intro key hkey
    have hsome := AList.lookup_isSome.mpr (AList.mem_keys.mpr hkey)
    rw [redisSeatKeys_lookup] at hsome
    split at hsome
    next hmem =>
      refine List.mem_filter.mpr ⟨hmem.1, ?_⟩
      simp only [decide_eq_true_eq]
      rintro rfl
      exact hmem.2 hempty
    next => simp at hsome
  -- the show has no entry, so not all of them have one
  have hfewer : (redisSeatKeys store fails showIds ∅).keys.length < showIds.length := by
    apply Nat.lt_of_le_of_lt (List.Nodup.subperm (AList.keys_nodup _) hkeys).length_le
    rw [List.length_filter_lt_length_iff_exists]
    exact ⟨showId, hid, by simp⟩
  unfold fetchReservedSeatKeysByShow
  dsimp only
  rw [if_neg (Nat.ne_of_lt hfewer)]
  obtain ⟨hselected, hshowing⟩ := (mem_selectActiveSeats hid).mpr hrow
  exact mem_appendRows.mpr (.inr ⟨row, hselected, hshowing, rfl⟩)

/-- A fetch for one show with a reserved set lists the set and nothing else. -/
theorem fetch_single (hanswers : fails showId = false) (hne : store.reserved showId ≠ []) :
    (fetchReservedSeatKeysByShow store fails db [showId]).ofShow showId =
      sortedKeys (store.reserved showId) := by
  have hsnapshot : store.reservedSeatsSnapshot fails showId = store.reserved showId := by
    simp [HoldStore.reservedSeatsSnapshot, hanswers]
  have hout : redisSeatKeys store fails [showId] ∅ =
      (∅ : SeatKeys).insert showId (sortedKeys (store.reserved showId)) := by
    simp [redisSeatKeys, hsnapshot, hne]
  rw [fetchReservedSeatKeysByShow, hout, AList.keys_insert]
  simp only [AList.keys_empty, List.erase_nil, List.length_singleton, ↓reduceIte]
  rw [SeatKeys.ofShow, AList.lookup_insert, Option.getD_some]

end Fetch

end Ticketing
