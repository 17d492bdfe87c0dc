import Mathlib.Data.List.Perm.Subperm
import Mathlib.Data.List.ProdSigma
import Ticketing.Foundation.Machine
import Ticketing.Occupancy
import Ticketing.Worker.Concert

/-!
# The grid of a show

The concert tables under arbitrary sequences of handled messages and refunds.
Nobody counts seats here: the ACTIVE rows of a show are different cells of its
grid, so they are no more than the grid has.
-/

namespace Ticketing

open Foundation Python

/-- A transaction on the concert tables, with what the environment decides
about it. -/
inductive ConcertStep where
  | book (env : Env) (codes : Nat → String) (body : Json)
  | refund (env : Env) (userId bookingId : Int)

/-- The database under transactions in any order. -/
def concertMachine : Machine Db ConcertStep where
  step db
    | .book env codes body => some (processConcertBooking env codes body db).2
    | .refund env userId bookingId => some (refundConcertBooking env userId bookingId db).2

/-- Every transaction can come next, whatever it then decides. -/
theorem concertMachine_total (db : Db) (steps : List ConcertStep) :
    ∃ final, concertMachine.run db steps = some final :=
  Machine.run_total (fun _ a => by cases a <;> exact ⟨_, rfl⟩) db steps

/-! ## The invariant -/

/-- The ACTIVE rows of the show are cells of its grid and belong to paid
bookings. -/
structure GridInv (concertShow : ConcertShow) (db : Db) : Prop where
  found : db.concertShows.find concertShow.showId = some concertShow
  inGrid : ∀ row ∈ db.concerts.activeSeats concertShow.showId, concertShow.HasSeat row.cell
  owned : db.concerts.Owned concertShow.showId

theorem GridInv.book {concertShow : ConcertShow} {db next : Db} {request : Request}
    {row : ConcertShow} {bookingId : Int} (hinv : GridInv concertShow db)
    (h : ConcertBooked db next request row bookingId) : GridInv concertShow next := by
  refine ⟨?_, ?_, h.concerts.owned hinv.owned⟩
  · rw [h.frame]
    exact hinv.found
  · intro seatRow hrow
    by_cases hsame : concertShow.showId = request.showingId
    · obtain rfl : row = concertShow := by
        have hfind := hinv.found
        rw [hsame] at hfind
        exact Option.some.inj (h.found.symm.trans hfind)
      -- an ACTIVE row of the show is an old one or one of the request
      obtain ⟨rows, hactive, hcells, _⟩ := h.concerts.activeSeats_same
      rw [hsame, hactive] at hrow
      rcases List.mem_append.mp hrow with hold | hnew
      · exact hinv.inGrid seatRow (hsame ▸ hold)
      · exact h.inGrid _ (hcells ▸ List.mem_map_of_mem hnew)
    · rw [h.concerts.activeSeats_other hsame] at hrow
      exact hinv.inGrid seatRow hrow

theorem GridInv.refund {concertShow : ConcertShow} {db : Db} {concerts : Ledger Seat}
    {bookingId : Int} (hinv : GridInv concertShow db)
    (h : db.concerts.Refunded concerts bookingId) :
    GridInv concertShow { db with concerts := concerts } := by
  refine ⟨hinv.found, ?_, h.owned hinv.owned⟩
  intro row hrow
  rw [h.activeSeats_eq, List.mem_filter] at hrow
  exact hinv.inGrid row hrow.1

theorem GridInv.step {concertShow : ConcertShow} {db next : Db} {a : ConcertStep}
    (hinv : GridInv concertShow db) (h : concertMachine.step db a = some next) :
    GridInv concertShow next := by
  cases a with
  | book env codes body =>
      obtain rfl := Option.some.inj h
      rcases processConcertBooking_cases env codes body db with
        ⟨request, row, receipt, remain, next, _, hprocess, hbooked⟩ | ⟨hsame, _⟩
      · rw [hprocess]
        exact hinv.book hbooked
      · rwa [hsame]
  | refund env userId bookingId =>
      obtain rfl := Option.some.inj h
      rcases refundConcertBooking_cases env userId bookingId db with
        hsame | ⟨booking, _, _, concerts, hnext, hrefunded⟩
      · rwa [hsame]
      · rw [hnext]
        exact hinv.refund hrefunded

/-! ## Pigeonhole -/

/-- The cells of the grid, row by row. -/
def ConcertShow.cells (concertShow : ConcertShow) : List (Nat × Nat) :=
  List.range' 1 concertShow.seatRows.toNat ×ˢ List.range' 1 concertShow.seatCols.toNat

theorem ConcertShow.length_cells (concertShow : ConcertShow) :
    (concertShow.cells.length : Int) = concertShow.totalCount := by
  obtain ⟨hrows, hcols, htotal⟩ := concertShow.chk_seat_dim
  rw [cells, List.length_product, List.length_range', List.length_range', Int.natCast_mul,
    Int.toNat_of_nonneg hrows.le, Int.toNat_of_nonneg hcols.le, htotal]

theorem ConcertShow.mem_cells {concertShow : ConcertShow} {seat : Seat}
    (h : concertShow.HasSeat seat) : (seat.row, seat.col) ∈ concertShow.cells := by
  obtain ⟨hrow, hcol⟩ := h
  have := seat.row_pos
  have := seat.col_pos
  rw [cells, List.mem_product, List.mem_range'_1, List.mem_range'_1]
  omega

/-- Different seats of the grid are at most as many as the show has. -/
theorem ConcertShow.length_le_totalCount (concertShow : ConcertShow) {seats : List Seat}
    (hnodup : seats.Nodup) (hgrid : ∀ seat ∈ seats, concertShow.HasSeat seat) :
    (seats.length : Int) ≤ concertShow.totalCount := by
  have hle : (seats.map fun seat => (seat.row, seat.col)).length ≤ concertShow.cells.length := by
    apply List.Subperm.length_le
    apply List.Nodup.subperm
    · apply hnodup.map
      intro left right heq
      exact Seat.ext (congrArg Prod.fst heq) (congrArg Prod.snd heq)
    · intro cell hcell
      obtain ⟨seat, hseat, rfl⟩ := List.mem_map.mp hcell
      exact ConcertShow.mem_cells (hgrid seat hseat)
  rw [← concertShow.length_cells]
  rw [List.length_map] at hle
  exact Int.ofNat_le.mpr hle

/-! ## No overselling -/

/-- No cell of the show is sold twice, every sold cell is in the grid and paid
for, and no more cells are sold than there are. -/
structure GridSoldSoundly (concertShow : ConcertShow) (db : Db) : Prop where
  distinct : ((db.concerts.activeSeats concertShow.showId).map BookingSeat.cell).Nodup
  inGrid : ∀ row ∈ db.concerts.activeSeats concertShow.showId,
    (1 ≤ row.cell.row ∧ (row.cell.row : Int) ≤ concertShow.seatRows) ∧
      1 ≤ row.cell.col ∧ (row.cell.col : Int) ≤ concertShow.seatCols
  bounded : ((db.concerts.activeSeats concertShow.showId).length : Int) ≤ concertShow.totalCount
  paid : ∀ row ∈ db.concerts.activeSeats concertShow.showId,
    ∃ booking, db.concerts.bookings.find row.bookingId = some booking ∧
      booking.bookStatus = .paid

theorem GridInv.length_le_totalCount {concertShow : ConcertShow} {db : Db}
    (h : GridInv concertShow db) :
    ((db.concerts.activeSeats concertShow.showId).length : Int) ≤ concertShow.totalCount := by
  rw [← List.length_map (f := BookingSeat.cell)]
  apply concertShow.length_le_totalCount (db.concerts.activeSeats_nodup concertShow.showId)
  intro seat hseat
  obtain ⟨row, hrow, rfl⟩ := List.mem_map.mp hseat
  exact h.inGrid row hrow

theorem GridInv.soldSoundly {concertShow : ConcertShow} {db : Db} (h : GridInv concertShow db) :
    GridSoldSoundly concertShow db := by
  refine ⟨db.concerts.activeSeats_nodup _, ?_, h.length_le_totalCount, ?_⟩
  · intro row hrow
    obtain ⟨hrows, hcols⟩ := h.inGrid row hrow
    exact ⟨⟨row.cell.row_pos, hrows⟩, row.cell.col_pos, hcols⟩
  · intro row hrow
    obtain ⟨booking, hfind, hpaid, _⟩ := h.owned row hrow
    exact ⟨booking, hfind, hpaid⟩

/-- A show of which nothing is sold yet. -/
structure Unsold (db : Db) (concertShow : ConcertShow) : Prop where
  found : db.concertShows.find concertShow.showId = some concertShow
  none : db.concerts.activeSeats concertShow.showId = []

theorem Unsold.gridInv {db : Db} {concertShow : ConcertShow} (h : Unsold db concertShow) :
    GridInv concertShow db := by
  refine ⟨h.found, ?_, ?_⟩
  · intro row hrow
    rw [h.none] at hrow
    cases hrow
  · intro row hrow
    rw [h.none] at hrow
    cases hrow

/-- In every run of handled messages and refunds, a show that started unsold is
sold soundly. -/
theorem concert_soldSoundly {db final : Db} {concertShow : ConcertShow}
    {steps : List ConcertStep} (hstart : Unsold db concertShow)
    (hrun : concertMachine.run db steps = some final) : GridSoldSoundly concertShow final :=
  (Machine.run_invariant (fun _ _ _ hinv hstep => GridInv.step hinv hstep)
    hstart.gridInv hrun).soldSoundly

/-! ## A show with two seats -/

def twoSeatShow : ConcertShow :=
  ⟨1, 1, 1, 2, 2, 2, .opened, by decide, by decide⟩

/-- Two users, and one show with one row of two seats. -/
def twoSeatDb : Db where
  users := [1, 2]
  halls := .empty
  hallSeats := .empty
  schedules := .empty
  movies := .empty
  concertShows := ⟨[twoSeatShow], by decide, by decide⟩
  concerts := .empty

/-- The body of a request of a user for seats of show 1. -/
def concertBody (bookingRef : String) (userId : Int) (seats : List Json) : Json :=
  .obj [("booking_type", .str "concert"), ("booking_ref", .str bookingRef),
    ("user_id", .int userId), ("show_id", .int 1), ("seats", .arr seats)]

theorem twoSeatDb_unsold : Unsold twoSeatDb twoSeatShow := ⟨by decide, by decide⟩

theorem concert_soldSoundly_twoSeats :
    ∃ final, concertMachine.run twoSeatDb
        [.book .quiet (fun _ => "CAA000001") (concertBody "first" 1 [.str "1-1", .str "1-2"]),
          .book .quiet (fun _ => "CAA000002") (concertBody "second" 2 [.str "1-2"])] =
        some final ∧
      GridSoldSoundly twoSeatShow final := by
  obtain ⟨final, hrun⟩ := concertMachine_total twoSeatDb _
  exact ⟨final, hrun, concert_soldSoundly twoSeatDb_unsold hrun⟩

end Ticketing
