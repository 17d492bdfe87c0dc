import Ticketing.Foundation.Table
import Ticketing.Foundation.Transaction
import Ticketing.Seat

/-!
# The tables of `create.sql`

Only the columns that the booking code reads or writes. CHECK constraints are
fields of the row types and unique keys are fields of the tables, so a database
that violates them cannot be built. Foreign keys are checked by the statements
that insert.

The theater tables `booking`, `booking_seats`, `payment` and their `concert_`
counterparts differ in what a seat row names: a row of `hall_seats` there, a
position in the show's grid here. Both are a `Ledger`.
-/

namespace Ticketing

open Foundation

/-- Values of `booking_seats.status`. -/
inductive SeatStatus where
  | active
  | cancel
deriving DecidableEq, Repr

/-- Values of `book_status` that some part of the code names. -/
inductive BookStatus where
  | hold
  | paid
  | cancel
  | canceled
  | cancelled
  | expired
  | failed
deriving DecidableEq, Repr

/-- Values of `schedules.status` and `concert_shows.status`. -/
inductive SaleStatus where
  | opened
  | closed
  | other
deriving DecidableEq, Repr

inductive PayYn where
  | y
  | n
deriving DecidableEq, Repr

/-! ## Booking tables -/

/-- A row of `booking` or `concert_booking`; `showingId` is `schedule_id` or
`show_id`. -/
structure Booking where
  bookingId : Int
  bookingCode : Option String
  userId : Int
  showingId : Int
  regCount : Int
  bookStatus : BookStatus
  chk_reg_count : 0 < regCount
deriving DecidableEq

/-- A row of `booking_seats` or `concert_booking_seats`. -/
structure BookingSeat (Cell : Type) where
  bookingSeatId : Int
  bookingId : Int
  showingId : Int
  cell : Cell
  status : SeatStatus
deriving DecidableEq

structure Payment where
  paymentId : Int
  bookingId : Int
  payYn : PayYn
deriving DecidableEq

def bookingIx : Indexes Booking String where
  pk := Booking.bookingId
  unique := Booking.bookingCode

/-- The generated columns of `uq_booking_seats_active_seat`: NULL unless the
row is ACTIVE. -/
def BookingSeat.activeKey {Cell : Type} (row : BookingSeat Cell) : Option (Int × Cell) :=
  if row.status = .active then some (row.showingId, row.cell) else none

def bookingSeatIx (Cell : Type) : Indexes (BookingSeat Cell) (Int × Cell) where
  pk := BookingSeat.bookingSeatId
  unique := BookingSeat.activeKey

def paymentIx : Indexes Payment Int where
  pk := Payment.paymentId
  unique := fun row => some row.bookingId

/-- The three tables that a booking is written to. -/
structure Ledger (Cell : Type) where
  bookings : Table bookingIx
  seats : Table (bookingSeatIx Cell)
  payments : Table paymentIx

def Ledger.empty {Cell : Type} : Ledger Cell := ⟨.empty, .empty, .empty⟩

/-! ## Halls, schedules and shows -/

structure Hall where
  hallId : Int
  theaterId : Int
deriving DecidableEq

structure HallSeat where
  seatId : Int
  hallId : Int
  position : Seat
deriving DecidableEq

structure Schedule where
  scheduleId : Int
  hallId : Int
  totalCount : Int
  remainCount : Int
  status : SaleStatus
  chk_remain_count : 0 ≤ remainCount
  chk_valid_count : remainCount ≤ totalCount
deriving DecidableEq

structure ConcertShow where
  showId : Int
  concertId : Int
  seatRows : Int
  seatCols : Int
  totalCount : Int
  remainCount : Int
  status : SaleStatus
  chk_counts : 0 ≤ remainCount ∧ 0 ≤ totalCount ∧ remainCount ≤ totalCount
  chk_seat_dim : 0 < seatRows ∧ 0 < seatCols ∧ totalCount = seatRows * seatCols
deriving DecidableEq

/-- No secondary index that the code depends on. -/
def hallIx : Indexes Hall Unit := ⟨Hall.hallId, fun _ => none⟩

def hallSeatIx : Indexes HallSeat (Int × Seat) :=
  ⟨HallSeat.seatId, fun row => some (row.hallId, row.position)⟩

def scheduleIx : Indexes Schedule Unit := ⟨Schedule.scheduleId, fun _ => none⟩

def concertShowIx : Indexes ConcertShow Unit := ⟨ConcertShow.showId, fun _ => none⟩

structure Db where
  users : List Int
  halls : Table hallIx
  hallSeats : Table hallSeatIx
  schedules : Table scheduleIx
  movies : Ledger Int
  concertShows : Table concertShowIx
  concerts : Ledger Seat

/-- One of the two ledgers of the database. -/
structure Book (Cell : Type) where
  get : Db → Ledger Cell
  set : Db → Ledger Cell → Db
  get_set : ∀ db ledger, get (set db ledger) = ledger
  set_get : ∀ db, set db (get db) = db
  set_set : ∀ db first second, set (set db first) second = set db second

def movieBook : Book Int where
  get := Db.movies
  set db ledger := { db with movies := ledger }
  get_set _ _ := rfl
  set_get _ := rfl
  set_set _ _ _ := rfl

def concertBook : Book Seat where
  get := Db.concerts
  set db ledger := { db with concerts := ledger }
  get_set _ _ := rfl
  set_get _ := rfl
  set_set _ _ _ := rfl

/-! ## Column ranges -/

/-- The value fits a BIGINT column. -/
def fitsBigint (n : Int) : Bool := -9223372036854775808 ≤ n && n ≤ 9223372036854775807

/-- The value fits an INT column. -/
def fitsInt (n : Int) : Bool := -2147483648 ≤ n && n ≤ 2147483647

/-! ## ACTIVE seats -/

namespace Ledger

variable {Cell : Type} [DecidableEq Cell]

/-- The ACTIVE seat rows of one schedule or show. -/
def activeSeats (ledger : Ledger Cell) (showingId : Int) : List (BookingSeat Cell) :=
  ledger.seats.rows.filter fun row => row.showingId = showingId ∧ row.status = .active

/-- The seat is covered by an ACTIVE row. -/
def Active (ledger : Ledger Cell) (showingId : Int) (cell : Cell) : Prop :=
  ∃ row ∈ ledger.seats.rows, row.showingId = showingId ∧ row.cell = cell ∧ row.status = .active

instance (ledger : Ledger Cell) (showingId : Int) (cell : Cell) :
    Decidable (ledger.Active showingId cell) :=
  inferInstanceAs (Decidable (∃ row ∈ ledger.seats.rows, _))

omit [DecidableEq Cell] in
theorem mem_activeSeats {ledger : Ledger Cell} {showingId : Int} {row : BookingSeat Cell} :
    row ∈ ledger.activeSeats showingId ↔
      row ∈ ledger.seats.rows ∧ row.showingId = showingId ∧ row.status = .active := by
  simp [activeSeats]

omit [DecidableEq Cell] in
/-- `uq_booking_seats_active_seat`: the ACTIVE rows of a showing name different
seats. -/
theorem activeSeats_nodup (ledger : Ledger Cell) (showingId : Int) :
    ((ledger.activeSeats showingId).map BookingSeat.cell).Nodup := by
  have hsub : (((ledger.activeSeats showingId).map BookingSeat.cell).map
      (Prod.mk showingId)).Sublist (ledger.seats.rows.filterMap BookingSeat.activeKey) := by
    unfold activeSeats
    induction ledger.seats.rows with
    | nil => exact List.Sublist.slnil
    | cons row rest ih =>
        by_cases hrow : row.showingId = showingId ∧ row.status = .active
        · have hkey : row.activeKey = some (showingId, row.cell) := by
            simp [BookingSeat.activeKey, hrow.1, hrow.2]
          rw [List.filter_cons_of_pos (by simpa using hrow), List.filterMap_cons_some hkey]
          exact ih.cons_cons _
        · rw [List.filter_cons_of_neg (by simpa using hrow)]
          exact ih.trans ((List.sublist_cons_self row rest).filterMap _)
  exact List.Nodup.of_map (Prod.mk showingId) (ledger.seats.unique_nodup.sublist hsub)

end Ledger

end Ticketing
