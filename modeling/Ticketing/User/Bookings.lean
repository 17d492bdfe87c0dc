import Ticketing.Foundation.Paging
import Ticketing.Schema
import Ticketing.Theater.Bootstrap

/-!
# The bookings of a user

`get_bookings`: the movie and the concert bookings of a user in one list, newest
payment first, one page for each request.
-/

namespace Ticketing

open Foundation Python

/-! ## Tables -/

/-- A row of `schedules`, as far as the list shows it. -/
structure MovieShowing where
  movieId : Int
  hallId : Int
  showDate : DateTime

/-- A row of `concert_shows`, as far as the list shows it. -/
structure ConcertShowing where
  concertId : Int
  showDate : DateTime
  hallName : String
  venueAddress : String

structure ShowingHall where
  hallName : String
  theaterId : Int

/-- The tables of the list. The ones that are only joined are given by their primary
keys; DATETIME columns that are sorted by are numbers. -/
structure BookingTables where
  movies : Ledger Int
  concerts : Ledger Seat
  /-- `payment.paid_at` and `concert_payment.paid_at`, by `payment_id` -/
  moviePaidAt : Int → Option Nat
  concertPaidAt : Int → Option Nat
  hallSeats : Table hallSeatIx
  schedules : Int → Option MovieShowing
  movieTitles : Int → Option String
  halls : Int → Option ShowingHall
  theaterAddresses : Int → Option String
  concertShows : Int → Option ConcertShowing
  concertTitles : Int → Option String
  fk_booking_schedule : ∀ row ∈ movies.bookings.rows, (schedules row.showingId).isSome
  fk_schedules_movie : ∀ id row, schedules id = some row → (movieTitles row.movieId).isSome
  fk_schedules_hall : ∀ id row, schedules id = some row → (halls row.hallId).isSome
  fk_halls_theater : ∀ id row, halls id = some row → (theaterAddresses row.theaterId).isSome
  fk_concert_booking_show : ∀ row ∈ concerts.bookings.rows, (concertShows row.showingId).isSome
  fk_concert_shows_concert : ∀ id row, concertShows id = some row →
    (concertTitles row.concertId).isSome

inductive BookingKind where
  | movie
  | concert
deriving DecidableEq, Repr

/-- A row of the UNION. -/
structure BookingRow where
  kind : BookingKind
  bookingId : Int
  bookingCode : Option String
  regCount : Int
  bookStatus : BookStatus
  bookingDate : Option Nat
  scheduleId : Option Int
  showDate : DateTime
  movieTitle : String
  hallName : String
  theaterAddress : String
  payYn : Option PayYn
  paidAt : Option Nat

/-- LEFT JOIN: the rows of the right side that match, or NULL. -/
def leftJoin {Row : Type} (matching : List Row) : List (Option Row) :=
  if matching.isEmpty then [none] else matching.map some

namespace BookingTables

variable (tables : BookingTables)

/-- One row of `booking b` with what is joined to it. -/
def movieRows (b : Booking) : List BookingRow :=
  let joined : Option BookingRow := do
    let s ← tables.schedules b.showingId
    let title ← tables.movieTitles s.movieId
    let h ← tables.halls s.hallId
    let address ← tables.theaterAddresses h.theaterId
    return ⟨.movie, b.bookingId, b.bookingCode, b.regCount, b.bookStatus, none, some b.showingId,
      s.showDate, title, h.hallName, address, none, none⟩
  joined.toList.flatMap fun row =>
    (leftJoin (tables.movies.payments.rows.filter (·.bookingId = b.bookingId))).map fun p =>
      let paidAt := p.bind fun payment => tables.moviePaidAt payment.paymentId
      { row with bookingDate := paidAt, payYn := p.map Payment.payYn, paidAt := paidAt }

/-- One row of `concert_booking cb` with what is joined to it. -/
def concertRows (cb : Booking) : List BookingRow :=
  let joined : Option BookingRow := do
    let cs ← tables.concertShows cb.showingId
    let title ← tables.concertTitles cs.concertId
    return ⟨.concert, cb.bookingId, cb.bookingCode, cb.regCount, cb.bookStatus, none, none,
      cs.showDate, title, cs.hallName, cs.venueAddress, none, none⟩
  joined.toList.flatMap fun row =>
    (leftJoin (tables.concerts.payments.rows.filter (·.bookingId = cb.bookingId))).map fun cp =>
      let paidAt := cp.bind fun payment => tables.concertPaidAt payment.paymentId
      { row with bookingDate := paidAt, payYn := cp.map Payment.payYn, paidAt := paidAt }

/-- `booking` and `concert_booking`, WHERE user_id. -/
def movieBookings (userId : Int) : List Booking :=
  tables.movies.bookings.rows.filter fun b => b.userId = userId

def concertBookings (userId : Int) : List Booking :=
  tables.concerts.bookings.rows.filter fun cb => cb.userId = userId

/-- The UNION ALL. -/
def unionRows (userId : Int) : List BookingRow :=
  (tables.movieBookings userId).flatMap tables.movieRows ++
    (tables.concertBookings userId).flatMap tables.concertRows

def totalCount (userId : Int) : Nat :=
  (tables.movieBookings userId).length + (tables.concertBookings userId).length

/-- `seats_map.get(..)`: the seat rows of the booking, whatever their status, in
order. -/
def bookedSeats (kind : BookingKind) (bookingId : Int) : List String :=
  match kind with
  | .movie => sortedKeys <| (tables.movies.seats.rows.filter (·.bookingId = bookingId)).filterMap
      fun bs => (tables.hallSeats.find bs.cell).map HallSeat.position
  | .concert => sortedKeys <|
      (tables.concerts.seats.rows.filter (·.bookingId = bookingId)).map BookingSeat.cell

end BookingTables

/-- What the rows are sorted by, with NULL behind every date. -/
def BookingRow.sortKey (row : BookingRow) : Nat := (row.bookingDate.map (· + 1)).getD 0

/-! ## Requests -/

structure BookingEntry where
  kind : BookingKind
  bookingId : Int
  bookingCode : Option String
  regCount : Int
  bookStatus : BookStatus
  bookingDate : Option Nat
  showDate : DateTime
  movieTitle : String
  hallName : String
  theaterAddress : String
  regionName : String
  payYn : Option PayYn
  paidAt : Option Nat
  seats : List String

structure BookingsPage where
  bookings : List BookingEntry
  totalCount : Nat
  page : Nat
  pageSize : Nat
  totalPages : Nat

/-- 400 with the message `invalid input`, or a page. -/
inductive BookingsReply where
  | invalid
  | page (page : BookingsPage)

def BookingsReply.statusCode : BookingsReply → Nat
  | .invalid => 400
  | .page _ => 200

def BookingsReply.message? : BookingsReply → Option String
  | .invalid => some "invalid input"
  | .page _ => none

/-- `int(user_id)`. -/
def userIdOf (userId : Option String) : Option Int := do
  let text ← userId
  if text.isEmpty then none else intOfStr text.toList

/-- `page_int`; the parameter has the default 1. -/
def pageNumber (page : Option String) : Nat :=
  match intOfStr (page.getD "1").toList with
  | some n => (max 1 n).toNat
  | none => 1

/-- `page_size_int`; the parameter has the default 10. -/
def pageSizeOf (pageSize : Option String) : Nat :=
  match intOfStr (pageSize.getD "10").toList with
  | some n => (min 50 (max 1 n)).toNat
  | none => 10

/-- `ceil(total_count / page_size_int)`. -/
def totalPages (totalCount pageSize : Nat) : Nat :=
  if 0 < totalCount then (totalCount + pageSize - 1) / pageSize else 1

def bookingEntry (tables : BookingTables) (row : BookingRow) : BookingEntry where
  kind := row.kind
  bookingId := row.bookingId
  bookingCode := row.bookingCode
  regCount := row.regCount
  bookStatus := row.bookStatus
  bookingDate := row.bookingDate
  showDate := row.showDate
  movieTitle := row.movieTitle
  hallName := row.hallName
  theaterAddress := String.ofList (stripStr row.theaterAddress.toList)
  regionName := deriveRegionName (String.ofList (stripStr row.theaterAddress.toList))
  payYn := row.payYn
  paidAt := row.paidAt
  seats := tables.bookedSeats row.kind row.bookingId

/-- `get_bookings`. The query for the page finds the rows of the UNION in the order
`sorted`. -/
def getBookings (tables : BookingTables) (sorted : List BookingRow)
    (userId page pageSize : Option String) : BookingsReply :=
  match userIdOf userId with
  | none => .invalid
  | some user =>
      let size := pageSizeOf pageSize
      let number := pageNumber page
      let offset := (number - 1) * size
      let total := tables.totalCount user
      .page {
        bookings := ((sorted.drop offset).take size).map (bookingEntry tables)
        totalCount := total
        page := number
        pageSize := size
        totalPages := totalPages total size }

end Ticketing
