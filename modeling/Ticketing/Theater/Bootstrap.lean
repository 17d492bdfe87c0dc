import Ticketing.Theater.Catalog

/-!
# The bootstrap payload of the theater pages

`_fetch_bootstrap_from_db` issues four SELECTs on a connection in autocommit
mode, so each of them sees a database of its own. `_theater_detail_from_bootstrap`
cuts the payload of one theater out of the result.
-/

namespace Ticketing

open Foundation Python

/-! ## The payload -/

structure TheaterPayload where
  theaterId : Int
  regionName : String
  theaterName : String
  address : String

structure HallPayload where
  hallId : Int
  theaterId : Int
  hallName : String
  totalSeats : Int
  seatRows : Int
  seatCols : Int
  specialTag : String

structure SchedulePayload where
  scheduleId : Int
  movieId : Int
  hallId : Int
  showDate : DateTime
  totalCount : Int
  remainCount : Int
  status : SaleStatus

/-- `reservedSeats`; the key of a schedule is the text of its id. -/
abbrev ReservedSeats := AList fun _ : Int => List String

/-- The seats of a schedule, none if it has no key. -/
def ReservedSeats.ofSchedule (reserved : ReservedSeats) (scheduleId : Int) : List String :=
  (reserved.lookup scheduleId).getD []

structure Bootstrap where
  theaters : List TheaterPayload
  halls : List HallPayload
  movies : List Row
  schedules : List SchedulePayload
  reservedSeats : ReservedSeats

structure TheaterDetail where
  theater : TheaterPayload
  halls : List HallPayload
  movies : List Row
  schedules : List SchedulePayload
  reservedSeats : ReservedSeats

/-! ## Theaters and halls -/

def startsWithText (text : List Char) (start : String) : Bool := start.toList.isPrefixOf text

/-- `_derive_region_name`. -/
def deriveRegionName (address : String) : String :=
  let text := stripStr address.toList
  if text = [] then "서울"
  else if startsWithText text "서울" then "서울"
  else if startsWithText text "경기" || startsWithText text "인천" then "경기/인천"
  else
    let first := String.ofList (firstWord text)
    if first ∈ ["서울", "서울특별시"] then "서울"
    else if first ∈ ["경기", "경기도", "인천", "인천광역시"] then "경기/인천"
    else first

/-- One item of `_theaters_payload_from_rows`. -/
def theaterPayload (row : Theater) : TheaterPayload :=
  let address := String.ofList (stripStr row.address.toList)
  { theaterId := row.theaterId
    regionName := deriveRegionName address
    theaterName := if address = "" then "극장 " ++ toString row.theaterId else address
    address := address }

/-- `SELECT .. FROM theaters ORDER BY theater_id ASC`. -/
def selectTheaters (catalog : Catalog) : List Theater :=
  catalog.theaters.rows.insertionSort fun left right => left.theaterId ≤ right.theaterId

/-- `_build_special_tag`. -/
def buildSpecialTag (hallName : String) : String :=
  let value := upperStr hallName
  if "ATMOS".toList <:+: value then "ATMOS"
  else if "LASER".toList <:+: value then "LASER"
  else if "IMAX".toList <:+: value then "IMAX"
  else "GENERAL"

/-- A row of the second SELECT. -/
structure HallRow where
  hallId : Int
  theaterId : Int
  hallName : String
  totalSeats : Int
  seatRows : Option Nat
  seatCols : Option Nat
  activeSeatCount : Int

/-- One group of `halls LEFT JOIN hall_seats`. -/
def hallRow (catalog : Catalog) (db : Db) (hall : Hall) : HallRow :=
  let seats := db.hallSeats.rows.filter fun seat => seat.hallId = hall.hallId
  { hallId := hall.hallId
    theaterId := hall.theaterId
    hallName := catalog.hallName hall.hallId
    totalSeats := catalog.totalSeats hall.hallId
    seatRows := (seats.map fun seat => seat.position.row).max?
    seatCols := (seats.map fun seat => seat.position.col).max?
    activeSeatCount :=
      -- a hall without seats is joined with one row of NULLs, which counts as ACTIVE
      if seats = [] then 1 else seats.countP fun seat => catalog.seatActive seat.seatId }

/-- The second SELECT. -/
def selectHalls (catalog : Catalog) (db : Db) : List HallRow :=
  (db.halls.rows.insertionSort fun left right =>
    left.theaterId < right.theaterId ∨
      left.theaterId = right.theaterId ∧ left.hallId ≤ right.hallId).map (hallRow catalog db)

/-- `value or other` on numbers. -/
def orInt (value other : Int) : Int := if value = 0 then other else value

/-- One item of `halls`. -/
def hallPayload (row : HallRow) : HallPayload :=
  let totalSeats := orInt row.totalSeats (orInt row.activeSeatCount 30)
  let seatRows := orInt (row.seatRows.getD 0) 3
  -- `ceil` of a quotient, rounded down from above
  let seatCols := orInt (row.seatCols.getD 0) (max 1 (-(-totalSeats / max seatRows 1)))
  let hallName := stripStr (if row.hallName = "" then "A관" else row.hallName).toList
  { hallId := row.hallId
    theaterId := row.theaterId
    hallName := if hallName = [] then "A관" else String.ofList hallName
    totalSeats := orInt row.activeSeatCount totalSeats
    seatRows := seatRows
    seatCols := seatCols
    specialTag := buildSpecialTag row.hallName }

/-! ## Schedules -/

/-- A row of the third SELECT, which is also an item of `schedules`. -/
def schedulePayload (catalog : Catalog) (db : Db) (row : Schedule) : SchedulePayload where
  scheduleId := row.scheduleId
  movieId := catalog.movieId row.scheduleId
  hallId := row.hallId
  showDate := catalog.showDate row.scheduleId
  totalCount := row.totalCount
  remainCount := remaining db row
  status := if remaining db row ≤ 0 then .closed else if row.status = .closed then .closed
    else .opened

/-- The third SELECT. -/
def selectSchedules (catalog : Catalog) (db : Db) : List SchedulePayload :=
  ((db.schedules.rows.filter fun row => row.status ≠ .other).map (schedulePayload catalog db))
    |>.insertionSort fun left right =>
      showDateFields left.showDate < showDateFields right.showDate ∨
        left.showDate = right.showDate ∧ left.scheduleId ≤ right.scheduleId

/-! ## Reserved seats -/

/-- A row of the fourth SELECT. -/
structure ReservedRow where
  scheduleId : Int
  position : Seat
  bookStatus : BookStatus

/-- `ORDER BY bs.schedule_id, hs.seat_row_no, hs.seat_col_no`. -/
def ReservedRow.Precedes (left right : ReservedRow) : Prop :=
  left.scheduleId < right.scheduleId ∨
    left.scheduleId = right.scheduleId ∧ left.position.Precedes right.position

instance : DecidableRel ReservedRow.Precedes := fun _ _ => inferInstanceAs (Decidable (_ ∨ _))

/-- An ACTIVE seat row joined with its seat and its booking. -/
def reservedRow (db : Db) (row : BookingSeat Int) : Option ReservedRow := do
  let seat ← db.hallSeats.find row.cell
  let booking ← db.movies.bookings.find row.bookingId
  return ⟨row.showingId, seat.position, booking.bookStatus⟩

/-- The fourth SELECT. -/
def selectReserved (db : Db) : List ReservedRow :=
  ((db.movies.seats.rows.filter fun row => row.status = .active).filterMap (reservedRow db))
    |>.insertionSort ReservedRow.Precedes

/-- `book_status.upper() in EXCLUDED_BOOKING_STATUSES`. -/
def BookStatus.isExcluded : BookStatus → Bool
  | .cancel | .canceled | .cancelled | .expired | .failed => true
  | .hold | .paid => false

/-- The loop over the rows. The coordinates of a seat are positive. -/
def appendReserved (validScheduleIds : List Int) : List ReservedRow → ReservedSeats → ReservedSeats
  | [], reserved => reserved
  | row :: rest, reserved =>
      appendReserved validScheduleIds rest
        (if row.scheduleId ∉ validScheduleIds ∨ row.bookStatus.isExcluded then reserved
        else reserved.insert row.scheduleId
          (reserved.ofSchedule row.scheduleId ++ [row.position.key]))

/-! ## Putting it together -/

/-- `_fetch_bootstrap_from_db`; each SELECT has its own database. -/
def fetchBootstrapFromDb (catalog : Catalog) (movieMap : MovieMap) (second third fourth : Db) :
    Bootstrap :=
  let schedules := (selectSchedules catalog third).filter fun row => row.movieId ∈ movieMap
  let halls := (selectHalls catalog second).filter fun row =>
    row.hallId ∈ schedules.map SchedulePayload.hallId
  let movieIds := (schedules.map SchedulePayload.movieId).dedup.insertionSort (· ≤ ·)
  { theaters := (selectTheaters catalog).map theaterPayload
    halls := halls.map hallPayload
    movies := movieIds.filterMap fun id => movieMap.lookup id
    schedules := schedules
    reservedSeats :=
      appendReserved (schedules.map SchedulePayload.scheduleId) (selectReserved fourth) ∅ }

/-- `{key: value for key, value in items if keep(key)}`. -/
def ReservedSeats.restrict (reserved : ReservedSeats) (keep : Int → Bool) : ReservedSeats where
  entries := reserved.entries.filter fun entry => keep entry.1
  nodupKeys := List.NodupKeys.sublist List.filter_sublist reserved.nodupKeys

/-- The slice of the payload that belongs to a theater. -/
def theaterSlice (bootstrap : Bootstrap) (theaterId : Int) (theater : TheaterPayload) :
    TheaterDetail :=
  let hallIds := (bootstrap.halls.filter fun hall => hall.theaterId = theaterId).map
    HallPayload.hallId
  let schedules := bootstrap.schedules.filter fun row => row.hallId ∈ hallIds
  { theater := theater
    halls := bootstrap.halls.filter fun hall => hall.hallId ∈ hallIds
    movies := bootstrap.movies.filter fun row =>
      (row.get "movie_id").toInt ∈ schedules.map SchedulePayload.movieId
    schedules := schedules
    reservedSeats := bootstrap.reservedSeats.restrict fun id =>
      id ∈ schedules.map SchedulePayload.scheduleId }

/-- `_theater_detail_from_bootstrap`. -/
def theaterDetailFromBootstrap (bootstrap : Bootstrap) (theaterId : Int) : Option TheaterDetail :=
  (bootstrap.theaters.find? fun theater => theater.theaterId == theaterId).map
    (theaterSlice bootstrap theaterId)

end Ticketing
