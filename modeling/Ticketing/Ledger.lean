import Ticketing.Schema

/-!
# Writing to a ledger

The statements that the worker and the refund endpoints issue against the
booking tables, once for both ledgers, and what they do to the rows. `Booked`
and `Refunded` are the two ways in which a committed transaction changes a
ledger.
-/

namespace Ticketing

open Foundation

variable {Cell : Type}

/-! ## The statements -/

/-- `INSERT INTO booking (user_id, schedule_id, reg_count, book_status)
VALUES (.., 'PAID')`. The schedule or show exists: its row was just read. -/
def insertBooking (book : Book Cell) (userId showingId regCount : Int) : Tx Db Int :=
  Tx.exec fun gap db =>
    -- strict SQL mode: a value outside the range of its column is an error
    if ¬ (fitsBigint userId ∧ fitsInt regCount) then .error (.other "Out of range value")
    else if hreg : 0 < regCount then
      if userId ∈ db.users then
        match (book.get db).bookings.insert gap
            (fun id => ⟨id, none, userId, showingId, regCount, .paid, hreg⟩) (fun _ => rfl) with
        | none => .error (.integrity "Duplicate entry")
        | some (id, bookings) => .ok (id, book.set db { book.get db with bookings := bookings })
      else .error (.integrity "a foreign key constraint fails")
    else .error (.other "Check constraint is violated.")

def Booking.withCode (row : Booking) (code : String) : Booking :=
  { row with bookingCode := some code }

/-- `UPDATE booking SET booking_code = %s WHERE booking_id = %s`. -/
def updateBookingCode (book : Book Cell) (bookingId : Int) (code : String) : Tx Db PUnit :=
  Tx.exec fun _ db =>
    match (book.get db).bookings.update (fun row => row.bookingId = bookingId)
        (fun row => row.withCode code) (fun _ => rfl) with
    | none => .error (.integrity "Duplicate entry")
    | some bookings => .ok (⟨⟩, book.set db { book.get db with bookings := bookings })

/-- `for _ in range(n)`: draw a code, try to store it, go on after a collision.
The code stays empty when every try collides. -/
def assignBookingCode (book : Book Cell) (bookingId : Int) (codes : Nat → String) :
    Nat → Tx Db String
  | 0 => return ""
  | n + 1 => do
      match ← Tx.attempt (updateBookingCode book bookingId (codes n)) with
      | some _ => return codes n
      | none => assignBookingCode book bookingId codes n

/-- The row that `INSERT INTO booking_seats` adds, with the default status. -/
def newSeat (bookingId showingId : Int) (cell : Cell) (id : Int) : BookingSeat Cell :=
  ⟨id, bookingId, showingId, cell, .active⟩

/-- One INSERT for each seat. -/
def insertEachSeat [DecidableEq Cell] (book : Book Cell) (bookingId showingId : Int) :
    List Cell → Tx Db PUnit
  | [] => return ⟨⟩
  | cell :: rest => do
      Tx.exec fun gap db =>
        match (book.get db).seats.insert gap (newSeat bookingId showingId cell) (fun _ => rfl) with
        | none => .error (.integrity "Duplicate entry")
        | some (_, seats) => .ok (PUnit.unit, book.set db { book.get db with seats := seats })
      insertEachSeat book bookingId showingId rest

/-- One INSERT with a VALUES list for all seats. An empty list is a syntax
error. -/
def insertAllSeats [DecidableEq Cell] (book : Book Cell) (bookingId showingId : Int)
    (cells : List Cell) : Tx Db PUnit :=
  Tx.exec fun gap db =>
    if cells = [] then .error (.other "You have an error in your SQL syntax")
    else
      match (book.get db).seats.insertAll gap (cells.map (newSeat bookingId showingId))
          (by simp [newSeat, bookingSeatIx]) with
      | none => .error (.integrity "Duplicate entry")
      | some seats => .ok (⟨⟩, book.set db { book.get db with seats := seats })

/-- `INSERT INTO payment (booking_id, pay_yn, paid_at) VALUES (%s, 'Y', NOW())`. -/
def insertPayment (book : Book Cell) (bookingId : Int) : Tx Db Int :=
  Tx.exec fun gap db =>
    match (book.get db).payments.insert gap (fun id => ⟨id, bookingId, .y⟩) (fun _ => rfl) with
    | none => .error (.integrity "Duplicate entry")
    | some (id, payments) => .ok (id, book.set db { book.get db with payments := payments })

/-- What the worker is told about the rows it has inserted. -/
structure Receipt where
  bookingId : Int
  bookingCode : String
  paymentId : Int
deriving DecidableEq, Repr

/-- The number of codes that are tried. -/
def codeTries : Nat := 12

/-- The insertions of one booking, in the order of both handlers. -/
def recordBooking (book : Book Cell) (insertSeats : Int → Tx Db PUnit)
    (userId showingId regCount : Int) (codes : Nat → String) : Tx Db Receipt := do
  let bookingId ← insertBooking book userId showingId regCount
  let bookingCode ← assignBookingCode book bookingId codes codeTries
  insertSeats bookingId
  let paymentId ← insertPayment book bookingId
  return ⟨bookingId, bookingCode, paymentId⟩

/-! ## What they do to the rows -/

namespace Ledger

/-- The seat rows `rows` are ACTIVE rows of the booking for the given seats. -/
def SeatRows (bookingId showingId : Int) (cells : List Cell) (rows : List (BookingSeat Cell)) :
    Prop :=
  List.Forall₂ (fun cell row => ∃ id, row = newSeat bookingId showingId cell id) cells rows

/-- `next` is `ledger` with one more paid booking. -/
structure Booked (ledger next : Ledger Cell) (userId showingId : Int) (cells : List Cell)
    (bookingId : Int) : Prop where
  fresh : ∀ row ∈ ledger.bookings.rows, row.bookingId < bookingId
  bookings : ∃ code hreg, next.bookings.rows = ledger.bookings.rows ++
    [⟨bookingId, code, userId, showingId, cells.length, .paid, hreg⟩]
  seats : ∃ rows, next.seats.rows = ledger.seats.rows ++ rows ∧
    SeatRows bookingId showingId cells rows
  payments : ∃ paymentId, next.payments.rows = ledger.payments.rows ++ [⟨paymentId, bookingId, .y⟩]

end Ledger

section Effects

variable {book : Book Cell} {env : Env} {cursor final : Cursor Db}

theorem insertBooking_ok {userId showingId regCount bookingId : Int}
    (h : insertBooking book userId showingId regCount env cursor = .ok (bookingId, final)) :
    ∃ bookings hreg,
      final.db = book.set cursor.db { book.get cursor.db with bookings := bookings } ∧
      bookings.rows = (book.get cursor.db).bookings.rows ++
        [⟨bookingId, none, userId, showingId, regCount, .paid, hreg⟩] ∧
      (∀ row ∈ (book.get cursor.db).bookings.rows, row.bookingId < bookingId) ∧
      userId ∈ cursor.db.users := by
  obtain ⟨_, _, hquery⟩ := Tx.exec_ok.mp h
  split at hquery
  · cases hquery
  split at hquery
  next hreg =>
    split at hquery
    next huser =>
      split at hquery
      next => cases hquery
      next id bookings hinsert =>
        simp only [Except.ok.injEq, Prod.mk.injEq] at hquery
        obtain ⟨rfl, hdb⟩ := hquery
        obtain ⟨hid, hrows⟩ := Table.insert_eq_some hinsert
        refine ⟨bookings, hreg, hdb.symm, hrows, ?_, huser⟩
        intro row hrow
        rw [hid]
        exact Table.pk_lt_nextId _ _ hrow
    next => cases hquery
  next => cases hquery

theorem updateBookingCode_ok {bookingId : Int} {code : String} {value : PUnit}
    (h : updateBookingCode book bookingId code env cursor = .ok (value, final)) :
    ∃ bookings, final.db = book.set cursor.db { book.get cursor.db with bookings := bookings } ∧
      bookings.rows = (book.get cursor.db).bookings.rows.map fun row =>
        if row.bookingId = bookingId then row.withCode code else row := by
  obtain ⟨_, _, hquery⟩ := Tx.exec_ok.mp h
  split at hquery
  next => cases hquery
  next bookings hupdate =>
    simp only [Except.ok.injEq, Prod.mk.injEq, true_and] at hquery
    refine ⟨bookings, hquery.symm, ?_⟩
    simpa using Table.update_eq_some hupdate

/-- Storing a code in the last row of a table of bookings changes that row only. -/
theorem map_withCode_concat {old : List Booking} {row : Booking} {code : String}
    (hfresh : ∀ other ∈ old, other.bookingId < row.bookingId) :
    ((old ++ [row]).map fun other =>
      if other.bookingId = row.bookingId then other.withCode code else other) =
        old ++ [row.withCode code] := by
  rw [List.map_append]
  congr 1
  · conv_rhs => rw [← List.map_id old]
    refine List.map_congr_left fun other hother => ?_
    have := hfresh other hother
    rw [if_neg (by omega), id_eq]
  · simp

theorem assignBookingCode_ok {codes : Nat → String} {n : Nat} {old : List Booking}
    {row : Booking} {code : String} (hfresh : ∀ other ∈ old, other.bookingId < row.bookingId)
    (hrows : (book.get cursor.db).bookings.rows = old ++ [row])
    (h : assignBookingCode book row.bookingId codes n env cursor = .ok (code, final)) :
    ∃ bookings stored,
      final.db = book.set cursor.db { book.get cursor.db with bookings := bookings } ∧
      bookings.rows = old ++ [{ row with bookingCode := stored }] := by
  induction n generalizing cursor with
  | zero =>
      obtain ⟨_, rfl⟩ := Tx.pure_ok.mp h
      exact ⟨(book.get final.db).bookings, row.bookingCode, (book.set_get final.db).symm, hrows⟩
  | succ n ih =>
      obtain ⟨tried, middle, htry, hrest⟩ := Tx.bind_ok.mp h
      -- a code that collides leaves the rows as they were for the next try
      rcases Tx.attempt_ok htry with ⟨value, rfl, hupdate⟩ | ⟨rfl, hdb⟩
      · obtain ⟨_, rfl⟩ := Tx.pure_ok.mp hrest
        obtain ⟨bookings, hdb, hbookings⟩ := updateBookingCode_ok hupdate
        refine ⟨bookings, some (codes n), hdb, ?_⟩
        rw [hbookings, hrows, map_withCode_concat hfresh]
        rfl
      · obtain ⟨bookings, stored, hfinal, hbookings⟩ := ih (by rw [hdb]; exact hrows) hrest
        exact ⟨bookings, stored, by rw [hfinal, hdb], hbookings⟩

/-- A way of inserting seats: it appends ACTIVE rows for `cells` and does
nothing else. -/
def InsertsSeats (book : Book Cell) (insertSeats : Int → Tx Db PUnit) (showingId : Int)
    (cells : List Cell) : Prop :=
  ∀ bookingId env cursor value final,
    insertSeats bookingId env cursor = .ok (value, final) →
      ∃ seats rows, final.db = book.set cursor.db { book.get cursor.db with seats := seats } ∧
        seats.rows = (book.get cursor.db).seats.rows ++ rows ∧
        Ledger.SeatRows bookingId showingId cells rows

theorem insertEachSeat_inserts [DecidableEq Cell] (book : Book Cell) (showingId : Int)
    (cells : List Cell) :
    InsertsSeats book (fun bookingId => insertEachSeat book bookingId showingId cells) showingId
      cells := by
  intro bookingId env cursor value final h
  induction cells generalizing cursor with
  | nil =>
      obtain ⟨_, rfl⟩ := Tx.pure_ok.mp h
      exact ⟨(book.get final.db).seats, [], (book.set_get final.db).symm, by simp, .nil⟩
  | cons cell rest ih =>
      obtain ⟨_, middle, hfirst, hrest⟩ := Tx.bind_ok.mp h
      obtain ⟨_, _, hquery⟩ := Tx.exec_ok.mp hfirst
      split at hquery
      next => cases hquery
      next id seats hinsert =>
        simp only [Except.ok.injEq, Prod.mk.injEq, true_and] at hquery
        obtain ⟨_, hseats⟩ := Table.insert_eq_some hinsert
        obtain ⟨seats', rows, hfinal, hrows, hforall⟩ := ih middle hrest
        refine ⟨seats', newSeat bookingId showingId cell id :: rows, ?_, ?_,
          .cons ⟨id, rfl⟩ hforall⟩
        · rw [hfinal, ← hquery, book.get_set, book.set_set]
        · rw [hrows, ← hquery, book.get_set, hseats, List.append_assoc]
          rfl

theorem insertAllSeats_inserts [DecidableEq Cell] (book : Book Cell) (showingId : Int)
    (cells : List Cell) :
    InsertsSeats book (fun bookingId => insertAllSeats book bookingId showingId cells) showingId
      cells := by
  intro bookingId env cursor value final h
  obtain ⟨_, _, hquery⟩ := Tx.exec_ok.mp h
  split at hquery
  · cases hquery
  split at hquery
  next => cases hquery
  next seats hinsert =>
    simp only [Except.ok.injEq, Prod.mk.injEq, true_and] at hquery
    obtain ⟨rows, hrows, hforall⟩ := Table.insertAll_eq_some hinsert
    exact ⟨seats, rows, hquery.symm, hrows, List.forall₂_map_left_iff.mp hforall⟩

theorem insertPayment_ok {bookingId paymentId : Int}
    (h : insertPayment book bookingId env cursor = .ok (paymentId, final)) :
    ∃ payments, final.db = book.set cursor.db { book.get cursor.db with payments := payments } ∧
      payments.rows = (book.get cursor.db).payments.rows ++ [⟨paymentId, bookingId, .y⟩] := by
  obtain ⟨_, _, hquery⟩ := Tx.exec_ok.mp h
  split at hquery
  next => cases hquery
  next id payments hinsert =>
    simp only [Except.ok.injEq, Prod.mk.injEq] at hquery
    obtain ⟨rfl, hdb⟩ := hquery
    exact ⟨payments, hdb.symm, (Table.insert_eq_some hinsert).2⟩

/-- The insertions of a booking, if none of them fails, add exactly one paid
booking with its seats and its payment. -/
theorem recordBooking_ok {insertSeats : Int → Tx Db PUnit} {userId showingId : Int}
    {cells : List Cell} {codes : Nat → String} {receipt : Receipt}
    (hseats : InsertsSeats book insertSeats showingId cells)
    (h : recordBooking book insertSeats userId showingId cells.length codes env cursor =
      .ok (receipt, final)) :
    ∃ next, final.db = book.set cursor.db next ∧
      (book.get cursor.db).Booked next userId showingId cells receipt.bookingId ∧
      userId ∈ cursor.db.users := by
  obtain ⟨bookingId, c₁, hbooking, h⟩ := Tx.bind_ok.mp h
  obtain ⟨code, c₂, hcode, h⟩ := Tx.bind_ok.mp h
  obtain ⟨_, c₃, hinsert, h⟩ := Tx.bind_ok.mp h
  obtain ⟨paymentId, c₄, hpayment, h⟩ := Tx.bind_ok.mp h
  obtain ⟨rfl, rfl⟩ := Tx.pure_ok.mp h
  obtain ⟨bookings, hreg, hdb₁, hbookings, hfresh, huser⟩ := insertBooking_ok hbooking
  have hrows : (book.get c₁.db).bookings.rows = (book.get cursor.db).bookings.rows ++
      [⟨bookingId, none, userId, showingId, cells.length, .paid, hreg⟩] := by
    rw [hdb₁, book.get_set]
    exact hbookings
  obtain ⟨bookings', stored, hdb₂, hbookings'⟩ := assignBookingCode_ok hfresh hrows hcode
  obtain ⟨seats, rows, hdb₃, hseats, hforall⟩ := hseats _ _ _ _ _ hinsert
  obtain ⟨payments, hdb₄, hpayments⟩ := insertPayment_ok hpayment
  -- the statements write one table each, so what they do adds up
  rw [hdb₁] at hdb₂
  rw [hdb₂] at hdb₃ hseats
  rw [hdb₃] at hdb₄ hpayments
  simp only [book.get_set, book.set_set] at hdb₄ hpayments hseats
  exact ⟨_, hdb₄, ⟨hfresh, ⟨stored, hreg, hbookings'⟩, ⟨rows, hseats, hforall⟩,
    ⟨paymentId, hpayments⟩⟩, huser⟩

end Effects

end Ticketing
