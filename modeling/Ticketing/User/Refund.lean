import Ticketing.Ledger

/-!
# Refunds

`_refund_movie_booking` and `_refund_concert_booking`. Both lock the booking of
the user, leave if it is missing or already cancelled, and otherwise cancel the
booking, its payment and its ACTIVE seats in one transaction. Only the concert
variant reads the show's concert on the way, for the cache invalidation.
-/

namespace Ticketing

open Foundation

variable {Cell : Type}

/-- `book_status.upper() in ("CANCEL", "CANCELED", "CANCELLED")`. -/
def BookStatus.isCancelled : BookStatus → Bool
  | .cancel | .canceled | .cancelled => true
  | .hold | .paid | .expired | .failed => false

/-- What the endpoint answers. `raised` is an exception that it does not catch. -/
inductive RefundReply where
  | done
  | notFound
  | alreadyCancelled
  | failed (message : String)
  | raised
deriving DecidableEq, Repr

def RefundReply.statusCode : RefundReply → Nat
  | .done => 200
  | .notFound => 404
  | .alreadyCancelled => 400
  | .failed _ | .raised => 500

def RefundReply.message : RefundReply → String
  | .done => "환불이 완료되었습니다."
  | .notFound => "예매 내역을 찾을 수 없습니다."
  | .alreadyCancelled => "이미 취소된 예매입니다."
  | .failed message => message
  | .raised => "Internal Server Error"

/-! ## The transaction -/

def Booking.cancelled (row : Booking) : Booking := { row with bookStatus := .cancel }

def Payment.cancelled (row : Payment) : Payment := { row with payYn := .n }

def BookingSeat.cancelled (row : BookingSeat Cell) : BookingSeat Cell :=
  { row with status := .cancel }

/-- `SELECT .. FROM booking WHERE booking_id = %s AND user_id = %s FOR UPDATE`. -/
def findBooking (book : Book Cell) (userId bookingId : Int) (db : Db) : Option Booking :=
  (book.get db).bookings.rows.find? fun row => row.bookingId = bookingId ∧ row.userId = userId

/-- `UPDATE booking SET book_status = 'CANCEL' WHERE booking_id = %s`. -/
def cancelBooking (book : Book Cell) (bookingId : Int) : Tx Db PUnit :=
  Tx.exec fun _ db =>
    match (book.get db).bookings.update (fun row => row.bookingId = bookingId)
        Booking.cancelled (fun _ => rfl) with
    | none => .error (.integrity "Duplicate entry")
    | some bookings => .ok (⟨⟩, book.set db { book.get db with bookings := bookings })

/-- `UPDATE payment SET pay_yn = 'N' WHERE booking_id = %s`. -/
def cancelPayment (book : Book Cell) (bookingId : Int) : Tx Db PUnit :=
  Tx.exec fun _ db =>
    match (book.get db).payments.update (fun row => row.bookingId = bookingId)
        Payment.cancelled (fun _ => rfl) with
    | none => .error (.integrity "Duplicate entry")
    | some payments => .ok (⟨⟩, book.set db { book.get db with payments := payments })

/-- `UPDATE booking_seats SET status = 'CANCEL' WHERE booking_id = %s AND
status = 'ACTIVE'`. -/
def cancelSeats [DecidableEq Cell] (book : Book Cell) (bookingId : Int) : Tx Db PUnit :=
  Tx.exec fun _ db =>
    match (book.get db).seats.update
        (fun row => row.bookingId = bookingId ∧ row.status = .active)
        BookingSeat.cancelled (fun _ => rfl) with
    | none => .error (.integrity "Duplicate entry")
    | some seats => .ok (⟨⟩, book.set db { book.get db with seats := seats })

/-- The statements of a refund. `prepare` is what the variant reads for its
cache invalidation before the first update. -/
def refundTx [DecidableEq Cell] {α : Type} (book : Book Cell) (prepare : Booking → Tx Db α)
    (userId bookingId : Int) : Tx Db (Exit α RefundReply) := do
  match ← Tx.select (findBooking book userId bookingId) with
  | none =>
      Tx.call
      return .leave .notFound
  | some booking =>
      if booking.bookStatus.isCancelled then
        Tx.call
        return .leave .alreadyCancelled
      else
        let prepared ← prepare booking
        cancelBooking book bookingId
        cancelPayment book bookingId
        cancelSeats book bookingId
        Tx.call
        return .commit prepared

def RefundReply.ofOutcome {α : Type} : Outcome α RefundReply → RefundReply
  | .commit _ => .done
  | .leave reply => reply
  | .failed error => .failed error.text
  | .lost => .raised

/-- `_refund_movie_booking`: the reply and the database it leaves. -/
def refundMovieBooking (env : Env) (userId bookingId : Int) (db : Db) : RefundReply × Db :=
  let (outcome, next) := Tx.settle (refundTx movieBook (fun _ => return ()) userId bookingId) env db
  (.ofOutcome outcome, next)

/-- `SELECT concert_id FROM concert_shows WHERE show_id = %s LIMIT 1`, skipped
for a show id that is not positive. -/
def selectConcertId (booking : Booking) : Tx Db Int :=
  if 0 < booking.showingId then do
    match ← Tx.select fun db => db.concertShows.find booking.showingId with
    | some row => return row.concertId
    | none => return 0
  else return 0

/-- `_refund_concert_booking`. -/
def refundConcertBooking (env : Env) (userId bookingId : Int) (db : Db) : RefundReply × Db :=
  let (outcome, next) := Tx.settle (refundTx concertBook selectConcertId userId bookingId) env db
  (.ofOutcome outcome, next)

/-! ## What it does to the rows -/

/-- `next` is `ledger` with the booking cancelled: its row, its payment and its
ACTIVE seats. -/
structure Ledger.Refunded [DecidableEq Cell] (ledger next : Ledger Cell) (bookingId : Int) :
    Prop where
  bookings : next.bookings.rows = ledger.bookings.rows.map fun row =>
    if row.bookingId = bookingId then row.cancelled else row
  seats : next.seats.rows = ledger.seats.rows.map fun row =>
    if row.bookingId = bookingId ∧ row.status = .active then row.cancelled else row
  payments : next.payments.rows = ledger.payments.rows.map fun row =>
    if row.bookingId = bookingId then row.cancelled else row

/-- The booking exists, belongs to the user and is not cancelled. -/
def Refundable (book : Book Cell) (userId bookingId : Int) (db : Db) (booking : Booking) : Prop :=
  findBooking book userId bookingId db = some booking ∧ booking.bookStatus.isCancelled = false

theorem findBooking_eq_some {book : Book Cell} {userId bookingId : Int} {db : Db}
    {booking : Booking} (h : findBooking book userId bookingId db = some booking) :
    booking ∈ (book.get db).bookings.rows ∧ booking.bookingId = bookingId ∧
      booking.userId = userId := by
  have hfound := List.find?_some h
  simp only [decide_eq_true_eq] at hfound
  exact ⟨List.mem_of_find?_eq_some h, hfound⟩

/-- The connection opens and the first `n` calls go through. -/
def Clear (env : Env) (n : Nat) : Prop := env.connect = none ∧ ∀ k < n, env.fault k = none

instance (env : Env) (n : Nat) : Decidable (Clear env n) := inferInstanceAs (Decidable (_ ∧ _))

section Effects

variable [DecidableEq Cell] {book : Book Cell} {env : Env} {cursor final : Cursor Db}

omit [DecidableEq Cell] in
theorem cancelBooking_ok {bookingId : Int} {value : PUnit}
    (h : cancelBooking book bookingId env cursor = .ok (value, final)) :
    (env.fault cursor.calls = none ∧ final.calls = cursor.calls + 1) ∧
    ∃ bookings, final.db = book.set cursor.db { book.get cursor.db with bookings := bookings } ∧
      bookings.rows = (book.get cursor.db).bookings.rows.map fun row =>
        if row.bookingId = bookingId then row.cancelled else row := by
  obtain ⟨hfault, hcalls, hquery⟩ := Tx.exec_ok.mp h
  split at hquery
  next => cases hquery
  next bookings hupdate =>
    simp only [Except.ok.injEq, Prod.mk.injEq, true_and] at hquery
    exact ⟨⟨hfault, hcalls⟩, bookings, hquery.symm, by simpa using Table.update_eq_some hupdate⟩

omit [DecidableEq Cell] in
theorem cancelPayment_ok {bookingId : Int} {value : PUnit}
    (h : cancelPayment book bookingId env cursor = .ok (value, final)) :
    (env.fault cursor.calls = none ∧ final.calls = cursor.calls + 1) ∧
    ∃ payments, final.db = book.set cursor.db { book.get cursor.db with payments := payments } ∧
      payments.rows = (book.get cursor.db).payments.rows.map fun row =>
        if row.bookingId = bookingId then row.cancelled else row := by
  obtain ⟨hfault, hcalls, hquery⟩ := Tx.exec_ok.mp h
  split at hquery
  next => cases hquery
  next payments hupdate =>
    simp only [Except.ok.injEq, Prod.mk.injEq, true_and] at hquery
    exact ⟨⟨hfault, hcalls⟩, payments, hquery.symm, by simpa using Table.update_eq_some hupdate⟩

theorem cancelSeats_ok {bookingId : Int} {value : PUnit}
    (h : cancelSeats book bookingId env cursor = .ok (value, final)) :
    (env.fault cursor.calls = none ∧ final.calls = cursor.calls + 1) ∧
    ∃ seats, final.db = book.set cursor.db { book.get cursor.db with seats := seats } ∧
      seats.rows = (book.get cursor.db).seats.rows.map fun row =>
        if row.bookingId = bookingId ∧ row.status = .active then row.cancelled else row := by
  obtain ⟨hfault, hcalls, hquery⟩ := Tx.exec_ok.mp h
  split at hquery
  next => cases hquery
  next seats hupdate =>
    simp only [Except.ok.injEq, Prod.mk.injEq, true_and] at hquery
    exact ⟨⟨hfault, hcalls⟩, seats, hquery.symm, by simpa using Table.update_eq_some hupdate⟩

/-- `prepare` only reads, in `calls booking` calls that go through. -/
def ReadsOnly {α : Type} (prepare : Booking → Tx Db α) (calls : Booking → Nat) : Prop :=
  ∀ booking env cursor value final,
    prepare booking env cursor = .ok (value, final) →
      final = ⟨cursor.db, cursor.calls + calls booking⟩ ∧
        ∀ k < calls booking, env.fault (cursor.calls + k) = none

/-- A refund that commits found an own booking that was not cancelled, made all
its calls, and cancels exactly that booking. -/
theorem refundTx_commit {α : Type} {prepare : Booking → Tx Db α} {calls : Booking → Nat}
    {userId bookingId : Int} {value : α} (hprepare : ReadsOnly prepare calls)
    (h : refundTx book prepare userId bookingId env cursor = .ok (.commit value, final)) :
    ∃ booking, Refundable book userId bookingId cursor.db booking ∧
      (∀ k < 5 + calls booking, env.fault (cursor.calls + k) = none) ∧
      ∃ next, final.db = book.set cursor.db next ∧
        (book.get cursor.db).Refunded next bookingId := by
  obtain ⟨found, c₁, hselect, h⟩ := Tx.bind_ok.mp h
  obtain ⟨hfault₁, hfind, rfl⟩ := Tx.select_ok.mp hselect
  cases found with
  | none =>
      obtain ⟨_, _, _, h⟩ := Tx.bind_ok.mp h
      cases (Tx.pure_ok.mp h).1
  | some booking =>
      dsimp only at h
      split at h
      next =>
        obtain ⟨_, _, _, h⟩ := Tx.bind_ok.mp h
        cases (Tx.pure_ok.mp h).1
      next hstatus =>
        obtain ⟨_, c₂, hread, h⟩ := Tx.bind_ok.mp h
        obtain ⟨_, c₃, hbooking, h⟩ := Tx.bind_ok.mp h
        obtain ⟨_, c₄, hpayment, h⟩ := Tx.bind_ok.mp h
        obtain ⟨_, c₅, hseat, h⟩ := Tx.bind_ok.mp h
        obtain ⟨_, c₆, hcommit, h⟩ := Tx.bind_ok.mp h
        obtain ⟨_, rfl⟩ := Tx.pure_ok.mp h
        obtain ⟨hfault₆, rfl⟩ := Tx.call_ok.mp hcommit
        obtain ⟨rfl, hfault₂⟩ := hprepare _ _ _ _ _ hread
        obtain ⟨⟨hfault₃, hcalls₃⟩, bookings, hdb₃, hbookings⟩ := cancelBooking_ok hbooking
        obtain ⟨⟨hfault₄, hcalls₄⟩, payments, hdb₄, hpayments⟩ := cancelPayment_ok hpayment
        obtain ⟨⟨hfault₅, hcalls₅⟩, seats, hdb₅, hseats⟩ := cancelSeats_ok hseat
        rw [hdb₃] at hdb₄ hpayments
        rw [hdb₄] at hdb₅ hseats
        simp only [book.get_set, book.set_set] at hdb₅ hpayments hseats
        refine ⟨booking, ⟨hfind.symm, by simpa using hstatus⟩, ?_, _, hdb₅,
          ⟨hbookings, hseats, hpayments⟩⟩
        rw [hcalls₅, hcalls₄, hcalls₃] at hfault₆
        rw [hcalls₄, hcalls₃] at hfault₅
        rw [hcalls₃] at hfault₄
        dsimp only at hfault₂ hfault₃ hfault₄ hfault₅ hfault₆
        intro k hk
        -- the first call, those of `prepare`, and the last four
        by_cases hread : 1 ≤ k ∧ k < 1 + calls booking
        · have := hfault₂ (k - 1) (by omega)
          rwa [show cursor.calls + 1 + (k - 1) = cursor.calls + k by omega] at this
        · obtain rfl | rfl | rfl | rfl | rfl :
              k = 0 ∨ k = 1 + calls booking ∨ k = 1 + calls booking + 1 ∨
                k = 1 + calls booking + 2 ∨ k = 1 + calls booking + 3 := by omega
          · exact hfault₁
          · simpa only [Nat.add_assoc] using hfault₃
          · simpa only [Nat.add_assoc] using hfault₄
          · simpa only [Nat.add_assoc] using hfault₅
          · simpa only [Nat.add_assoc] using hfault₆

/-- Who leaves early is told why. -/
theorem refundTx_leave {α : Type} {prepare : Booking → Tx Db α} {userId bookingId : Int}
    {reply : RefundReply}
    (h : refundTx book prepare userId bookingId env cursor = .ok (.leave reply, final)) :
    reply ≠ .done := by
  obtain ⟨found, _, _, h⟩ := Tx.bind_ok.mp h
  cases found with
  | none =>
      obtain ⟨_, _, _, h⟩ := Tx.bind_ok.mp h
      cases (Tx.pure_ok.mp h).1
      simp
  | some booking =>
      dsimp only at h
      split at h
      next =>
        obtain ⟨_, _, _, h⟩ := Tx.bind_ok.mp h
        cases (Tx.pure_ok.mp h).1
        simp
      next =>
        obtain ⟨_, _, _, h⟩ := Tx.bind_ok.mp h
        obtain ⟨_, _, _, h⟩ := Tx.bind_ok.mp h
        obtain ⟨_, _, _, h⟩ := Tx.bind_ok.mp h
        obtain ⟨_, _, _, h⟩ := Tx.bind_ok.mp h
        obtain ⟨_, _, _, h⟩ := Tx.bind_ok.mp h
        cases (Tx.pure_ok.mp h).1

end Effects

theorem readsOnly_pure : ReadsOnly (fun _ => (return () : Tx Db Unit)) (fun _ => 0) := by
  intro booking env cursor value final h
  obtain ⟨_, rfl⟩ := Tx.pure_ok.mp h
  exact ⟨rfl, by simp⟩

/-- The number of calls of `selectConcertId`. -/
def concertIdCalls (booking : Booking) : Nat := if 0 < booking.showingId then 1 else 0

theorem readsOnly_selectConcertId : ReadsOnly selectConcertId concertIdCalls := by
  intro booking env cursor value final h
  unfold selectConcertId at h
  unfold concertIdCalls
  split at h
  next hpos =>
    obtain ⟨found, middle, hselect, h⟩ := Tx.bind_ok.mp h
    obtain ⟨hfault, _, rfl⟩ := Tx.select_ok.mp hselect
    obtain rfl : final = ⟨cursor.db, cursor.calls + 1⟩ := by
      cases found with
      | some row => exact (Tx.pure_ok.mp h).2
      | none => exact (Tx.pure_ok.mp h).2
    rw [if_pos hpos]
    refine ⟨rfl, fun k hk => ?_⟩
    obtain rfl : k = 0 := by omega
    exact hfault
  next hneg =>
    obtain ⟨_, rfl⟩ := Tx.pure_ok.mp h
    rw [if_neg hneg]
    exact ⟨rfl, by simp⟩

/-- Either variant changes nothing, or cancels one own booking of the user. -/
theorem settle_refundTx_cases [DecidableEq Cell] {α : Type} {book : Book Cell}
    {prepare : Booking → Tx Db α} {calls : Booking → Nat} (hprepare : ReadsOnly prepare calls)
    (env : Env) (userId bookingId : Int) (db : Db) :
    (Tx.settle (refundTx book prepare userId bookingId) env db).2 = db ∨
      ∃ booking, Refundable book userId bookingId db booking ∧ Clear env (5 + calls booking) ∧
        ∃ next, (Tx.settle (refundTx book prepare userId bookingId) env db).2 = book.set db next ∧
          (book.get db).Refunded next bookingId := by
  rcases Tx.settle_db (refundTx book prepare userId bookingId) env db with
    ⟨value, cursor, hrun, hsettle, hconnect⟩ | ⟨hsame, _⟩
  · obtain ⟨booking, hrefundable, hcalls, next, hdb, hrefunded⟩ := refundTx_commit hprepare hrun
    refine .inr ⟨booking, hrefundable, ⟨hconnect, fun k hk => ?_⟩, next, ?_, hrefunded⟩
    · simpa using hcalls k hk
    · rw [hsettle]
      exact hdb
  · exact .inl hsame

theorem refundMovieBooking_cases (env : Env) (userId bookingId : Int) (db : Db) :
    (refundMovieBooking env userId bookingId db).2 = db ∨
      ∃ booking, Refundable movieBook userId bookingId db booking ∧ Clear env 5 ∧
        ∃ next, (refundMovieBooking env userId bookingId db).2 = { db with movies := next } ∧
          db.movies.Refunded next bookingId :=
  settle_refundTx_cases readsOnly_pure env userId bookingId db

theorem refundConcertBooking_cases (env : Env) (userId bookingId : Int) (db : Db) :
    (refundConcertBooking env userId bookingId db).2 = db ∨
      ∃ booking, Refundable concertBook userId bookingId db booking ∧
        Clear env (5 + concertIdCalls booking) ∧
        ∃ next, (refundConcertBooking env userId bookingId db).2 = { db with concerts := next } ∧
          db.concerts.Refunded next bookingId :=
  settle_refundTx_cases readsOnly_selectConcertId env userId bookingId db

/-- The reply of a refund says whether it took place. -/
theorem refundMovieBooking_reply (env : Env) (userId bookingId : Int) (db : Db) :
    ((refundMovieBooking env userId bookingId db).1 = .done ∧
      ∃ booking movies, Refundable movieBook userId bookingId db booking ∧
        (refundMovieBooking env userId bookingId db).2 = { db with movies := movies } ∧
        db.movies.Refunded movies bookingId) ∨
    ((refundMovieBooking env userId bookingId db).1 ≠ .done ∧
      (refundMovieBooking env userId bookingId db).2 = db) := by
  unfold refundMovieBooking
  rcases Tx.settle_db (refundTx movieBook (fun _ => return ()) userId bookingId) env db with
    ⟨value, cursor, hrun, hsettle, _⟩ | ⟨hsame, hnone⟩
  · obtain ⟨booking, hrefundable, _, movies, hdb, hrefunded⟩ :=
      refundTx_commit readsOnly_pure hrun
    rw [hsettle]
    exact .inl ⟨rfl, booking, movies, hrefundable, hdb, hrefunded⟩
  · refine .inr ⟨?_, hsame⟩
    dsimp only
    cases houtcome : (Tx.settle (refundTx movieBook (fun _ => return ()) userId bookingId)
        env db).1 with
    | commit value => exact absurd houtcome (hnone value)
    | leave reply =>
        obtain ⟨_, hleave⟩ := Tx.settle_leave houtcome
        exact refundTx_leave hleave
    | failed error => simp [RefundReply.ofOutcome]
    | lost => simp [RefundReply.ofOutcome]

end Ticketing
