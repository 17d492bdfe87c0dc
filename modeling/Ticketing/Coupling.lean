import Ticketing.Theater.Capacity
import Ticketing.Worker.Handler

/-!
# Bookings, seat rows and payments move together

A booking is spread over three tables. The worker inserts all of it and a refund
cancels all of it, each in one transaction, so what the booking row says is also
what its seat rows and its payment say, after any number of transactions.
-/

namespace Ticketing

open Foundation

variable {Cell : Type} {ledger next : Ledger Cell}

namespace Ledger

/-- The seat rows of a booking, whatever their status. -/
def seatsOf (ledger : Ledger Cell) (bookingId : Int) : List (BookingSeat Cell) :=
  ledger.seats.rows.filter fun row => row.bookingId = bookingId

def paymentsOf (ledger : Ledger Cell) (bookingId : Int) : List Payment :=
  ledger.payments.rows.filter fun row => row.bookingId = bookingId

/-- The booking row agrees with its seat rows and with its only payment. -/
structure Coupled (ledger : Ledger Cell) (booking : Booking) : Prop where
  seatCount : (ledger.seatsOf booking.bookingId).length = booking.regCount
  payment : ∃ payment, ledger.paymentsOf booking.bookingId = [payment] ∧
    (booking.bookStatus = .paid → payment.payYn = .y) ∧
    (booking.bookStatus = .cancel → payment.payYn = .n)
  paid : booking.bookStatus = .paid →
    ∀ row ∈ ledger.seatsOf booking.bookingId, row.status = .active
  cancelled : booking.bookStatus = .cancel →
    ∀ row ∈ ledger.seatsOf booking.bookingId, row.status ≠ .active

/-- All bookings are coupled, and no seat row or payment is without a booking. -/
structure CouplingInv (ledger : Ledger Cell) : Prop where
  coupled : ∀ booking ∈ ledger.bookings.rows, ledger.Coupled booking
  status : ∀ booking ∈ ledger.bookings.rows,
    booking.bookStatus = .paid ∨ booking.bookStatus = .cancel
  seatOwner : ∀ row ∈ ledger.seats.rows,
    ∃ booking ∈ ledger.bookings.rows, booking.bookingId = row.bookingId
  paymentOwner : ∀ row ∈ ledger.payments.rows,
    ∃ booking ∈ ledger.bookings.rows, booking.bookingId = row.bookingId

/-- `next` differs from `ledger` at most in the rows of one booking. -/
structure SameExcept (ledger next : Ledger Cell) (bookingId : Int) : Prop where
  bookings : (next.bookings.rows.filter fun row => row.bookingId ≠ bookingId) =
    ledger.bookings.rows.filter fun row => row.bookingId ≠ bookingId
  seats : (next.seats.rows.filter fun row => row.bookingId ≠ bookingId) =
    ledger.seats.rows.filter fun row => row.bookingId ≠ bookingId
  payments : (next.payments.rows.filter fun row => row.bookingId ≠ bookingId) =
    ledger.payments.rows.filter fun row => row.bookingId ≠ bookingId

theorem SameExcept.refl (ledger : Ledger Cell) (bookingId : Int) :
    ledger.SameExcept ledger bookingId := ⟨rfl, rfl, rfl⟩

theorem couplingInv_empty : (Ledger.empty : Ledger Cell).CouplingInv := by
  constructor <;> intro row hrow <;> cases hrow

/-! ## A booking -/

section Booked

variable {userId showingId bookingId : Int} {cells : List Cell}

theorem Booked.seatsOf_old (h : ledger.Booked next userId showingId cells bookingId) {other : Int}
    (hother : other < bookingId) : next.seatsOf other = ledger.seatsOf other := by
  obtain ⟨rows, hseats, hrows⟩ := h.seats
  have hnone : rows.filter (fun row => row.bookingId = other) = [] := by
    refine List.filter_eq_nil_iff.mpr fun row hrow => ?_
    rw [decide_eq_true_eq, (hrows.mem hrow).1]
    exact Int.ne_of_gt hother
  rw [seatsOf, hseats, List.filter_append, hnone, List.append_nil]
  rfl

theorem Booked.paymentsOf_old (h : ledger.Booked next userId showingId cells bookingId)
    {other : Int} (hother : other < bookingId) :
    next.paymentsOf other = ledger.paymentsOf other := by
  obtain ⟨paymentId, hpayments⟩ := h.payments
  rw [paymentsOf, hpayments, List.filter_append,
    List.filter_cons_of_neg (by simpa using Int.ne_of_gt hother), List.filter_nil,
    List.append_nil]
  rfl

theorem CouplingInv.seat_lt (hinv : ledger.CouplingInv)
    (h : ledger.Booked next userId showingId cells bookingId) {row : BookingSeat Cell}
    (hrow : row ∈ ledger.seats.rows) : row.bookingId < bookingId := by
  obtain ⟨booking, hbooking, hid⟩ := hinv.seatOwner row hrow
  rw [← hid]
  exact h.fresh booking hbooking

theorem CouplingInv.payment_lt (hinv : ledger.CouplingInv)
    (h : ledger.Booked next userId showingId cells bookingId) {row : Payment}
    (hrow : row ∈ ledger.payments.rows) : row.bookingId < bookingId := by
  obtain ⟨booking, hbooking, hid⟩ := hinv.paymentOwner row hrow
  rw [← hid]
  exact h.fresh booking hbooking

/-- The seat rows of the new booking are the inserted ones. -/
theorem Booked.seatsOf_new (h : ledger.Booked next userId showingId cells bookingId)
    (hinv : ledger.CouplingInv) : SeatRows bookingId showingId cells (next.seatsOf bookingId) := by
  obtain ⟨rows, hseats, hrows⟩ := h.seats
  have hold : ledger.seats.rows.filter (fun row => row.bookingId = bookingId) = [] := by
    refine List.filter_eq_nil_iff.mpr fun row hrow => ?_
    have := hinv.seat_lt h hrow
    simp only [decide_eq_true_eq]
    omega
  have hall : rows.filter (fun row => row.bookingId = bookingId) = rows :=
    List.filter_eq_self.mpr fun row hrow => by simpa using (hrows.mem hrow).1
  rw [seatsOf, hseats, List.filter_append, hold, hall, List.nil_append]
  exact hrows

theorem Booked.paymentsOf_new (h : ledger.Booked next userId showingId cells bookingId)
    (hinv : ledger.CouplingInv) :
    ∃ paymentId, next.paymentsOf bookingId = [⟨paymentId, bookingId, .y⟩] := by
  obtain ⟨paymentId, hpayments⟩ := h.payments
  have hold : ledger.payments.rows.filter (fun row => row.bookingId = bookingId) = [] := by
    refine List.filter_eq_nil_iff.mpr fun row hrow => ?_
    have := hinv.payment_lt h hrow
    simp only [decide_eq_true_eq]
    omega
  refine ⟨paymentId, ?_⟩
  rw [paymentsOf, hpayments, List.filter_append, hold, List.nil_append,
    List.filter_cons_of_pos (by simp), List.filter_nil]

theorem CouplingInv.booked (hinv : ledger.CouplingInv)
    (h : ledger.Booked next userId showingId cells bookingId) : next.CouplingInv := by
  obtain ⟨code, hreg, hbookings⟩ := h.bookings
  have hkept : ∀ id, (∃ booking ∈ ledger.bookings.rows, booking.bookingId = id) →
      ∃ booking ∈ next.bookings.rows, booking.bookingId = id := by
    rintro id ⟨booking, hbooking, hid⟩
    refine ⟨booking, ?_, hid⟩
    rw [hbookings]
    exact List.mem_append_left _ hbooking
  have hnew : ∃ booking ∈ next.bookings.rows, booking.bookingId = bookingId := by
    rw [hbookings]
    exact ⟨_, List.mem_append_right _ (List.mem_singleton_self _), rfl⟩
  constructor
  · intro booking hbooking
    rw [hbookings] at hbooking
    rcases List.mem_append.mp hbooking with hold | hlast
    · have hlt := h.fresh booking hold
      obtain ⟨hcount, hpayment, hpaid, hcancelled⟩ := hinv.coupled booking hold
      rw [← h.seatsOf_old hlt] at hcount hpaid hcancelled
      rw [← h.paymentsOf_old hlt] at hpayment
      exact ⟨hcount, hpayment, hpaid, hcancelled⟩
    · obtain rfl := List.mem_singleton.mp hlast
      have hseats := h.seatsOf_new hinv
      obtain ⟨paymentId, hpayment⟩ := h.paymentsOf_new hinv
      refine ⟨?_, ⟨_, hpayment, fun _ => rfl, ?_⟩, ?_, ?_⟩
      · exact congrArg Nat.cast hseats.length_eq.symm
      · intro hcancel
        cases hcancel
      · intro _ row hrow
        exact (hseats.mem hrow).2.2
      · intro hcancel
        cases hcancel
  · intro booking hbooking
    rw [hbookings] at hbooking
    rcases List.mem_append.mp hbooking with hold | hlast
    · exact hinv.status booking hold
    · rw [List.mem_singleton.mp hlast]
      exact .inl rfl
  · obtain ⟨rows, hseats, hrows⟩ := h.seats
    intro row hrow
    rw [hseats] at hrow
    rcases List.mem_append.mp hrow with hold | hlast
    · exact hkept _ (hinv.seatOwner row hold)
    · rw [(hrows.mem hlast).1]
      exact hnew
  · obtain ⟨paymentId, hpayments⟩ := h.payments
    intro row hrow
    rw [hpayments] at hrow
    rcases List.mem_append.mp hrow with hold | hlast
    · exact hkept _ (hinv.paymentOwner row hold)
    · rw [List.mem_singleton.mp hlast]
      exact hnew

end Booked

/-! ## A refund -/

section Refunded

variable [DecidableEq Cell] {bookingId : Int}

/-- A row that is rewritten for one booking is not seen by the others. -/
theorem filter_map_update {Row : Type} (rows : List Row) {touched : Row → Prop}
    [DecidablePred touched] (f : Row → Row) {selected : Row → Bool}
    (hselected : ∀ row, touched row → selected row = false ∧ selected (f row) = false) :
    (rows.map fun row => if touched row then f row else row).filter selected =
      rows.filter selected := by
  induction rows with
  | nil => rfl
  | cons row rest ih =>
      rw [List.map_cons]
      by_cases htouched : touched row
      · obtain ⟨hold, hnew⟩ := hselected row htouched
        rw [if_pos htouched, List.filter_cons_of_neg (by simp [hnew]),
          List.filter_cons_of_neg (by simp [hold]), ih]
      · rw [if_neg htouched, List.filter_cons, List.filter_cons, ih]

/-- A selection by columns that an UPDATE leaves alone. -/
theorem filter_map_same {Row : Type} (rows : List Row) (f : Row → Row) {selected : Row → Bool}
    (hselected : ∀ row, selected (f row) = selected row) :
    (rows.map f).filter selected = (rows.filter selected).map f := by
  rw [List.filter_map]
  congr 2
  funext row
  exact hselected row

theorem Refunded.sameExcept (h : ledger.Refunded next bookingId) :
    ledger.SameExcept next bookingId := by
  refine ⟨?_, ?_, ?_⟩
  · rw [h.bookings]
    apply filter_map_update
    intro row hrow
    simp [hrow, Booking.cancelled]
  · rw [h.seats]
    apply filter_map_update
    intro row hrow
    simp [hrow.1, BookingSeat.cancelled]
  · rw [h.payments]
    apply filter_map_update
    intro row hrow
    simp [hrow, Payment.cancelled]

theorem Refunded.seatsOf_other (h : ledger.Refunded next bookingId) {other : Int}
    (hother : other ≠ bookingId) : next.seatsOf other = ledger.seatsOf other := by
  rw [seatsOf, h.seats]
  apply filter_map_update
  intro row hrow
  simp [hrow.1, BookingSeat.cancelled, hother.symm]

theorem Refunded.paymentsOf_other (h : ledger.Refunded next bookingId) {other : Int}
    (hother : other ≠ bookingId) : next.paymentsOf other = ledger.paymentsOf other := by
  rw [paymentsOf, h.payments]
  apply filter_map_update
  intro row hrow
  simp [hrow, Payment.cancelled, hother.symm]

/-- The seat rows of the refunded booking stay, and none of them is ACTIVE. -/
theorem Refunded.seatsOf_same (h : ledger.Refunded next bookingId) :
    next.seatsOf bookingId = (ledger.seatsOf bookingId).map fun row =>
      if row.status = .active then row.cancelled else row := by
  rw [seatsOf, h.seats, filter_map_same _ _ fun row => by split <;> rfl, seatsOf]
  apply List.map_congr_left
  intro row hrow
  have hown : row.bookingId = bookingId := by simpa using (List.mem_filter.mp hrow).2
  simp [hown]

theorem Refunded.paymentsOf_same (h : ledger.Refunded next bookingId) :
    next.paymentsOf bookingId = (ledger.paymentsOf bookingId).map Payment.cancelled := by
  rw [paymentsOf, h.payments, filter_map_same _ _ fun row => by split <;> rfl, paymentsOf]
  apply List.map_congr_left
  intro row hrow
  have hown : row.bookingId = bookingId := by simpa using (List.mem_filter.mp hrow).2
  simp [hown]

theorem Refunded.coupled_same (h : ledger.Refunded next bookingId) {booking : Booking}
    (hid : booking.bookingId = bookingId) (hcoupled : ledger.Coupled booking) :
    next.Coupled booking.cancelled := by
  subst hid
  obtain ⟨payment, hpayment, _⟩ := hcoupled.payment
  have hpayments : next.paymentsOf booking.bookingId = [payment.cancelled] := by
    rw [h.paymentsOf_same, hpayment, List.map_singleton]
  refine ⟨?_, ⟨payment.cancelled, hpayments, ?_, fun _ => rfl⟩, ?_, ?_⟩
  · change ((next.seatsOf booking.bookingId).length : Int) = booking.regCount
    rw [h.seatsOf_same, List.length_map]
    exact hcoupled.seatCount
  · intro hpaid
    cases hpaid
  · intro hpaid
    cases hpaid
  · intro _ row hrow
    change row ∈ next.seatsOf booking.bookingId at hrow
    rw [h.seatsOf_same] at hrow
    obtain ⟨old, _, rfl⟩ := List.mem_map.mp hrow
    split
    next => simp [BookingSeat.cancelled]
    next hcancelled => exact hcancelled

theorem Refunded.coupled_other (h : ledger.Refunded next bookingId) {booking : Booking}
    (hid : booking.bookingId ≠ bookingId) (hcoupled : ledger.Coupled booking) :
    next.Coupled booking := by
  obtain ⟨hcount, hpayment, hpaid, hcancelled⟩ := hcoupled
  rw [← h.seatsOf_other hid] at hcount hpaid hcancelled
  rw [← h.paymentsOf_other hid] at hpayment
  exact ⟨hcount, hpayment, hpaid, hcancelled⟩

theorem CouplingInv.refunded (hinv : ledger.CouplingInv) (h : ledger.Refunded next bookingId) :
    next.CouplingInv := by
  have hkept : ∀ id, (∃ booking ∈ ledger.bookings.rows, booking.bookingId = id) →
      ∃ booking ∈ next.bookings.rows, booking.bookingId = id := by
    rintro id ⟨booking, hbooking, rfl⟩
    rw [h.bookings]
    refine ⟨_, List.mem_map_of_mem hbooking, ?_⟩
    split <;> rfl
  constructor
  · intro booking hbooking
    rw [h.bookings] at hbooking
    obtain ⟨old, hold, rfl⟩ := List.mem_map.mp hbooking
    split
    next hid => exact h.coupled_same hid (hinv.coupled old hold)
    next hid => exact h.coupled_other hid (hinv.coupled old hold)
  · intro booking hbooking
    rw [h.bookings] at hbooking
    obtain ⟨old, hold, rfl⟩ := List.mem_map.mp hbooking
    split
    next => exact .inr rfl
    next => exact hinv.status old hold
  · intro row hrow
    rw [h.seats] at hrow
    obtain ⟨old, hold, rfl⟩ := List.mem_map.mp hrow
    have hid := hkept _ (hinv.seatOwner old hold)
    split
    next => exact hid
    next => exact hid
  · intro row hrow
    rw [h.payments] at hrow
    obtain ⟨old, hold, rfl⟩ := List.mem_map.mp hrow
    have hid := hkept _ (hinv.paymentOwner old hold)
    split
    next => exact hid
    next => exact hid

end Refunded

end Ledger

/-! ## Every run -/

/-- The database under transactions of both kinds, in any order. -/
def dbMachine : Machine Db DbStep where
  step db a := some (a.apply db)

theorem dbMachine_total (db : Db) (steps : List DbStep) :
    ∃ final, dbMachine.run db steps = some final :=
  Machine.run_total (fun _ _ => ⟨_, rfl⟩) db steps

/-- Nothing has been booked yet. -/
def Db.NoBookings (db : Db) : Prop := db.movies = .empty ∧ db.concerts = .empty

/-- Both ledgers are coupled. -/
def Db.CouplingInv (db : Db) : Prop := db.movies.CouplingInv ∧ db.concerts.CouplingInv

theorem Db.NoBookings.couplingInv {db : Db} (h : db.NoBookings) : db.CouplingInv := by
  unfold Db.CouplingInv
  rw [h.1, h.2]
  exact ⟨Ledger.couplingInv_empty, Ledger.couplingInv_empty⟩

theorem Transacted.couplingInv {db next : Db} (hinv : db.CouplingInv)
    (h : Transacted db next) : next.CouplingInv := by
  cases h with
  | same => exact hinv
  | theater hbooked =>
      rw [hbooked.frame]
      exact ⟨hinv.1.booked hbooked.movies, hinv.2⟩
  | concert hbooked =>
      rw [hbooked.frame]
      exact ⟨hinv.1, hinv.2.booked hbooked.concerts⟩
  | refundMovie hrefunded => exact ⟨hinv.1.refunded hrefunded, hinv.2⟩
  | refundConcert hrefunded => exact ⟨hinv.1, hinv.2.refunded hrefunded⟩

theorem dbMachine_couplingInv {db final : Db} {steps : List DbStep} (hinv : db.CouplingInv)
    (hrun : dbMachine.run db steps = some final) : final.CouplingInv := by
  have hstep : ∀ s a next, Db.CouplingInv s → dbMachine.step s a = some next →
      Db.CouplingInv next := by
    intro s a next hs h
    obtain rfl := Option.some.inj h
    exact (a.transacted s).couplingInv hs
  exact Machine.run_invariant hstep hinv hrun

/-! ## Refund calls -/

/-- What the refund endpoint for one ledger leaves of the database. -/
abbrev Refund := Env → Int → Int → Db → Db

def movieRefund : Refund := fun env userId bookingId db =>
  (refundMovieBooking env userId bookingId db).2

def concertRefund : Refund := fun env userId bookingId db =>
  (refundConcertBooking env userId bookingId db).2

/-- A call of the endpoint does nothing, or cancels an own booking of the user. -/
def Refund.Cancels [DecidableEq Cell] (refund : Refund) (book : Book Cell) : Prop :=
  ∀ env userId bookingId db, refund env userId bookingId db = db ∨
    ∃ booking, Refundable book userId bookingId db booking ∧
      ∃ next, refund env userId bookingId db = book.set db next ∧
        (book.get db).Refunded next bookingId

theorem movieRefund_cancels : movieRefund.Cancels movieBook := by
  intro env userId bookingId db
  rcases refundMovieBooking_cases env userId bookingId db with
    hsame | ⟨booking, hrefundable, _, next, hnext, hrefunded⟩
  · exact .inl hsame
  · exact .inr ⟨booking, hrefundable, next, hnext, hrefunded⟩

theorem concertRefund_cancels : concertRefund.Cancels concertBook := by
  intro env userId bookingId db
  rcases refundConcertBooking_cases env userId bookingId db with
    hsame | ⟨booking, hrefundable, _, next, hnext, hrefunded⟩
  · exact .inl hsame
  · exact .inr ⟨booking, hrefundable, next, hnext, hrefunded⟩

/-- The booking exists and is cancelled. -/
def Ledger.Cancelled (ledger : Ledger Cell) (bookingId : Int) : Prop :=
  ∃ booking ∈ ledger.bookings.rows, booking.bookingId = bookingId ∧
    booking.bookStatus.isCancelled = true

theorem Ledger.Cancelled.booked {userId showingId bookingId other : Int} {cells : List Cell}
    (hcancelled : ledger.Cancelled other)
    (h : ledger.Booked next userId showingId cells bookingId) : next.Cancelled other := by
  obtain ⟨booking, hbooking, hid⟩ := hcancelled
  obtain ⟨code, hreg, hbookings⟩ := h.bookings
  refine ⟨booking, ?_, hid⟩
  rw [hbookings]
  exact List.mem_append_left _ hbooking

theorem Ledger.Cancelled.refunded [DecidableEq Cell] {bookingId other : Int}
    (hcancelled : ledger.Cancelled other) (h : ledger.Refunded next bookingId) :
    next.Cancelled other := by
  obtain ⟨booking, hbooking, hid, hstatus⟩ := hcancelled
  refine ⟨if booking.bookingId = bookingId then booking.cancelled else booking, ?_, ?_, ?_⟩
  · rw [h.bookings]
    exact List.mem_map_of_mem hbooking
  · split
    next => exact hid
    next => exact hid
  · split
    next => rfl
    next => exact hstatus

/-- The booking of a refund that took place is cancelled. -/
theorem Refundable.cancelled [DecidableEq Cell] {book : Book Cell} {userId bookingId : Int}
    {db : Db} {booking : Booking} (hrefundable : Refundable book userId bookingId db booking)
    (h : (book.get db).Refunded next bookingId) : next.Cancelled bookingId := by
  obtain ⟨hmem, hid, _⟩ := findBooking_eq_some hrefundable.1
  refine ⟨booking.cancelled, ?_, hid, rfl⟩
  rw [h.bookings]
  exact List.mem_map.mpr ⟨booking, hmem, if_pos hid⟩

/-- No transaction takes a cancellation back. -/
theorem Transacted.cancelled {db after : Db} (h : Transacted db after) (bookingId : Int) :
    (db.movies.Cancelled bookingId → after.movies.Cancelled bookingId) ∧
      (db.concerts.Cancelled bookingId → after.concerts.Cancelled bookingId) := by
  cases h with
  | same => exact ⟨id, id⟩
  | theater hbooked =>
      rw [hbooked.frame]
      exact ⟨fun hcancelled => hcancelled.booked hbooked.movies, id⟩
  | concert hbooked =>
      rw [hbooked.frame]
      exact ⟨id, fun hcancelled => hcancelled.booked hbooked.concerts⟩
  | refundMovie hrefunded => exact ⟨fun hcancelled => hcancelled.refunded hrefunded, id⟩
  | refundConcert hrefunded => exact ⟨id, fun hcancelled => hcancelled.refunded hrefunded⟩

/-- A ledger of the database in which cancellations last. -/
def Book.KeepsCancelled (book : Book Cell) : Prop :=
  ∀ db after, Transacted db after → ∀ bookingId, (book.get db).Cancelled bookingId →
    (book.get after).Cancelled bookingId

theorem Book.KeepsCancelled.run {book : Book Cell} (hkeeps : book.KeepsCancelled)
    {db final : Db} {steps : List DbStep} {bookingId : Int}
    (hcancelled : (book.get db).Cancelled bookingId)
    (hrun : dbMachine.run db steps = some final) : (book.get final).Cancelled bookingId := by
  have hstep : ∀ s a after, (book.get s).Cancelled bookingId →
      dbMachine.step s a = some after → (book.get after).Cancelled bookingId := by
    intro s a after hs h
    obtain rfl := Option.some.inj h
    exact hkeeps s _ (a.transacted s) bookingId hs
  exact Machine.run_invariant hstep hcancelled hrun

/-- A refund touches a booking once: it changes something only for an own
booking that is still PAID, it changes only the rows of that booking, and
whatever happens then, no further refund of it changes anything. -/
structure RefundsOnce (book : Book Cell) (refund : Refund) (db : Db) : Prop where
  paid : ∀ env userId bookingId, refund env userId bookingId db ≠ db →
    ∃ booking ∈ (book.get db).bookings.rows, booking.bookingId = bookingId ∧
      booking.userId = userId ∧ booking.bookStatus = .paid
  frame : ∀ env userId bookingId, ∃ next, refund env userId bookingId db = book.set db next ∧
    (book.get db).SameExcept next bookingId
  final : ∀ env userId bookingId, refund env userId bookingId db ≠ db →
    ∀ steps later, dbMachine.run (refund env userId bookingId db) steps = some later →
      ∀ env' userId', refund env' userId' bookingId later = later

theorem Refund.Cancels.refundsOnce [DecidableEq Cell] {refund : Refund} {book : Book Cell}
    (hcancels : refund.Cancels book) (hkeeps : book.KeepsCancelled) {db : Db}
    (hinv : (book.get db).CouplingInv) : RefundsOnce book refund db := by
  constructor
  · intro env userId bookingId hchanged
    obtain ⟨booking, hrefundable, _⟩ := (hcancels env userId bookingId db).resolve_left hchanged
    obtain ⟨hmem, hid, huser⟩ := findBooking_eq_some hrefundable.1
    refine ⟨booking, hmem, hid, huser, ?_⟩
    rcases hinv.status booking hmem with hpaid | hcancel
    · exact hpaid
    · have hstatus := hrefundable.2
      rw [hcancel] at hstatus
      cases hstatus
  · intro env userId bookingId
    rcases hcancels env userId bookingId db with hsame | ⟨_, _, next, hnext, hrefunded⟩
    · exact ⟨book.get db, by rw [hsame, book.set_get], .refl _ _⟩
    · exact ⟨next, hnext, hrefunded.sameExcept⟩
  · intro env userId bookingId hchanged steps later hrun env' userId'
    obtain ⟨booking, hrefundable, next, hnext, hrefunded⟩ :=
      (hcancels env userId bookingId db).resolve_left hchanged
    have hfirst : (book.get (refund env userId bookingId db)).Cancelled bookingId := by
      rw [hnext, book.get_set]
      exact hrefundable.cancelled hrefunded
    obtain ⟨row, hrow, hid, hstatus⟩ := hkeeps.run hfirst hrun
    -- a second refund would have to find the booking not cancelled
    rcases hcancels env' userId' bookingId later with hsame | ⟨other, hother, _⟩
    · exact hsame
    · obtain ⟨hmem, hid', _⟩ := findBooking_eq_some hother.1
      obtain rfl := (book.get later).bookings.eq_of_pk_eq hmem hrow (hid'.trans hid.symm)
      rw [hother.2] at hstatus
      cases hstatus

/-- In every database that bookings and refunds lead to, each booking of either
kind agrees with its seat rows and its payment, and a refund touches it once. -/
theorem bookings_coupled {db final : Db} {steps : List DbStep} (hempty : db.NoBookings)
    (hrun : dbMachine.run db steps = some final) :
    ((∀ booking ∈ final.movies.bookings.rows, final.movies.Coupled booking) ∧
        RefundsOnce movieBook movieRefund final) ∧
      (∀ booking ∈ final.concerts.bookings.rows, final.concerts.Coupled booking) ∧
        RefundsOnce concertBook concertRefund final := by
  obtain ⟨hmovies, hconcerts⟩ := dbMachine_couplingInv hempty.couplingInv hrun
  refine ⟨⟨hmovies.coupled, ?_⟩, hconcerts.coupled, ?_⟩
  · exact movieRefund_cancels.refundsOnce
      (fun _ _ h bookingId => (h.cancelled bookingId).1) hmovies
  · exact concertRefund_cancels.refundsOnce
      (fun _ _ h bookingId => (h.cancelled bookingId).2) hconcerts

/-- The seat of `oneSeatDb` is booked and refunded. -/
def bookedThenRefunded : List DbStep :=
  [.book .quiet (fun _ => "AA000001") (theaterBody "first" [.str "1-1"]),
    .refundMovie .quiet 1 1]

theorem bookings_coupled_oneSeat :
    ∃ final, dbMachine.run oneSeatDb bookedThenRefunded = some final ∧
      (∀ booking ∈ final.movies.bookings.rows, final.movies.Coupled booking) ∧
        RefundsOnce movieBook movieRefund final := by
  obtain ⟨final, hrun⟩ := dbMachine_total oneSeatDb bookedThenRefunded
  exact ⟨final, hrun, (bookings_coupled ⟨rfl, rfl⟩ hrun).1⟩

end Ticketing
