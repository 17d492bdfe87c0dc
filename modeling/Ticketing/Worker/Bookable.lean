import Mathlib.Data.Prod.Basic
import Ticketing.Worker.Handler

/-!
# Requests that are booked

When nothing fails, a request for free seats is booked: no statement of the
handlers meets a constraint that it could violate. For the payment this takes a
foreign key of the database, that every payment is the payment of a booking.
-/

namespace Ticketing

open Foundation Python

/-! ## Payments of bookings -/

/-- The foreign key from payments to bookings. -/
def Ledger.PaymentsKnown {Cell : Type} (ledger : Ledger Cell) : Prop :=
  ∀ payment ∈ ledger.payments.rows, ∃ booking ∈ ledger.bookings.rows,
    booking.bookingId = payment.bookingId

/-- Both ledgers satisfy it. -/
structure PaymentsKnown (db : Db) : Prop where
  movies : db.movies.PaymentsKnown
  concerts : db.concerts.PaymentsKnown

section Payments

variable {Cell : Type} {ledger next : Ledger Cell}

theorem Ledger.Booked.paymentsKnown {userId showingId bookingId : Int} {cells : List Cell}
    (h : ledger.Booked next userId showingId cells bookingId) (hknown : ledger.PaymentsKnown) :
    next.PaymentsKnown := by
  obtain ⟨code, hreg, hbookings⟩ := h.bookings
  obtain ⟨paymentId, hpayments⟩ := h.payments
  intro payment hpayment
  rw [hpayments] at hpayment
  rw [hbookings]
  rcases List.mem_append.mp hpayment with hold | hnew
  · obtain ⟨booking, hbooking, hid⟩ := hknown payment hold
    exact ⟨booking, List.mem_append_left _ hbooking, hid⟩
  · rw [List.mem_singleton.mp hnew]
    exact ⟨_, List.mem_append_right _ List.mem_cons_self, rfl⟩

theorem Ledger.Refunded.paymentsKnown [DecidableEq Cell] {bookingId : Int}
    (h : ledger.Refunded next bookingId) (hknown : ledger.PaymentsKnown) :
    next.PaymentsKnown := by
  intro payment hpayment
  rw [h.payments] at hpayment
  obtain ⟨old, hold, rfl⟩ := List.mem_map.mp hpayment
  obtain ⟨booking, hbooking, hid⟩ := hknown old hold
  rw [h.bookings]
  refine ⟨_, List.mem_map_of_mem hbooking, ?_⟩
  have hsame : (if booking.bookingId = bookingId then booking.cancelled else booking).bookingId =
      booking.bookingId := by
    split <;> rfl
  rw [hsame, hid]
  split <;> rfl

theorem PaymentsKnown.transacted {db next : Db} (hknown : PaymentsKnown db)
    (h : Transacted db next) : PaymentsKnown next := by
  cases h with
  | same => exact hknown
  | theater booked =>
      refine ⟨booked.movies.paymentsKnown hknown.movies, ?_⟩
      rw [booked.frame]
      exact hknown.concerts
  | concert booked =>
      refine ⟨?_, booked.concerts.paymentsKnown hknown.concerts⟩
      rw [booked.frame]
      exact hknown.movies
  | refundMovie refunded => exact ⟨refunded.paymentsKnown hknown.movies, hknown.concerts⟩
  | refundConcert refunded => exact ⟨hknown.movies, refunded.paymentsKnown hknown.concerts⟩

end Payments

/-! ## The insertions go through -/

section Insertions

variable {Cell : Type} {book : Book Cell} {env : Env} {cursor : Cursor Db}

theorem insertBooking_succeeds {userId showingId regCount : Int} (hfault : ∀ k, env.fault k = none)
    (huser : userId ∈ cursor.db.users)
    (hfits : fitsBigint userId = true ∧ fitsInt regCount = true) (hreg : 0 < regCount) :
    Tx.Succeeds (insertBooking book userId showingId regCount) env cursor := by
  apply Tx.exec_succeeds (hfault _)
  rw [if_neg (not_not.mpr hfits), dif_pos hreg, if_pos huser]
  split
  next hnone =>
    -- the code of the new row is NULL
    exact absurd hnone (Table.insert_ne_none (by rintro key ⟨⟩))
  next id bookings _ => exact ⟨id, _, rfl⟩

/-- A code that is in use raises an integrity error, and no other. -/
theorem assignBookingCode_succeeds {bookingId : Int} {codes : Nat → String} {n : Nat}
    (hfault : ∀ k, env.fault k = none) :
    Tx.Succeeds (assignBookingCode book bookingId codes n) env cursor := by
  induction n generalizing cursor with
  | zero => exact Tx.pure_yields trivial
  | succ n ih =>
      have htry : Tx.Succeeds (Tx.attempt (updateBookingCode book bookingId (codes n))) env
          cursor := by
        apply Tx.attempt_succeeds
        intro text
        unfold updateBookingCode Tx.exec
        rw [hfault]
        dsimp only
        split
        next herror =>
          split at herror
          next => cases herror; simp
          next => cases herror
        next => simp
      apply Tx.bind_yields htry
      intro stored middle _
      cases stored with
      | none => exact ih
      | some _ => exact Tx.pure_yields trivial

/-- The statements insert the seats if none of them is ACTIVE. -/
def InsertsFree [DecidableEq Cell] (book : Book Cell) (insertSeats : Int → Tx Db PUnit)
    (showingId : Int) (cells : List Cell) : Prop :=
  ∀ bookingId env cursor, (∀ k, env.fault k = none) →
    (∀ cell ∈ cells, ¬ (book.get cursor.db).Active showingId cell) →
      Tx.Succeeds (insertSeats bookingId) env cursor

theorem newSeat_activeKey (bookingId showingId : Int) (cell : Cell) (id : Int) :
    (newSeat bookingId showingId cell id).activeKey = some (showingId, cell) :=
  rfl

theorem insertAllSeats_insertsFree [DecidableEq Cell] {showingId : Int} {cells : List Cell}
    (hne : cells ≠ []) (hnodup : cells.Nodup) :
    InsertsFree book (fun bookingId => insertAllSeats book bookingId showingId cells) showingId
      cells := by
  intro bookingId env cursor hfault hfree
  apply Tx.exec_succeeds (hfault _)
  rw [if_neg hne]
  split
  next hnone =>
    have hkeys : List.Forall₂ (fun build key => ∀ id, (bookingSeatIx Cell).unique (build id) =
        some key) (cells.map (newSeat bookingId showingId)) (cells.map (Prod.mk showingId)) := by
      rw [List.forall₂_map_left_iff, List.forall₂_map_right_iff, List.forall₂_same]
      exact fun cell _ id => newSeat_activeKey bookingId showingId cell id
    refine absurd hnone (Table.insertAll_ne_none hkeys (hnodup.map (Prod.mk_right_injective _)) ?_)
    intro key hkey row hrow hused
    obtain ⟨cell, hcell, rfl⟩ := List.mem_map.mp hkey
    exact hfree cell hcell (Ledger.active_iff_key.mpr ⟨row, hrow, hused⟩)
  next seats _ => exact ⟨_, _, rfl⟩

theorem insertEachSeat_insertsFree [DecidableEq Cell] {showingId : Int} {cells : List Cell}
    (hnodup : cells.Nodup) :
    InsertsFree book (fun bookingId => insertEachSeat book bookingId showingId cells) showingId
      cells := by
  intro bookingId env cursor hfault hfree
  induction cells generalizing cursor with
  | nil => exact Tx.pure_yields trivial
  | cons cell rest ih =>
      obtain ⟨hnew, hrest⟩ := List.nodup_cons.mp hnodup
      refine Tx.bind_yields (Tx.exec_succeeds (hfault _) ?_) fun _ middle hfirst => ?_
      · split
        next hnone =>
          refine absurd hnone (Table.insert_ne_none ?_)
          intro key hkey row hrow hused
          rw [← hkey] at hused
          exact hfree cell List.mem_cons_self (Ledger.active_iff_key.mpr ⟨row, hrow, hused⟩)
        next seats _ => exact ⟨_, _, rfl⟩
      · refine ih hrest middle fun other hother hactive => ?_
        obtain ⟨_, _, hquery⟩ := Tx.exec_ok.mp hfirst
        split at hquery
        next => cases hquery
        next id seats hinsert =>
          simp only [Except.ok.injEq, Prod.mk.injEq, true_and] at hquery
          obtain ⟨_, hrows⟩ := Table.insert_eq_some hinsert
          obtain ⟨row, hrow, hkey⟩ := Ledger.active_iff_key.mp hactive
          rw [← hquery, book.get_set] at hrow
          dsimp only at hrow
          rw [hrows] at hrow
          rcases List.mem_append.mp hrow with hold | hlast
          · exact hfree other (List.mem_cons_of_mem cell hother)
              (Ledger.active_iff_key.mpr ⟨row, hold, hkey⟩)
          · rw [List.mem_singleton.mp hlast, newSeat_activeKey] at hkey
            simp only [Option.some.injEq, Prod.mk.injEq, true_and] at hkey
            exact hnew (hkey ▸ hother)

theorem insertPayment_succeeds {bookingId : Int} (hfault : ∀ k, env.fault k = none)
    (hunpaid : ∀ payment ∈ (book.get cursor.db).payments.rows, payment.bookingId ≠ bookingId) :
    Tx.Succeeds (insertPayment book bookingId) env cursor := by
  apply Tx.exec_succeeds (hfault _)
  split
  next hnone =>
    refine absurd hnone (Table.insert_ne_none ?_)
    rintro key ⟨⟩ payment hpayment hsame
    exact hunpaid payment hpayment (Option.some.inj hsame)
  next id payments _ => exact ⟨id, _, rfl⟩

/-- The insertions of a booking for free seats all succeed. -/
theorem recordBooking_succeeds [DecidableEq Cell] {insertSeats : Int → Tx Db PUnit}
    {userId showingId : Int} {cells : List Cell} {codes : Nat → String}
    (hinserts : InsertsSeats book insertSeats showingId cells)
    (hinsertsFree : InsertsFree book insertSeats showingId cells)
    (hfault : ∀ k, env.fault k = none) (hknown : (book.get cursor.db).PaymentsKnown)
    (huser : userId ∈ cursor.db.users)
    (hfits : fitsBigint userId = true ∧ fitsInt cells.length = true) (hne : cells ≠ [])
    (hfree : ∀ cell ∈ cells, ¬ (book.get cursor.db).Active showingId cell) :
    Tx.Succeeds (recordBooking book insertSeats userId showingId cells.length codes) env
      cursor := by
  have hreg : (0 : Int) < cells.length := by
    have := List.length_pos_iff.mpr hne
    omega
  -- what one statement leaves is what the next one needs: its effect lemma says so
  apply Tx.bind_yields (insertBooking_succeeds hfault huser hfits hreg)
  intro bookingId c₁ hbooking
  obtain ⟨bookings, _, hdb₁, hrows, hfresh, _⟩ := insertBooking_ok hbooking
  apply Tx.bind_yields (assignBookingCode_succeeds hfault)
  intro code c₂ hcode
  obtain ⟨bookings₂, _, hdb₂, _⟩ :=
    assignBookingCode_ok hfresh (by rw [hdb₁, book.get_set]; exact hrows) hcode
  rw [hdb₁, book.get_set, book.set_set] at hdb₂
  apply Tx.bind_yields
  · refine hinsertsFree bookingId env c₂ hfault fun cell hcell => ?_
    rw [hdb₂, book.get_set]
    exact hfree cell hcell
  intro _ c₃ hseats
  obtain ⟨seats, _, hdb₃, _, _⟩ := hinserts _ _ _ _ _ hseats
  apply Tx.bind_yields
  · apply insertPayment_succeeds hfault
    rw [hdb₃, book.get_set, hdb₂, book.get_set]
    intro payment hpayment hsame
    obtain ⟨booking, hbooking, hid⟩ := hknown payment hpayment
    have := hfresh booking hbooking
    omega
  intro paymentId c₄ _
  exact Tx.pure_yields trivial

end Insertions

/-! ## Bookable requests -/

/-- What both handlers take for granted about a request: the user exists, the
numbers fit their columns, and there are seats, all different. -/
structure Request.Sound (request : Request) (db : Db) : Prop where
  user : request.userId ∈ db.users
  fits : fitsBigint request.userId = true ∧ fitsInt request.seats.length = true
  nonempty : request.seats ≠ []
  nodup : request.seats.Nodup

/-- The show has the seats, and they are free. -/
structure ConcertBookable (db : Db) (request : Request) (concertShow : ConcertShow) : Prop where
  sound : request.Sound db
  found : db.concertShows.find request.showingId = some concertShow
  inGrid : ∀ seat ∈ request.seats, concertShow.HasSeat seat
  free : ∀ seat ∈ request.seats, ¬ db.concerts.Active request.showingId seat

/-- The hall has the seats, they are free, and the counter covers them. -/
structure TheaterBookable (db : Db) (request : Request) (schedule : Schedule) : Prop where
  sound : request.Sound db
  found : selectSchedule request.showingId db = some schedule
  places : ∀ seat ∈ request.seats, ∃ seatId, SeatAt db schedule.hallId seat seatId
  free : ∀ seat ∈ request.seats, ∀ seatId, SeatAt db schedule.hallId seat seatId →
    ¬ db.movies.Active request.showingId seatId
  capacity : (request.seats.length : Int) ≤ schedule.remainCount

/-- The message body is a request for seats that can be booked. -/
def Bookable (body : Json) (db : Db) : Prop :=
  if isConcert body then
    ∃ request concertShow, decodeRequest "show_id" body = some request ∧
      ConcertBookable db request concertShow
  else
    ∃ request schedule, decodeRequest "schedule_id" body = some request ∧
      TheaterBookable db request schedule

section Progress

variable {env : Env} {cursor : Cursor Db} {request : Request}

theorem concertTx_commits (codes : Nat → String) {concertShow : ConcertShow}
    (hfault : ∀ k, env.fault k = none) (hknown : cursor.db.concerts.PaymentsKnown)
    (h : ConcertBookable cursor.db request concertShow) :
    (concertTx request codes).Yields env cursor fun exit => ∃ value, exit = .commit value := by
  apply Tx.bind_yields (Tx.select_succeeds (hfault _))
  intro found c₁ hselect
  obtain ⟨_, rfl, rfl⟩ := Tx.select_ok.mp hselect
  rw [h.found]
  dsimp only
  rw [if_pos h.inGrid]
  apply Tx.bind_yields
  · exact recordBooking_succeeds (insertAllSeats_inserts concertBook _ _)
      (insertAllSeats_insertsFree h.sound.nonempty h.sound.nodup) hfault hknown h.sound.user
      h.sound.fits h.sound.nonempty h.free
  intro receipt c₂ _
  apply Tx.bind_yields (Tx.select_succeeds (hfault _))
  intro remain c₃ _
  apply Tx.bind_yields (Tx.call_succeeds (hfault _))
  intro _ c₄ _
  exact Tx.pure_yields ⟨_, rfl⟩

theorem selectSeatIds_succeeds {hallId : Int} {seats : List Seat}
    (hfault : ∀ k, env.fault k = none) :
    Tx.Succeeds (selectSeatIds hallId seats) env cursor := by
  induction seats generalizing cursor with
  | nil => exact Tx.pure_yields trivial
  | cons seat rest ih =>
      apply Tx.bind_yields (Tx.select_succeeds (hfault _))
      intro found middle _
      cases found with
      | none => exact Tx.pure_yields trivial
      | some seatId => exact Tx.bind_yields ih fun _ _ _ => Tx.pure_yields trivial

theorem takeCapacity_succeeds {scheduleId : Int} {n : Nat} (hfault : ∀ k, env.fault k = none) :
    Tx.Succeeds (takeCapacity scheduleId n) env cursor := by
  apply Tx.exec_succeeds (hfault _)
  split
  next hnone =>
    exact absurd hnone (Table.update_ne_none fun _ => .inl rfl)
  next schedules _ => exact ⟨_, _, rfl⟩

theorem closeIfFull_succeeds {scheduleId : Int} (hfault : ∀ k, env.fault k = none) :
    Tx.Succeeds (closeIfFull scheduleId) env cursor := by
  apply Tx.bind_yields (Tx.select_succeeds (hfault _))
  intro remain middle _
  split
  next =>
    refine Tx.bind_yields (Tx.exec_succeeds (hfault _) ?_) fun _ _ _ => Tx.pure_yields trivial
    split
    next hnone =>
      exact absurd hnone (Table.update_ne_none fun _ => .inl rfl)
    next schedules _ => exact ⟨_, _, rfl⟩
  next => exact Tx.pure_yields trivial

theorem theaterTx_commits (codes : Nat → String) {schedule : Schedule}
    (hfault : ∀ k, env.fault k = none) (hknown : cursor.db.movies.PaymentsKnown)
    (h : TheaterBookable cursor.db request schedule) :
    (theaterTx request codes).Yields env cursor fun exit => ∃ value, exit = .commit value := by
  apply Tx.bind_yields (Tx.select_succeeds (hfault _))
  intro found c₁ hselect
  obtain ⟨_, rfl, rfl⟩ := Tx.select_ok.mp hselect
  rw [h.found]
  apply Tx.bind_yields (selectSeatIds_succeeds hfault)
  intro places c₂ hplaces
  obtain ⟨hdb₂, hforall⟩ := selectSeatIds_ok hplaces
  dsimp only at hdb₂ hforall
  cases places with
  | none =>
      -- the lookup can only have failed for a seat that the hall does not have
      obtain ⟨seat, hseat, hmissing⟩ := selectSeatIds_none hplaces
      obtain ⟨seatId, hat⟩ := h.places seat hseat
      exact absurd hat (hmissing seatId)
  | some seatIds =>
      have hseats := hforall seatIds rfl
      have hfind := selectSchedule_eq_some h.found
      apply Tx.bind_yields (takeCapacity_succeeds hfault)
      intro taken c₃ htake
      obtain ⟨htaken, schedules, hdb₃, _⟩ := takeCapacity_ok (hdb₂ ▸ hfind) htake
      rw [hdb₂] at hdb₃
      obtain rfl := htaken.mpr ⟨h.capacity, List.length_pos_iff.mpr h.sound.nonempty⟩
      have hlength := hseats.length_eq
      apply Tx.bind_yields
      · unfold recordTheaterBooking
        have hfits := h.sound.fits
        rw [hlength] at hfits ⊢
        have hne : seatIds ≠ [] := by
          rw [← List.length_pos_iff, ← hlength]
          exact List.length_pos_iff.mpr h.sound.nonempty
        refine recordBooking_succeeds (insertEachSeat_inserts movieBook _ _)
          (insertEachSeat_insertsFree (places_nodup hseats h.sound.nodup)) hfault ?_ ?_ hfits hne ?_
        · rw [hdb₃]
          exact hknown
        · rw [hdb₃]
          exact h.sound.user
        · rw [hdb₃]
          intro seatId hid
          obtain ⟨seat, hseat, hat⟩ := places_mem hseats hid
          exact h.free seat hseat seatId hat
      intro receipt c₄ _
      apply Tx.bind_yields (closeIfFull_succeeds hfault)
      intro remain c₅ _
      apply Tx.bind_yields (Tx.call_succeeds (hfault _))
      intro _ c₆ _
      exact Tx.pure_yields ⟨_, rfl⟩

end Progress

/-- A bookable message is booked, unless something fails. -/
theorem processBooking_commits {env : Env} {codes : Nat → String} {body : Json} {db : Db}
    (hquiet : env.Unfailing) (hknown : PaymentsKnown db) (h : Bookable body db) :
    (processBooking env codes body db).1.isCommitted = true := by
  unfold Bookable at h
  unfold processBooking
  split at h
  next hconcert =>
    obtain ⟨request, concertShow, hdecode, hbookable⟩ := h
    rw [if_pos hconcert]
    unfold processConcertBooking
    obtain ⟨⟨receipt, remain⟩, hcommit⟩ := Tx.settle_commit hquiet.1
      (concertTx_commits codes hquiet.2 hknown.concerts hbookable)
    simp only [hdecode, hcommit]
    rfl
  next htheater =>
    obtain ⟨request, schedule, hdecode, hbookable⟩ := h
    rw [if_neg htheater]
    unfold processTheaterBooking
    obtain ⟨⟨receipt, remain⟩, hcommit⟩ := Tx.settle_commit hquiet.1
      (theaterTx_commits codes hquiet.2 hknown.movies hbookable)
    simp only [hdecode, hcommit]
    rfl

end Ticketing
