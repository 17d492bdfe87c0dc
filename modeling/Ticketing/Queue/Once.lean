import Ticketing.Concert.Grid
import Ticketing.Queue.Delivery
import Ticketing.Theater.Capacity

/-!
# How often a request is booked

The result key does not keep a redelivered message from being booked again: a
worker can crash between COMMIT and the write of the result. What does is the
unique index, as long as the first booking occupies its seats. So a request can
be booked again, but only after it has been refunded.
-/

namespace Ticketing

open Foundation Python

/-! ## A booking holds its seats until it is cancelled -/

section Holding

variable {Cell : Type} {ledger next : Ledger Cell} {showingId bookingId : Int} {cell : Cell}

/-- The booking is on record as cancelled. -/
def Ledger.IsCancelled (ledger : Ledger Cell) (bookingId : Int) : Prop :=
  ∃ booking, ledger.bookings.find bookingId = some booking ∧
    booking.bookStatus.isCancelled = true

/-- The booking is on record, and it occupies the seat unless it is
cancelled. -/
def Ledger.HoldsUnlessCancelled (ledger : Ledger Cell) (showingId : Int) (cell : Cell)
    (bookingId : Int) : Prop :=
  ∃ booking, ledger.bookings.find bookingId = some booking ∧
    (booking.bookStatus.isCancelled = true ∨
      ∃ row ∈ ledger.activeSeats showingId, row.cell = cell ∧ row.bookingId = bookingId)

namespace Ledger.Booked

variable {userId booked newId : Int} {cells : List Cell}

theorem isCancelled (h : ledger.Booked next userId booked cells newId)
    (hold : ledger.IsCancelled bookingId) : next.IsCancelled bookingId := by
  obtain ⟨booking, hfind, hcancelled⟩ := hold
  exact ⟨booking, h.find_old hfind, hcancelled⟩

theorem holds_old (h : ledger.Booked next userId booked cells newId)
    (hold : ledger.HoldsUnlessCancelled showingId cell bookingId) :
    next.HoldsUnlessCancelled showingId cell bookingId := by
  obtain ⟨booking, hfind, hcancelled | ⟨row, hrow, hcell, hid⟩⟩ := hold
  · exact ⟨booking, h.find_old hfind, .inl hcancelled⟩
  · refine ⟨booking, h.find_old hfind, .inr ⟨row, ?_, hcell, hid⟩⟩
    by_cases hsame : showingId = booked
    · subst hsame
      obtain ⟨rows, hactive, _⟩ := h.activeSeats_same
      rw [hactive]
      exact List.mem_append_left rows hrow
    · rwa [h.activeSeats_other hsame]

theorem holds_new (h : ledger.Booked next userId showingId cells newId) (hcell : cell ∈ cells) :
    next.HoldsUnlessCancelled showingId cell newId := by
  obtain ⟨booking, hfind, _⟩ := h.find_same
  obtain ⟨rows, hactive, hcells, hid⟩ := h.activeSeats_same
  obtain ⟨row, hrow, hrowCell⟩ := List.mem_map.mp (hcells ▸ hcell)
  refine ⟨booking, hfind, .inr ⟨row, ?_, hrowCell, hid row hrow⟩⟩
  rw [hactive]
  exact List.mem_append_right _ hrow

/-- A seat can be booked again only after the booking that held it is
cancelled. -/
theorem cancelled_of_holds (h : ledger.Booked next userId showingId cells newId)
    (hcell : cell ∈ cells) (hold : ledger.HoldsUnlessCancelled showingId cell bookingId) :
    ledger.IsCancelled bookingId := by
  obtain ⟨booking, hfind, hcancelled | ⟨row, hrow, hrowCell, hrowId⟩⟩ := hold
  · exact ⟨booking, hfind, hcancelled⟩
  · -- otherwise the old row and the new one are the same, but the new id is fresh
    obtain ⟨rows, hactive, hcells, hid⟩ := h.activeSeats_same
    obtain ⟨new, hnew, hnewCell⟩ := List.mem_map.mp (hcells ▸ hcell)
    have hsame : row = new := Ledger.eq_of_mem_activeSeats
      (by rw [hactive]; exact List.mem_append_left rows hrow)
      (by rw [hactive]; exact List.mem_append_right _ hnew) (hrowCell.trans hnewCell.symm)
    obtain ⟨hmem, hpk⟩ := Table.find_eq_some.mp hfind
    have hfresh := h.fresh booking hmem
    have hnewId := hid new hnew
    rw [← hsame, hrowId] at hnewId
    rw [hnewId] at hpk
    exact absurd hfresh (by rw [show booking.bookingId = newId from hpk]; exact lt_irrefl newId)

end Ledger.Booked

theorem Ledger.Refunded.cancelled_or_same [DecidableEq Cell] {refunded : Int}
    (h : ledger.Refunded next refunded) {booking : Booking}
    (hfind : ledger.bookings.find bookingId = some booking) :
    ∃ booking', next.bookings.find bookingId = some booking' ∧
      (bookingId = refunded ∧ booking'.bookStatus.isCancelled = true ∨
        bookingId ≠ refunded ∧ booking' = booking) := by
  by_cases hsame : bookingId = refunded
  · obtain ⟨hmem, hid⟩ := Table.find_eq_some.mp hfind
    refine ⟨booking.cancelled, Table.find_eq_some.mpr ⟨?_, hid⟩, .inl ⟨hsame, rfl⟩⟩
    rw [h.bookings]
    exact List.mem_map.mpr ⟨booking, hmem, if_pos (hid.trans hsame)⟩
  · exact ⟨booking, h.find_other hsame hfind, .inr ⟨hsame, rfl⟩⟩

theorem Ledger.Refunded.isCancelled [DecidableEq Cell] {refunded : Int}
    (h : ledger.Refunded next refunded) (hold : ledger.IsCancelled bookingId) :
    next.IsCancelled bookingId := by
  obtain ⟨booking, hfind, hcancelled⟩ := hold
  obtain ⟨booking', hfind', ⟨_, hcancelled'⟩ | ⟨_, rfl⟩⟩ := h.cancelled_or_same hfind
  · exact ⟨booking', hfind', hcancelled'⟩
  · exact ⟨booking', hfind', hcancelled⟩

theorem Ledger.Refunded.holds [DecidableEq Cell] {refunded : Int}
    (h : ledger.Refunded next refunded)
    (hold : ledger.HoldsUnlessCancelled showingId cell bookingId) :
    next.HoldsUnlessCancelled showingId cell bookingId := by
  obtain ⟨booking, hfind, hcase⟩ := hold
  obtain ⟨booking', hfind', ⟨_, hcancelled⟩ | ⟨hother, rfl⟩⟩ := h.cancelled_or_same hfind
  · exact ⟨booking', hfind', .inl hcancelled⟩
  · refine ⟨booking', hfind', hcase.imp_right fun ⟨row, hrow, hcell, hid⟩ => ?_⟩
    refine ⟨row, ?_, hcell, hid⟩
    rw [h.activeSeats_eq, List.mem_filter]
    exact ⟨hrow, by simpa [hid] using hother⟩

end Holding

/-! ## Transactions keep bookings and seats in place -/

/-- The seat id of a position in the hall of a schedule. -/
def ScheduleSeat (db : Db) (scheduleId : Int) (seat : Seat) (seatId : Int) : Prop :=
  ∃ schedule, db.schedules.find scheduleId = some schedule ∧
    SeatAt db schedule.hallId seat seatId

/-- The booking holds every seat of the request, unless it is cancelled. -/
def HoldsRequest (body : Json) (db : Db) (bookingId : Int) : Prop :=
  if isConcert body then
    ∃ request, decodeRequest "show_id" body = some request ∧ ∀ seat ∈ request.seats,
      db.concerts.HoldsUnlessCancelled request.showingId seat bookingId
  else
    ∃ request, decodeRequest "schedule_id" body = some request ∧ ∀ seat ∈ request.seats,
      ∃ seatId, ScheduleSeat db request.showingId seat seatId ∧
        db.movies.HoldsUnlessCancelled request.showingId seatId bookingId

/-- The booking is cancelled, in the ledger that belongs to the body. -/
def IsRefunded (body : Json) (db : Db) (bookingId : Int) : Prop :=
  if isConcert body then db.concerts.IsCancelled bookingId else db.movies.IsCancelled bookingId

namespace Transacted

variable {db next : Db} {body : Json} {bookingId : Int}

theorem scheduleSeat (h : Transacted db next) {scheduleId seatId : Int} {seat : Seat}
    (hseat : ScheduleSeat db scheduleId seat seatId) :
    ScheduleSeat next scheduleId seat seatId := by
  obtain ⟨schedule, hfind, hat⟩ := hseat
  cases h with
  | same => exact ⟨schedule, hfind, hat⟩
  | @theater _ request row _ _ booked =>
      have hat' : SeatAt next schedule.hallId seat seatId := by
        unfold SeatAt
        rwa [booked.hallSeats_eq]
      by_cases hsame : scheduleId = request.showingId
      · subst hsame
        obtain rfl : row = schedule := Option.some.inj (booked.found.symm.trans hfind)
        exact ⟨_, booked.find_same, by rwa [Schedule.hallId_booked]⟩
      · exact ⟨schedule, booked.find_other hsame hfind, hat'⟩
  | concert booked =>
      refine ⟨schedule, ?_, ?_⟩
      · rwa [booked.frame]
      · rw [booked.frame]
        exact hat
  | refundMovie refunded => exact ⟨schedule, hfind, hat⟩
  | refundConcert refunded => exact ⟨schedule, hfind, hat⟩

theorem movies_holds (h : Transacted db next) {scheduleId seatId : Int}
    (hold : db.movies.HoldsUnlessCancelled scheduleId seatId bookingId) :
    next.movies.HoldsUnlessCancelled scheduleId seatId bookingId := by
  cases h with
  | same => exact hold
  | theater booked => exact booked.movies.holds_old hold
  | concert booked => rwa [booked.frame]
  | refundMovie refunded => exact refunded.holds hold
  | refundConcert refunded => exact hold

theorem concerts_holds (h : Transacted db next) {showId : Int} {seat : Seat}
    (hold : db.concerts.HoldsUnlessCancelled showId seat bookingId) :
    next.concerts.HoldsUnlessCancelled showId seat bookingId := by
  cases h with
  | same => exact hold
  | theater booked => rwa [booked.frame]
  | concert booked => exact booked.concerts.holds_old hold
  | refundMovie refunded => exact hold
  | refundConcert refunded => exact refunded.holds hold

theorem holdsRequest (h : Transacted db next) (hold : HoldsRequest body db bookingId) :
    HoldsRequest body next bookingId := by
  unfold HoldsRequest at hold ⊢
  split at hold
  next hconcert =>
    rw [if_pos hconcert]
    obtain ⟨request, hdecode, hall⟩ := hold
    exact ⟨request, hdecode, fun seat hseat => h.concerts_holds (hall seat hseat)⟩
  next htheater =>
    rw [if_neg htheater]
    obtain ⟨request, hdecode, hall⟩ := hold
    refine ⟨request, hdecode, fun seat hseat => ?_⟩
    obtain ⟨seatId, hat, hholds⟩ := hall seat hseat
    exact ⟨seatId, h.scheduleSeat hat, h.movies_holds hholds⟩

/-- A cancelled booking stays cancelled. -/
theorem isRefunded (h : Transacted db next) (hrefunded : IsRefunded body db bookingId) :
    IsRefunded body next bookingId := by
  unfold IsRefunded at hrefunded ⊢
  split at hrefunded
  next hconcert =>
    rw [if_pos hconcert]
    cases h with
    | same => exact hrefunded
    | theater booked => rwa [booked.frame]
    | concert booked => exact booked.concerts.isCancelled hrefunded
    | refundMovie refunded => exact hrefunded
    | refundConcert refunded => exact refunded.isCancelled hrefunded
  next htheater =>
    rw [if_neg htheater]
    cases h with
    | same => exact hrefunded
    | theater booked => exact booked.movies.isCancelled hrefunded
    | concert booked => rwa [booked.frame]
    | refundMovie refunded => exact refunded.isCancelled hrefunded
    | refundConcert refunded => exact hrefunded

end Transacted

/-! ## The deliveries of one message -/

/-- Every booking of the message holds its seats until it is cancelled, and all
but the latest are cancelled. -/
structure OnceInv (body : Json) (s : DeliveryState) : Prop where
  holds : ∀ id ∈ s.commits, HoldsRequest body s.db id
  refunded : ∀ id ∈ s.commits.tail, IsRefunded body s.db id

theorem OnceInv.transacted {body : Json} {s next : DeliveryState} (hinv : OnceInv body s)
    (hdb : Transacted s.db next.db) (hcommits : next.commits = s.commits) :
    OnceInv body next := by
  constructor
  · rw [hcommits]
    exact fun id hid => hdb.holdsRequest (hinv.holds id hid)
  · rw [hcommits]
    exact fun id hid => hdb.isRefunded (hinv.refunded id hid)

/-- A delivery that commits finds every earlier booking of the message
cancelled, and its own booking holds the seats from then on. -/
theorem processBooking_once {env : Env} {codes : Nat → String} {body : Json} {db next : Db}
    {receipt : Receipt} {remain : Int}
    (h : processBooking env codes body db = (.committed receipt remain, next)) :
    HoldsRequest body next receipt.bookingId ∧
      ∀ id, HoldsRequest body db id → IsRefunded body db id := by
  unfold HoldsRequest IsRefunded
  rcases processBooking_cases env codes body db with
    ⟨request, concertShow, receipt', remain', next', hconcert, hdecode, hprocess, hbooked⟩ |
      ⟨request, schedule, seatIds, receipt', remain', next', htheater, hdecode, hprocess,
        hbooked⟩ | ⟨_, hnot⟩
  · cases h.symm.trans hprocess
    simp only [hconcert, ↓reduceIte]
    refine ⟨⟨request, hdecode, fun seat hseat => hbooked.concerts.holds_new hseat⟩, ?_⟩
    rintro id ⟨request', hdecode', hholds⟩
    obtain rfl := Option.some.inj (hdecode.symm.trans hdecode')
    obtain ⟨seat, hseat⟩ := List.exists_mem_of_ne_nil _ hbooked.nonempty
    exact hbooked.concerts.cancelled_of_holds hseat (hholds seat hseat)
  · cases h.symm.trans hprocess
    simp only [htheater, Bool.false_eq_true, ↓reduceIte]
    constructor
    · refine ⟨request, hdecode, fun seat hseat => ?_⟩
      obtain ⟨seatId, hseatId, hat⟩ := places_seat hbooked.places hseat
      refine ⟨seatId, ?_, hbooked.movies.holds_new hseatId⟩
      exact (Transacted.theater hbooked).scheduleSeat ⟨schedule, hbooked.found, hat⟩
    · rintro id ⟨request', hdecode', hholds⟩
      obtain rfl := Option.some.inj (hdecode.symm.trans hdecode')
      obtain ⟨seat, hseat⟩ := List.exists_mem_of_length_pos hbooked.nonempty
      obtain ⟨seatId, hseatId, hat⟩ := places_seat hbooked.places hseat
      obtain ⟨other, ⟨row, hfind, hat'⟩, hholds⟩ := hholds seat hseat
      obtain rfl : schedule = row := Option.some.inj (hbooked.found.symm.trans hfind)
      obtain rfl := hat.seatId_eq hat'
      exact hbooked.movies.cancelled_of_holds hseatId hholds
  · rw [h] at hnot
    cases hnot

theorem OnceInv.step {body : Json} {s next : DeliveryState} {a : DeliveryStep}
    (hinv : OnceInv body s) (h : deliveryStep body s a = some next) : OnceInv body next := by
  cases a with
  | receive => rw [receive_eq_some h]; exact ⟨hinv.holds, hinv.refunded⟩
  | check delivery readable =>
      obtain ⟨_, rfl | rfl⟩ := check_eq_some h
      · exact ⟨hinv.holds, hinv.refunded⟩
      · exact ⟨hinv.holds, hinv.refunded⟩
  | process delivery env codes =>
      obtain ⟨_, rfl⟩ := process_eq_some h
      have hdb := processBooking_transacted env codes body s.db
      cases hprocess : processBooking env codes body s.db with
      | mk verdict db =>
        rw [hprocess] at hdb
        cases verdict with
        -- only a commit adds to the list, and only after all in it are cancelled
        | committed receipt remain =>
            obtain ⟨hnew, hold⟩ := processBooking_once hprocess
            constructor
            · intro id hid
              rcases List.mem_cons.mp hid with rfl | hid
              · exact hnew
              · exact hdb.holdsRequest (hinv.holds id hid)
            · exact fun id hid => hdb.isRefunded (hold id (hinv.holds id hid))
        | raised => exact hinv.transacted hdb rfl
        | refused code => exact hinv.transacted hdb rfl
        | integrity => exact hinv.transacted hdb rfl
        | error message => exact hinv.transacted hdb rfl
  | write delivery outcome message =>
      obtain ⟨verdict, result, _, _, rfl⟩ := write_eq_some h
      exact hinv.transacted (by simpa [DeliveryState.setPhase] using .same) (by
        simp [DeliveryState.setPhase])
  | recover delivery rollback outcome =>
      obtain ⟨message, phase, _, _, ⟨_, rfl⟩ | ⟨_, rfl⟩⟩ := recover_eq_some h
      · exact hinv.transacted (by simpa [DeliveryState.setPhase] using .same) (by
          simp [DeliveryState.setPhase])
      · exact ⟨hinv.holds, hinv.refunded⟩
  | ack delivery succeeds => rw [ack_eq_some h]; exact ⟨hinv.holds, hinv.refunded⟩
  | crash delivery => rw [crash_eq_some h]; exact ⟨hinv.holds, hinv.refunded⟩
  | expire => cases h; exact ⟨hinv.holds, hinv.refunded⟩
  | other step =>
      cases h
      exact hinv.transacted (DbStep.transacted s.db step) rfl

/-- However often the message is delivered, at any time all bookings made for it
but the latest have been refunded. -/
theorem booked_again_only_after_refund {body : Json} {db : Db} {s : DeliveryState}
    {steps : List DeliveryStep} (hrun : (deliveryMachine body).run (.initial db) steps = some s) :
    ∀ id ∈ s.commits.tail, IsRefunded body s.db id := by
  have hinit : OnceInv body (.initial db) := by
    constructor <;> simp [DeliveryState.initial]
  have hstep : ∀ s a next, OnceInv body s → (deliveryMachine body).step s a = some next →
      OnceInv body next := fun _ _ _ hinv h => hinv.step h
  exact (Machine.run_invariant hstep hinit hrun).refunded

/-- The worker crashes after COMMIT, the user refunds the booking, and the
redelivered message is booked a second time. -/
def crashThenRefund : List DeliveryStep :=
  [.receive, .check 0 true, .process 0 .quiet (fun _ => "CAA000001"), .crash 0,
    .other (.refundConcert .quiet 1 1), .receive, .check 1 true,
    .process 1 .quiet (fun _ => "CAA000002")]

theorem booked_twice :
    ((deliveryMachine (concertBody "first" 1 [.str "1-1"])).run (.initial twoSeatDb)
      crashThenRefund).map DeliveryState.commits = some [2, 1] := by
  decide +kernel

theorem booked_again_only_after_refund_twoSeats :
    ∃ s, (deliveryMachine (concertBody "first" 1 [.str "1-1"])).run (.initial twoSeatDb)
        crashThenRefund = some s ∧
      ∀ id ∈ s.commits.tail, IsRefunded (concertBody "first" 1 [.str "1-1"]) s.db id := by
  obtain ⟨s, hrun⟩ := Option.isSome_iff_exists.mp
    (show ((deliveryMachine (concertBody "first" 1 [.str "1-1"])).run (.initial twoSeatDb)
      crashThenRefund).isSome = true by decide +kernel)
  exact ⟨s, hrun, booked_again_only_after_refund hrun⟩

end Ticketing
