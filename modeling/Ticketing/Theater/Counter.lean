import Mathlib.Data.List.Perm.Subperm
import Ticketing.Theater.Capacity

/-!
# The counter and the rows

The worker decides on the stored `remain_count`, the read side counts ACTIVE
rows. The two agree as long as no booking of the schedule is refunded: a refund
gives back the rows, but neither the counter nor the status.
-/

namespace Ticketing

open Foundation Python

/-- `GREATEST(0, s.total_count - IFNULL(bs.cnt, 0))` of the bootstrap query. -/
def derivedRemainCount (db : Db) (schedule : Schedule) : Int :=
  max 0 (schedule.totalCount - (db.movies.activeSeats schedule.scheduleId).length)

/-- The seats of a hall. -/
def hallSize (db : Db) (hallId : Int) : Nat :=
  (db.hallSeats.rows.filter fun row => row.hallId = hallId).length

/-- The hall of the schedule has the seat, and nobody occupies it. -/
def FreeSeat (db : Db) (schedule : Schedule) (seat : Seat) : Prop :=
  ∃ seatId, SeatAt db schedule.hallId seat seatId ∧
    ¬ db.movies.Active schedule.scheduleId seatId

/-- Counter and rows of the schedule agree in all that depends on the counter:
a request for free seats is not refused as SOLD_OUT, and a schedule with a free
seat is not CLOSED. -/
structure CounterAgrees (db : Db) (schedule : Schedule) : Prop where
  counter : schedule.remainCount =
    schedule.totalCount - (db.movies.activeSeats schedule.scheduleId).length
  derived : schedule.remainCount = derivedRemainCount db schedule
  notSoldOut : ∀ env codes body request, decodeRequest "schedule_id" body = some request →
    request.showingId = schedule.scheduleId → request.seats ≠ [] → request.seats.Nodup →
    (∀ seat ∈ request.seats, FreeSeat db schedule seat) →
      (processTheaterBooking env codes body db).1 ≠ .refused .soldOut
  notClosed : (∃ seat, FreeSeat db schedule seat) → schedule.status ≠ .closed

/-- The step is a refund that goes through, of a booking of the schedule. -/
def CancelsBookingOf (scheduleId : Int) (db : Db) : TheaterStep → Prop
  | .book _ _ _ => False
  | .refund env userId bookingId =>
      ∃ booking, Refundable movieBook userId bookingId db booking ∧
        booking.showingId = scheduleId ∧ Clear env 5

/-! ## Counting seats of the hall -/

section Places

variable {db : Db} {hallId : Int}

/-- Different seats of the hall are at most as many as the hall has. -/
theorem length_le_hallSize {seatIds : List Int} (hnodup : seatIds.Nodup)
    (hplaces : ∀ seatId ∈ seatIds, ∃ seat, SeatAt db hallId seat seatId) :
    seatIds.length ≤ hallSize db hallId := by
  rw [hallSize, ← List.length_map (f := HallSeat.seatId)]
  apply List.Subperm.length_le
  apply hnodup.subperm
  intro seatId hmem
  obtain ⟨seat, row, hrow, hhall, _, hid⟩ := hplaces seatId hmem
  exact List.mem_map.mpr ⟨row, by simpa using ⟨hrow, hhall⟩, hid⟩

end Places

/-! ## The invariant -/

/-- The schedule at the start of a run: nothing is booked, it is not closed, and
its capacity suffices for the seats of its hall. -/
structure StartsOpen (db : Db) (scheduleId : Int) (schedule : Schedule) : Prop
    extends StartsFull db scheduleId schedule where
  notClosed : schedule.status ≠ .closed
  fits : (hallSize db schedule.hallId : Int) ≤ schedule.totalCount

/-- The counter is the capacity minus the ACTIVE rows, which name seats of the
hall, and the schedule is closed only when nothing remains. -/
structure CounterInv (scheduleId : Int) (db : Db) (schedule : Schedule) : Prop where
  found : db.schedules.find scheduleId = some schedule
  counter : schedule.remainCount + (db.movies.activeSeats scheduleId).length =
    schedule.totalCount
  placed : ∀ row ∈ db.movies.activeSeats scheduleId,
    ∃ seat, SeatAt db schedule.hallId seat row.cell
  closed : schedule.status = .closed → schedule.remainCount = 0
  fits : (hallSize db schedule.hallId : Int) ≤ schedule.totalCount
  owned : db.movies.Owned scheduleId

theorem StartsOpen.counterInv {db : Db} {scheduleId : Int} {schedule : Schedule}
    (h : StartsOpen db scheduleId schedule) : CounterInv scheduleId db schedule := by
  have hnone : db.movies.activeSeats scheduleId = [] := by
    refine List.filter_eq_nil_iff.mpr fun row hrow => ?_
    simp [h.noSeats row hrow]
  refine ⟨h.found, ?_, ?_, fun hclosed => absurd hclosed h.notClosed, h.fits,
    h.toStartsFull.capacityInv.owned⟩
  · rw [hnone, h.full]
    simp
  · rw [hnone]
    simp

theorem TheaterBooked.seatAt {db next : Db} {request : Request} {schedule : Schedule}
    {seatIds : List Int} {bookingId : Int}
    (h : TheaterBooked db next request schedule seatIds bookingId) {hallId seatId : Int}
    {seat : Seat} (hseat : SeatAt db hallId seat seatId) : SeatAt next hallId seat seatId := by
  unfold SeatAt
  rw [h.hallSeats_eq]
  exact hseat

theorem TheaterBooked.hallSize_eq {db next : Db} {request : Request} {schedule : Schedule}
    {seatIds : List Int} {bookingId : Int}
    (h : TheaterBooked db next request schedule seatIds bookingId) (hallId : Int) :
    hallSize next hallId = hallSize db hallId := by
  rw [hallSize, h.hallSeats_eq, hallSize]

theorem CounterInv.book {scheduleId : Int} {db next : Db} {request : Request}
    {schedule row : Schedule} {seatIds : List Int} {bookingId : Int}
    (hinv : CounterInv scheduleId db row)
    (h : TheaterBooked db next request schedule seatIds bookingId) :
    ∃ row', CounterInv scheduleId next row' := by
  by_cases hsame : scheduleId = request.showingId
  · subst hsame
    obtain rfl : schedule = row := Option.some.inj (h.found.symm.trans hinv.found)
    obtain ⟨rows, hactive, hcells, _⟩ := h.movies.activeSeats_same
    have hlength : rows.length = request.seats.length := by
      rw [h.places.length_eq, ← hcells, List.length_map]
    refine ⟨_, h.find_same, ?_, ?_, ?_, ?_, h.movies.owned hinv.owned⟩
    · rw [Schedule.remainCount_booked h.capacity, Schedule.totalCount_booked, hactive,
        List.length_append, hlength, ← hinv.counter]
      omega
    · intro row hrow
      rw [hactive] at hrow
      rw [Schedule.hallId_booked]
      rcases List.mem_append.mp hrow with hold | hnew
      · obtain ⟨seat, hseat⟩ := hinv.placed row hold
        exact ⟨seat, h.seatAt hseat⟩
      · have hcell : row.cell ∈ seatIds := hcells ▸ List.mem_map_of_mem hnew
        obtain ⟨seat, _, hseat⟩ := places_mem h.places hcell
        exact ⟨seat, h.seatAt hseat⟩
    · intro hclosed
      rcases Schedule.status_booked hclosed with hbefore | hfull
      · -- a closed schedule has nothing left that could have been booked
        have hzero := hinv.closed hbefore
        have hcapacity := h.capacity
        have hnonempty := h.nonempty
        omega
      · exact hfull
    · rw [Schedule.hallId_booked, Schedule.totalCount_booked, h.hallSize_eq]
      exact hinv.fits
  · refine ⟨row, h.find_other hsame hinv.found, ?_, ?_, hinv.closed, ?_,
      h.movies.owned hinv.owned⟩
    · rw [h.movies.activeSeats_other hsame]
      exact hinv.counter
    · rw [h.movies.activeSeats_other hsame]
      intro other hother
      obtain ⟨seat, hseat⟩ := hinv.placed other hother
      exact ⟨seat, h.seatAt hseat⟩
    · rw [h.hallSize_eq]
      exact hinv.fits

/-- A refund of a booking of another schedule leaves the ACTIVE rows of this
one. -/
theorem Ledger.Refunded.activeSeats_of_owned {Cell : Type} [DecidableEq Cell]
    {ledger next : Ledger Cell} {bookingId showingId : Int} {booking : Booking}
    (h : ledger.Refunded next bookingId) (howned : ledger.Owned showingId)
    (hfind : ledger.bookings.find bookingId = some booking)
    (hother : booking.showingId ≠ showingId) :
    next.activeSeats showingId = ledger.activeSeats showingId := by
  rw [h.activeSeats_eq, List.filter_eq_self]
  intro row hrow
  rw [decide_eq_true_eq]
  rintro rfl
  obtain ⟨owner, howner, _, hshowing⟩ := howned row hrow
  obtain rfl : booking = owner := Option.some.inj (hfind.symm.trans howner)
  exact hother hshowing

theorem CounterInv.step {scheduleId : Int} {db next : Db} {a : TheaterStep} {row : Schedule}
    (hinv : CounterInv scheduleId db row) (hcond : ¬ CancelsBookingOf scheduleId db a)
    (h : theaterMachine.step db a = some next) : ∃ row', CounterInv scheduleId next row' := by
  rcases theaterMachine_step_cases h with
    rfl | ⟨_, _, _, request, schedule, seatIds, bookingId, _, _, hbooked⟩ |
      ⟨env, userId, bookingId, booking, movies, rfl, hrefundable, hclear, rfl, hrefunded⟩
  · exact ⟨row, hinv⟩
  · exact hinv.book hbooked
  · obtain ⟨hmem, hid, _⟩ := findBooking_eq_some hrefundable.1
    have hother : booking.showingId ≠ scheduleId := fun hsame =>
      hcond ⟨booking, hrefundable, hsame, hclear⟩
    have hactive := hrefunded.activeSeats_of_owned hinv.owned
      (Table.find_eq_some.mpr ⟨hmem, hid⟩) hother
    refine ⟨row, hinv.found, ?_, ?_, hinv.closed, hinv.fits, hrefunded.owned hinv.owned⟩
    · rw [hactive]
      exact hinv.counter
    · rw [hactive]
      exact hinv.placed

/-! ## What follows from it -/

section Consequences

variable {db : Db} {scheduleId : Int} {schedule : Schedule}

theorem CounterInv.scheduleId_eq (h : CounterInv scheduleId db schedule) :
    schedule.scheduleId = scheduleId := (Table.find_eq_some.mp h.found).2

/-- Free seats are at most as many as remain. -/
theorem CounterInv.length_le_remainCount (h : CounterInv scheduleId db schedule)
    {seatIds : List Int} (hnodup : seatIds.Nodup)
    (hplaces : ∀ seatId ∈ seatIds, ∃ seat, SeatAt db schedule.hallId seat seatId)
    (hfree : ∀ seatId ∈ seatIds, ¬ db.movies.Active scheduleId seatId) :
    (seatIds.length : Int) ≤ schedule.remainCount := by
  -- free and occupied seats together are different seats of the hall
  have hall : (seatIds ++ (db.movies.activeSeats scheduleId).map BookingSeat.cell).length ≤
      hallSize db schedule.hallId := by
    apply length_le_hallSize
    · rw [List.nodup_append]
      refine ⟨hnodup, db.movies.activeSeats_nodup scheduleId, ?_⟩
      rintro seatId hmem _ hactive rfl
      exact hfree seatId hmem (Ledger.active_iff_mem.mpr hactive)
    · intro seatId hmem
      rcases List.mem_append.mp hmem with hmem | hactive
      · exact hplaces seatId hmem
      · obtain ⟨row, hrow, rfl⟩ := List.mem_map.mp hactive
        exact h.placed row hrow
  rw [List.length_append, List.length_map] at hall
  have hcounter := h.counter
  have hfits := h.fits
  omega

theorem CounterInv.counterAgrees (h : CounterInv scheduleId db schedule) :
    CounterAgrees db schedule := by
  obtain rfl := h.scheduleId_eq
  have hcounter : schedule.remainCount =
      schedule.totalCount - (db.movies.activeSeats schedule.scheduleId).length := by
    have := h.counter
    omega
  refine ⟨hcounter, ?_, ?_, ?_⟩
  · rw [derivedRemainCount, ← hcounter, max_eq_right schedule.chk_remain_count]
  · intro env codes body request hdecode hshowing hnonempty hnodup hfree hsold
    obtain ⟨request', row, seatIds, hdecode', hfind, hplaces, hrefused⟩ :=
      processTheaterBooking_soldOut hsold
    obtain rfl := Option.some.inj (hdecode.symm.trans hdecode')
    rw [hshowing] at hfind
    obtain rfl : schedule = row := Option.some.inj (h.found.symm.trans hfind)
    have hfits : (seatIds.length : Int) ≤ schedule.remainCount := by
      apply h.length_le_remainCount (places_nodup hplaces hnodup)
      · intro seatId hmem
        obtain ⟨seat, _, hseat⟩ := places_mem hplaces hmem
        exact ⟨seat, hseat⟩
      · intro seatId hmem
        obtain ⟨seat, hseat, hat⟩ := places_mem hplaces hmem
        obtain ⟨other, hother, hunoccupied⟩ := hfree seat hseat
        rwa [hat.seatId_eq hother]
    rcases hrefused with hless | hnil
    · rw [hplaces.length_eq] at hless
      omega
    · exact hnonempty hnil
  · rintro ⟨seat, seatId, hseat, hfree⟩ hclosed
    have hone : (([seatId] : List Int).length : Int) ≤ schedule.remainCount := by
      apply h.length_le_remainCount (List.nodup_singleton seatId)
      · intro other hother
        obtain rfl := List.mem_singleton.mp hother
        exact ⟨seat, hseat⟩
      · intro other hother
        obtain rfl := List.mem_singleton.mp hother
        exact hfree
    have hzero := h.closed hclosed
    rw [List.length_singleton] at hone
    omega

end Consequences

/-- Counter and rows agree in every run without a refund of the schedule's
bookings. -/
theorem theater_counterAgrees {db final : Db} {scheduleId : Int} {schedule : Schedule}
    {steps : List TheaterStep} (hstart : StartsOpen db scheduleId schedule)
    (hkept : theaterMachine.Along (fun db a => ¬ CancelsBookingOf scheduleId db a) db steps)
    (hrun : theaterMachine.run db steps = some final) :
    ∃ row, final.schedules.find scheduleId = some row ∧ CounterAgrees final row := by
  have hinv : ∃ row, CounterInv scheduleId final row := by
    apply Machine.run_invariant_along _ ⟨schedule, hstart.counterInv⟩ hkept hrun
    rintro s a next ⟨row, hrow⟩ hcond hstep
    exact hrow.step hcond hstep
  obtain ⟨row, hrow⟩ := hinv
  exact ⟨row, hrow.found, hrow.counterAgrees⟩

theorem oneSeatDb_startsOpen : StartsOpen oneSeatDb 1 oneSeatSchedule :=
  ⟨oneSeatDb_startsFull, by decide, by decide⟩

theorem theater_counterAgrees_oneSeat :
    ∃ final row, theaterMachine.run oneSeatDb
        [.book .quiet (fun _ => "AA000001") (theaterBody "first" [.str "1-1"]),
          .refund .quiet 2 1] = some final ∧
      final.schedules.find 1 = some row ∧ CounterAgrees final row := by
  obtain ⟨final, hrun⟩ := theaterMachine_total oneSeatDb
    [.book .quiet (fun _ => "AA000001") (theaterBody "first" [.str "1-1"]), .refund .quiet 2 1]
  obtain ⟨row, hfind, hagrees⟩ := theater_counterAgrees oneSeatDb_startsOpen (by
    refine ⟨id, fun next hnext => ⟨?_, fun _ _ => trivial⟩⟩
    obtain rfl := Option.some.inj hnext
    rintro ⟨booking, ⟨hfind, _⟩, _⟩
    cases (show (none : Option Booking) = some booking from hfind)) hrun
  exact ⟨final, row, hrun, hfind, hagrees⟩

/-- One booking of the only seat and its refund: the seat is free again, but the
counter stays at zero, the schedule stays CLOSED, and the next request for the
seat is answered SOLD_OUT. -/
theorem theater_counter_lost :
    StartsOpen oneSeatDb 1 oneSeatSchedule ∧
    ∃ final row, theaterMachine.run oneSeatDb
        [.book .quiet (fun _ => "AA000001") (theaterBody "first" [.str "1-1"]),
          .refund .quiet 1 1] = some final ∧
      final.schedules.find 1 = some row ∧
      row.remainCount ≠ row.totalCount - (final.movies.activeSeats 1).length ∧
      (selectSeatId row.hallId firstSeat final = some 1 ∧ ¬ final.movies.Active 1 1) ∧
      (processTheaterBooking .quiet (fun _ => "AA000002")
        (theaterBody "second" [.str "1-1"]) final).1 = .refused .soldOut ∧
      row.status = .closed := by
  refine ⟨oneSeatDb_startsOpen, _, _, rfl, rfl, ?_, ⟨?_, ?_⟩, ?_, ?_⟩
  · decide
  · decide
  · decide
  · decide
  · decide

end Ticketing
