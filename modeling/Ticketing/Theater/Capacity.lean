import Ticketing.Foundation.Machine
import Ticketing.Occupancy
import Ticketing.Worker.Theater

/-!
# Capacity of a schedule

The theater tables under arbitrary sequences of handled messages and refunds.
The counter of a schedule and its seat rows are linked by an invariant that no
transaction breaks: `remain_count` plus the number of seat rows, cancelled ones
included, is the capacity.
-/

namespace Ticketing

open Foundation Python

/-- A transaction on the theater tables, with what the environment decides
about it. -/
inductive TheaterStep where
  | book (env : Env) (codes : Nat → String) (body : Json)
  | refund (env : Env) (userId bookingId : Int)

/-- The database under transactions in any order. -/
def theaterMachine : Machine Db TheaterStep where
  step db
    | .book env codes body => some (processTheaterBooking env codes body db).2
    | .refund env userId bookingId => some (refundMovieBooking env userId bookingId db).2

/-- Every transaction can come next, whatever it then decides. -/
theorem theaterMachine_total (db : Db) (steps : List TheaterStep) :
    ∃ final, theaterMachine.run db steps = some final :=
  Machine.run_total (fun _ a => by cases a <;> exact ⟨_, rfl⟩) db steps

/-- What a step does to the database: nothing, one booking, or one refund. -/
theorem theaterMachine_step_cases {db next : Db} {a : TheaterStep}
    (h : theaterMachine.step db a = some next) :
    next = db ∨
    (∃ env codes body request schedule seatIds bookingId, a = .book env codes body ∧
      decodeRequest "schedule_id" body = some request ∧
      TheaterBooked db next request schedule seatIds bookingId) ∨
    (∃ env userId bookingId booking movies, a = .refund env userId bookingId ∧
      Refundable movieBook userId bookingId db booking ∧ Clear env 5 ∧
      next = { db with movies := movies } ∧ db.movies.Refunded movies bookingId) := by
  cases a with
  | book env codes body =>
      obtain rfl := Option.some.inj h
      rcases processTheaterBooking_cases env codes body db with
        ⟨request, schedule, seatIds, receipt, remain, next, hdecode, hprocess, hbooked⟩ | ⟨hsame, _⟩
      · refine .inr (.inl ⟨env, codes, body, request, schedule, seatIds, receipt.bookingId, rfl,
          hdecode, ?_⟩)
        rw [hprocess]
        exact hbooked
      · exact .inl hsame
  | refund env userId bookingId =>
      obtain rfl := Option.some.inj h
      rcases refundMovieBooking_cases env userId bookingId db with
        hsame | ⟨booking, hrefundable, hclear, movies, hnext, hrefunded⟩
      · exact .inl hsame
      · exact .inr (.inr ⟨env, userId, bookingId, booking, movies, rfl, hrefundable, hclear, hnext,
          hrefunded⟩)

/-! ## The schedule row -/

namespace Schedule

variable {n : Nat} {row : Schedule}

@[simp] theorem scheduleId_booked (n : Nat) (row : Schedule) :
    (row.booked n).scheduleId = row.scheduleId := by
  unfold booked closedIfFull take close
  split <;> split <;> rfl

@[simp] theorem hallId_booked (n : Nat) (row : Schedule) :
    (row.booked n).hallId = row.hallId := by
  unfold booked closedIfFull take close
  split <;> split <;> rfl

@[simp] theorem totalCount_booked (n : Nat) (row : Schedule) :
    (row.booked n).totalCount = row.totalCount := by
  unfold booked closedIfFull take close
  split <;> split <;> rfl

theorem remainCount_booked (h : (n : Int) ≤ row.remainCount) :
    (row.booked n).remainCount = row.remainCount - n := by
  rw [← remainCount_take h]
  unfold booked closedIfFull close
  split <;> rfl

/-- A booking closes a schedule only if it takes the last of its capacity. -/
theorem status_booked (h : (row.booked n).status = .closed) :
    row.status = .closed ∨ (row.booked n).remainCount = 0 := by
  unfold booked closedIfFull at h ⊢
  split at h
  next hfull =>
    right
    have := (row.take n).chk_remain_count
    rw [if_pos hfull]
    exact le_antisymm hfull this
  next =>
    left
    unfold take at h
    split at h <;> exact h

end Schedule

namespace TheaterBooked

variable {db next : Db} {request : Request} {schedule : Schedule} {seatIds : List Int}
  {bookingId : Int}

theorem find_same (h : TheaterBooked db next request schedule seatIds bookingId) :
    next.schedules.find request.showingId = some (schedule.booked request.seats.length) := by
  obtain ⟨hmem, hid⟩ := Table.find_eq_some.mp h.found
  refine Table.find_eq_some.mpr ⟨?_, (schedule.scheduleId_booked _).trans hid⟩
  rw [h.schedules]
  exact List.mem_map.mpr ⟨schedule, hmem, if_pos hid⟩

theorem find_other (h : TheaterBooked db next request schedule seatIds bookingId)
    {other : Int} (hother : other ≠ request.showingId) {row : Schedule}
    (hfind : db.schedules.find other = some row) : next.schedules.find other = some row := by
  obtain ⟨hmem, hid⟩ := Table.find_eq_some.mp hfind
  refine Table.find_eq_some.mpr ⟨?_, hid⟩
  rw [h.schedules]
  exact List.mem_map.mpr ⟨row, hmem, if_neg fun heq => hother (hid.symm.trans heq)⟩

theorem hallSeats_eq (h : TheaterBooked db next request schedule seatIds bookingId) :
    next.hallSeats = db.hallSeats := by
  rw [h.frame]

end TheaterBooked

/-! ## The invariant -/

/-- The schedule as a run starts with it: its whole capacity remains, and it has
no bookings. -/
structure StartsFull (db : Db) (scheduleId : Int) (schedule : Schedule) : Prop where
  found : db.schedules.find scheduleId = some schedule
  full : schedule.remainCount = schedule.totalCount
  noBookings : ∀ row ∈ db.movies.bookings.rows, row.showingId ≠ scheduleId
  noSeats : ∀ row ∈ db.movies.seats.rows, row.showingId ≠ scheduleId

/-- Every seat row of the schedule, ACTIVE or not, has used up one unit of its
capacity, and ACTIVE rows belong to paid bookings. -/
structure CapacityInv (scheduleId total : Int) (db : Db) : Prop where
  counted : ∃ schedule, db.schedules.find scheduleId = some schedule ∧
    schedule.totalCount = total ∧
    schedule.remainCount + db.movies.seatCount scheduleId = schedule.totalCount
  owned : db.movies.Owned scheduleId

theorem StartsFull.capacityInv {db : Db} {scheduleId : Int} {schedule : Schedule}
    (h : StartsFull db scheduleId schedule) :
    CapacityInv scheduleId schedule.totalCount db := by
  have hnone : db.movies.seatCount scheduleId = 0 :=
    List.countP_eq_zero.mpr fun row hrow => by simpa using h.noSeats row hrow
  refine ⟨⟨schedule, h.found, rfl, ?_⟩, ?_⟩
  · rw [hnone, h.full]
    simp
  · intro row hrow
    obtain ⟨hmem, hshowing, _⟩ := Ledger.mem_activeSeats.mp hrow
    exact absurd hshowing (h.noSeats row hmem)

theorem CapacityInv.step {scheduleId total : Int} {db next : Db} {a : TheaterStep}
    (hinv : CapacityInv scheduleId total db) (h : theaterMachine.step db a = some next) :
    CapacityInv scheduleId total next := by
  obtain ⟨row, hfind, htotal, hcount⟩ := hinv.counted
  rcases theaterMachine_step_cases h with
    rfl | ⟨_, _, _, request, schedule, seatIds, bookingId, _, _, hbooked⟩ |
      ⟨_, _, _, booking, movies, _, _, _, rfl, hrefunded⟩
  · exact hinv
  · refine ⟨?_, hbooked.movies.owned hinv.owned⟩
    by_cases hsame : scheduleId = request.showingId
    · subst hsame
      obtain rfl : schedule = row := Option.some.inj (hbooked.found.symm.trans hfind)
      refine ⟨_, hbooked.find_same, by rw [Schedule.totalCount_booked, htotal], ?_⟩
      -- the counter loses what the seat rows gain
      rw [Schedule.remainCount_booked hbooked.capacity, Schedule.totalCount_booked,
        hbooked.movies.seatCount_same, ← hbooked.places.length_eq, ← hcount]
      omega
    · refine ⟨row, hbooked.find_other hsame hfind, htotal, ?_⟩
      rw [hbooked.movies.seatCount_other hsame, hcount]
  · refine ⟨⟨row, hfind, htotal, ?_⟩, hrefunded.owned hinv.owned⟩
    rw [hrefunded.seatCount_eq, hcount]

/-- What customers of a schedule are promised: no seat is sold twice, every
occupied seat is paid for, and no more seats are occupied than the schedule
has. -/
structure SoldSoundly (scheduleId total : Int) (db : Db) : Prop where
  exclusive : ∀ left ∈ db.movies.activeSeats scheduleId,
    ∀ right ∈ db.movies.activeSeats scheduleId, left.cell = right.cell → left = right
  paid : ∀ row ∈ db.movies.activeSeats scheduleId,
    ∃ booking, db.movies.bookings.find row.bookingId = some booking ∧ booking.bookStatus = .paid
  bounded : ∃ schedule, db.schedules.find scheduleId = some schedule ∧
    schedule.totalCount = total ∧
    ((db.movies.activeSeats scheduleId).length : Int) ≤ schedule.totalCount ∧
    0 ≤ schedule.remainCount

theorem CapacityInv.soldSoundly {scheduleId total : Int} {db : Db}
    (h : CapacityInv scheduleId total db) : SoldSoundly scheduleId total db := by
  obtain ⟨schedule, hfind, htotal, hcount⟩ := h.counted
  refine ⟨?_, ?_, schedule, hfind, htotal, ?_, schedule.chk_remain_count⟩
  · intro left hleft right hright hcell
    exact Ledger.eq_of_mem_activeSeats hleft hright hcell
  · intro row hrow
    obtain ⟨booking, hbooking, hpaid, _⟩ := h.owned row hrow
    exact ⟨booking, hbooking, hpaid⟩
  · have := db.movies.length_activeSeats_le scheduleId
    have := schedule.chk_remain_count
    omega

/-- In every run of handled messages and refunds, a schedule that started with
its whole capacity and no bookings is sold soundly. -/
theorem theater_soldSoundly {db final : Db} {scheduleId : Int} {schedule : Schedule}
    {steps : List TheaterStep} (hstart : StartsFull db scheduleId schedule)
    (hrun : theaterMachine.run db steps = some final) :
    SoldSoundly scheduleId schedule.totalCount final :=
  (Machine.run_invariant (fun _ _ _ hinv hstep => CapacityInv.step hinv hstep)
    hstart.capacityInv hrun).soldSoundly

/-! ## A hall with one seat -/

def firstSeat : Seat := ⟨1, 1, by decide, by decide⟩

def oneSeatSchedule : Schedule := ⟨1, 1, 1, 1, .opened, by decide, by decide⟩

/-- One user, and one schedule in a hall with one seat. -/
def oneSeatDb : Db where
  users := [1]
  halls := ⟨[⟨1, 1⟩], by decide, by decide⟩
  hallSeats := ⟨[⟨1, 1, firstSeat⟩], by decide, by decide⟩
  schedules := ⟨[oneSeatSchedule], by decide, by decide⟩
  movies := .empty
  concertShows := .empty
  concerts := .empty

/-- The body of a request of user 1 for seats of schedule 1. -/
def theaterBody (bookingRef : String) (seats : List Json) : Json :=
  .obj [("booking_type", .str "theater"), ("booking_ref", .str bookingRef), ("user_id", .int 1),
    ("schedule_id", .int 1), ("seats", .arr seats)]

theorem oneSeatDb_startsFull : StartsFull oneSeatDb 1 oneSeatSchedule :=
  ⟨by decide, by decide, by decide, by decide⟩

theorem theater_soldSoundly_oneSeat :
    ∃ final, theaterMachine.run oneSeatDb
        [.book .quiet (fun _ => "AA000001") (theaterBody "first" [.str "1-1"]),
          .book .quiet (fun _ => "AA000002") (theaterBody "second" [.str "1-1"]),
          .refund .quiet 1 1] = some final ∧
      SoldSoundly 1 1 final := by
  obtain ⟨final, hrun⟩ := theaterMachine_total oneSeatDb _
  exact ⟨final, hrun, theater_soldSoundly oneSeatDb_startsFull hrun⟩

end Ticketing
