import Ticketing.Concert.Grid
import Ticketing.Theater.Capacity

/-!
# All or nothing

One execution of a handler, whatever fails in it. A handler commits a booking
with all of its rows, or leaves the database alone and stores a failure, unless an
exception leaves the handler. `_to_int` lets one of them pass: `int()` of an
infinite number raises an OverflowError, which it does not catch.
-/

namespace Ticketing

open Foundation Python

/-! ## The two handlers as one -/

inductive Handler where
  | theater
  | concert
deriving DecidableEq, Repr

namespace Handler

/-- The field of a body that names the schedule or the show. -/
def showingField : Handler → String
  | theater => "schedule_id"
  | concert => "show_id"

def tx : Handler → Request → (Nat → String) → Tx Db (Exit (Receipt × Int) FailCode)
  | theater => theaterTx
  | concert => concertTx

/-- `process_theater_booking` or `process_concert_booking`. -/
def process : Handler → Env → (Nat → String) → Json → Db → Verdict × Db
  | theater => processTheaterBooking
  | concert => processConcertBooking

/-- The database after the booking of a request: one paid booking with an ACTIVE
row for each seat and one payment, and for a schedule the seats taken from its
counter, which closes it at 0. -/
def Sold (db next : Db) (request : Request) (receipt : Receipt) : Handler → Prop
  | theater => ∃ schedule seatIds,
      TheaterBooked db next request schedule seatIds receipt.bookingId ∧
        (schedule.booked request.seats.length).remainCount =
          schedule.remainCount - request.seats.length ∧
        (schedule.booked request.seats.length).status =
          if schedule.remainCount = request.seats.length then .closed else schedule.status
  | concert => ∃ concertShow, ConcertBooked db next request concertShow receipt.bookingId

/-- The request is booked and answered with OK, or the database is as before and
the answer is a failure. -/
def Atomic (handler : Handler) (body : Json) (texts : List String) (db : Db)
    (outcome : Verdict × Db) : Prop :=
  (∃ request receipt remain, decodeRequest handler.showingField body = some request ∧
    request.seats = parseSeats (texts.map .str) ∧
    outcome.1.result = some (.success receipt remain) ∧
    handler.Sold db outcome.2 request receipt) ∨
  outcome.2 = db ∧ ∃ code message, outcome.1.result = some (.failure code message)

/-- The `except` branches are not reached, or their ROLLBACK goes through. -/
def RollsBack (handler : Handler) (env : Env) (codes : Nat → String) (body : Json) (db : Db) :
    Prop :=
  env.rollback = none ∨ ∀ request error,
    decodeRequest handler.showingField body = some request →
      handler.tx request codes env ⟨db, 0⟩ ≠ .error error

theorem process_eq (handler : Handler) (env : Env) (codes : Nat → String) (body : Json) (db : Db) :
    handler.process env codes body db =
      match decodeRequest handler.showingField body with
      | none => (.raised, db)
      | some request =>
          let (outcome, next) := Tx.settle (handler.tx request codes) env db
          (.ofOutcome outcome, next) := by
  cases handler with
  | theater => rfl
  | concert => rfl

end Handler

/-! ## Bodies -/

/-- The body has the fields that the handler indexes, and its seats are texts. -/
structure SeatTexts (showingField : String) (body bookingRef userId showingId : Json)
    (texts : List String) : Prop where
  bookingRef : body.item "booking_ref" = some bookingRef
  userId : body.item "user_id" = some userId
  showingId : body.item showingField = some showingId
  seats : body.item "seats" = some (.arr (texts.map .str))

section Bodies

variable {showingField : String} {body bookingRef userId showingId : Json} {texts : List String}

/-- What a handler reads from such a body. -/
theorem SeatTexts.decodeRequest_eq
    (h : SeatTexts showingField body bookingRef userId showingId texts) :
    decodeRequest showingField body = (userId.toInt 0).bind fun user =>
      (showingId.toInt 0).map fun showing =>
        ⟨bookingRef, user, showing, parseSeats (texts.map .str)⟩ := by
  have hseats : ((body.get "seats").orElse (.arr [])).iterate = some (texts.map .str) := by
    rw [Json.get, h.seats, Option.getD_some, Json.orElse]
    cases texts with
    | nil => rfl
    | cons text rest => rfl
  unfold decodeRequest
  rw [h.bookingRef, h.userId, h.showingId, hseats]
  change (userId.toInt 0).bind (fun user => (showingId.toInt 0).bind fun showing =>
    some (Request.mk bookingRef user showing (parseSeats (texts.map .str)))) = _
  cases userId.toInt 0 with
  | none => rfl
  | some user =>
      cases showingId.toInt 0 with
      | none => rfl
      | some showing => rfl

theorem SeatTexts.decodeRequest_eq_none_iff
    (h : SeatTexts showingField body bookingRef userId showingId texts) :
    decodeRequest showingField body = none ↔ userId.Infinite ∨ showingId.Infinite := by
  rw [h.decodeRequest_eq, ← @Json.toInt_eq_none_iff userId 0, ← @Json.toInt_eq_none_iff showingId 0]
  cases userId.toInt 0 with
  | none => simp
  | some user => simp

theorem SeatTexts.seats_eq (h : SeatTexts showingField body bookingRef userId showingId texts)
    {request : Request} (hdecode : decodeRequest showingField body = some request) :
    request.seats = parseSeats (texts.map .str) := by
  rw [h.decodeRequest_eq] at hdecode
  obtain ⟨user, _, hdecode⟩ := Option.bind_eq_some_iff.mp hdecode
  obtain ⟨showing, _, rfl⟩ := Option.map_eq_some_iff.mp hdecode
  rfl

end Bodies

/-! ## What one execution does -/

/-- A verdict that is neither a booking nor an exception is answered with a
failure. -/
theorem Verdict.result_failure {verdict : Verdict} (hcommitted : verdict.isCommitted = false)
    (hraised : verdict ≠ .raised) :
    ∃ code message, verdict.result = some (.failure code message) := by
  cases verdict with
  | raised => exact absurd rfl hraised
  | committed receipt remain => cases hcommitted
  | refused code => exact ⟨code, none, rfl⟩
  | integrity => exact ⟨.duplicateSeat, none, rfl⟩
  | error message => exact ⟨.error, some message, rfl⟩

theorem Verdict.ofOutcome_eq_raised {outcome : Outcome (Receipt × Int) FailCode} :
    ofOutcome outcome = .raised ↔ outcome = .lost := by
  cases outcome with
  | commit value => simp [ofOutcome]
  | leave code => simp [ofOutcome]
  | failed error => cases error <;> simp [ofOutcome]
  | lost => simp [ofOutcome]

theorem Schedule.status_booked_eq {n : Nat} {row : Schedule} (h : (n : Int) ≤ row.remainCount) :
    (row.booked n).status = if row.remainCount = n then .closed else row.status := by
  have hremain := Schedule.remainCount_take h
  have hstatus : (row.take n).status = row.status := by
    rw [Schedule.take, dif_pos h]
  rw [Schedule.booked, Schedule.closedIfFull, hremain]
  by_cases hfull : row.remainCount = n
  · rw [if_pos (by omega), if_pos hfull]
    rfl
  · rw [if_neg (by omega), if_neg hfull, hstatus]

namespace Handler

variable {handler : Handler} {env : Env} {codes : Nat → String} {body : Json} {db : Db}

/-- A handler commits the whole booking, or leaves the database alone. -/
theorem process_cases :
    (∃ request receipt remain, decodeRequest handler.showingField body = some request ∧
      (handler.process env codes body db).1 = .committed receipt remain ∧
      handler.Sold db (handler.process env codes body db).2 request receipt) ∨
    (handler.process env codes body db).2 = db ∧
      (handler.process env codes body db).1.isCommitted = false := by
  cases handler with
  | theater =>
      rcases processTheaterBooking_cases env codes body db with
        ⟨request, schedule, seatIds, receipt, remain, next, hdecode, hprocess, hbooked⟩ | hsame
      · left
        refine ⟨request, receipt, remain, hdecode, congrArg Prod.fst hprocess, schedule, seatIds,
          ?_, Schedule.remainCount_booked hbooked.capacity,
          Schedule.status_booked_eq hbooked.capacity⟩
        change TheaterBooked db (processTheaterBooking env codes body db).2 request schedule
          seatIds receipt.bookingId
        rwa [hprocess]
      · exact .inr hsame
  | concert =>
      rcases processConcertBooking_cases env codes body db with
        ⟨request, concertShow, receipt, remain, next, hdecode, hprocess, hbooked⟩ | hsame
      · left
        refine ⟨request, receipt, remain, hdecode, congrArg Prod.fst hprocess, concertShow, ?_⟩
        change ConcertBooked db (processConcertBooking env codes body db).2 request concertShow
          receipt.bookingId
        rwa [hprocess]
      · exact .inr hsame

/-- An execution is all or nothing unless an exception leaves the handler. -/
theorem atomic_iff_not_raised {bookingRef userId showingId : Json} {texts : List String}
    (hbody : SeatTexts handler.showingField body bookingRef userId showingId texts) :
    handler.Atomic body texts db (handler.process env codes body db) ↔
      (handler.process env codes body db).1 ≠ .raised := by
  constructor
  · rintro (⟨_, _, _, _, _, hresult, _⟩ | ⟨_, _, _, hresult⟩) hraised
    · rw [hraised] at hresult
      cases hresult
    · rw [hraised] at hresult
      cases hresult
  · intro hraised
    rcases process_cases with ⟨request, receipt, remain, hdecode, hcommitted, hsold⟩ | ⟨hsame, hno⟩
    · refine .inl ⟨request, receipt, remain, hdecode, hbody.seats_eq hdecode, ?_, hsold⟩
      rw [hcommitted]
      rfl
    · exact .inr ⟨hsame, Verdict.result_failure hno hraised⟩

theorem process_eq_raised_iff :
    (handler.process env codes body db).1 = .raised ↔
      decodeRequest handler.showingField body = none ∨ env.connect ≠ none ∨
        ¬ handler.RollsBack env codes body db := by
  rw [process_eq, RollsBack]
  cases hdecode : decodeRequest handler.showingField body with
  | none => simp
  | some request =>
      dsimp only
      rw [Verdict.ofOutcome_eq_raised, Tx.settle_lost_iff]
      simp

/-- One execution is all or nothing, with the answer to match, exactly if neither
number of the body is infinite, the connection opens, and the ROLLBACK after a
failed statement goes through. Which statements fail, and which booking codes
collide, is arbitrary. -/
theorem process_atomic_iff {bookingRef userId showingId : Json} {texts : List String}
    (hbody : SeatTexts handler.showingField body bookingRef userId showingId texts) :
    handler.Atomic body texts db (handler.process env codes body db) ↔
      ¬ userId.Infinite ∧ ¬ showingId.Infinite ∧ env.connect = none ∧
        handler.RollsBack env codes body db := by
  rw [atomic_iff_not_raised hbody, ne_eq, process_eq_raised_iff, hbody.decodeRequest_eq_none_iff]
  simp only [not_or, not_not, ne_eq, and_assoc]

end Handler

/-! ## A user id that is not finite -/

/-- The INSERT of the seats raises, and the ROLLBACK goes through. -/
def seatInsertFault : Env :=
  { Env.quiet with fault := fun k => if k = 3 then some (.other "") else none }

theorem process_atomic_fault :
    Handler.concert.Atomic (concertBody "first" 1 [.str "1-1"]) ["1-1"] twoSeatDb
      (Handler.concert.process seatInsertFault (fun _ => "CAA000001")
        (concertBody "first" 1 [.str "1-1"]) twoSeatDb) := by
  have hbody : SeatTexts Handler.concert.showingField (concertBody "first" 1 [.str "1-1"])
      (.str "first") (.int 1) (.int 1) ["1-1"] := ⟨rfl, rfl, rfl, rfl⟩
  exact (Handler.process_atomic_iff hbody).mpr ⟨id, id, rfl, .inl rfl⟩

/-- A message whose `user_id` is `Infinity`. -/
def infiniteUser : Json := .obj [("booking_type", .str "concert"), ("booking_ref", .str "first"),
  ("user_id", .float (.infinity false)), ("show_id", .int 1), ("seats", .arr [.str "1-1"])]

/-- The handler raises in front of its first statement and stores nothing. -/
theorem infinite_user_unanswered :
    SeatTexts Handler.concert.showingField infiniteUser (.str "first") (.float (.infinity false))
        (.int 1) ["1-1"] ∧
      (Handler.concert.process .quiet (fun _ => "CAA000001") infiniteUser twoSeatDb).1.result =
        none ∧
      ¬ Handler.concert.Atomic infiniteUser ["1-1"] twoSeatDb
        (Handler.concert.process .quiet (fun _ => "CAA000001") infiniteUser twoSeatDb) := by
  have hnone : (Handler.concert.process .quiet (fun _ => "CAA000001") infiniteUser
      twoSeatDb).1.result = none := rfl
  refine ⟨⟨rfl, rfl, rfl, rfl⟩, hnone, ?_⟩
  rintro (⟨_, _, _, _, _, hresult, _⟩ | ⟨_, _, _, hresult⟩)
  · rw [hnone] at hresult
    cases hresult
  · rw [hnone] at hresult
    cases hresult

end Ticketing
