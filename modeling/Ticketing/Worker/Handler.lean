import Ticketing.User.Refund
import Ticketing.Worker.Concert
import Ticketing.Worker.Theater

/-!
# Both handlers

The handler that a message body selects, and the transactions of the whole
system: handled messages of both kinds and refunds of both kinds.
-/

namespace Ticketing

open Foundation Python

/-- The handler for a body, by its `booking_type`. -/
def processBooking (env : Env) (codes : Nat → String) (body : Json) (db : Db) : Verdict × Db :=
  if isConcert body then processConcertBooking env codes body db
  else processTheaterBooking env codes body db

/-- A transaction, with what the environment decides about it. -/
inductive DbStep where
  | book (env : Env) (codes : Nat → String) (body : Json)
  | refundMovie (env : Env) (userId bookingId : Int)
  | refundConcert (env : Env) (userId bookingId : Int)

def DbStep.apply (db : Db) : DbStep → Db
  | .book env codes body => (processBooking env codes body db).2
  | .refundMovie env userId bookingId => (refundMovieBooking env userId bookingId db).2
  | .refundConcert env userId bookingId => (refundConcertBooking env userId bookingId db).2

/-- What a transaction of the system can do to the database. -/
inductive Transacted (db : Db) : Db → Prop where
  | same : Transacted db db
  | theater {next : Db} {request : Request} {schedule : Schedule} {seatIds : List Int}
      {bookingId : Int} (booked : TheaterBooked db next request schedule seatIds bookingId) :
      Transacted db next
  | concert {next : Db} {request : Request} {concertShow : ConcertShow} {bookingId : Int}
      (booked : ConcertBooked db next request concertShow bookingId) : Transacted db next
  | refundMovie {movies : Ledger Int} {bookingId : Int}
      (refunded : db.movies.Refunded movies bookingId) : Transacted db { db with movies := movies }
  | refundConcert {concerts : Ledger Seat} {bookingId : Int}
      (refunded : db.concerts.Refunded concerts bookingId) :
      Transacted db { db with concerts := concerts }

/-- A handled message is a committed concert booking, a committed theater
booking, or leaves the database alone. -/
theorem processBooking_cases (env : Env) (codes : Nat → String) (body : Json) (db : Db) :
    (∃ request concertShow receipt remain next, isConcert body = true ∧
      decodeRequest "show_id" body = some request ∧
      processBooking env codes body db = (.committed receipt remain, next) ∧
      ConcertBooked db next request concertShow receipt.bookingId) ∨
    (∃ request schedule seatIds receipt remain next, isConcert body = false ∧
      decodeRequest "schedule_id" body = some request ∧
      processBooking env codes body db = (.committed receipt remain, next) ∧
      TheaterBooked db next request schedule seatIds receipt.bookingId) ∨
    ((processBooking env codes body db).2 = db ∧
      (processBooking env codes body db).1.isCommitted = false) := by
  unfold processBooking
  cases hconcert : isConcert body with
  | true =>
      rcases processConcertBooking_cases env codes body db with
        ⟨request, concertShow, receipt, remain, next, hbooked⟩ | hsame
      · exact .inl ⟨request, concertShow, receipt, remain, next, rfl, hbooked⟩
      · exact .inr (.inr hsame)
  | false =>
      rcases processTheaterBooking_cases env codes body db with
        ⟨request, schedule, seatIds, receipt, remain, next, hbooked⟩ | hsame
      · exact .inr (.inl ⟨request, schedule, seatIds, receipt, remain, next, rfl, hbooked⟩)
      · exact .inr (.inr hsame)

theorem processBooking_transacted (env : Env) (codes : Nat → String) (body : Json) (db : Db) :
    Transacted db (processBooking env codes body db).2 := by
  rcases processBooking_cases env codes body db with
    ⟨request, concertShow, receipt, remain, next, _, _, hprocess, hbooked⟩ |
      ⟨request, schedule, seatIds, receipt, remain, next, _, _, hprocess, hbooked⟩ | ⟨hsame, _⟩
  · rw [hprocess]
    exact .concert hbooked
  · rw [hprocess]
    exact .theater hbooked
  · rw [hsame]
    exact .same

theorem DbStep.transacted (db : Db) (step : DbStep) : Transacted db (step.apply db) := by
  cases step with
  | book env codes body => exact processBooking_transacted env codes body db
  | refundMovie env userId bookingId =>
      rcases refundMovieBooking_cases env userId bookingId db with
        hsame | ⟨booking, _, _, movies, hnext, hrefunded⟩
      · rw [apply, hsame]
        exact .same
      · rw [apply, hnext]
        exact .refundMovie hrefunded
  | refundConcert env userId bookingId =>
      rcases refundConcertBooking_cases env userId bookingId db with
        hsame | ⟨booking, _, _, concerts, hnext, hrefunded⟩
      · rw [apply, hsame]
        exact .same
      · rw [apply, hnext]
        exact .refundConcert hrefunded

end Ticketing
