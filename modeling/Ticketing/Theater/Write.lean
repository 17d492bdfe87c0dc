import Ticketing.Concert.Commit

/-!
# The theater write API

`commit_booking`. Its checks are those of `commit_concert_booking`, word for
word, with the schedule in the place of the show; there is no sale state and no
hold, so every order that passes them is sent.
-/

namespace Ticketing

open Foundation Python

/-- A request that has passed the checks of `commit_booking`; the schedule stands
where the checks have the show. -/
structure TheaterOrder where
  checked : ConcertOrder

namespace TheaterOrder

def userId (order : TheaterOrder) : Int := order.checked.userId

def scheduleId (order : TheaterOrder) : Int := order.checked.showId

def seats (order : TheaterOrder) : List Seat := order.checked.seats

/-- The MessageGroupId `f"{schedule_id}-{user_id}"`. -/
def groupId (order : TheaterOrder) : String :=
  toString order.scheduleId ++ "-" ++ toString order.userId

/-- The message body that `send_booking_message` puts together. -/
def body (order : TheaterOrder) (bookingRef : String) : Json := .obj [
  ("booking_type", .str "theater"), ("booking_ref", .str bookingRef),
  ("user_id", .int order.userId), ("schedule_id", .int order.scheduleId),
  ("seats", .arr (order.seats.map fun seat => .str seat.key))]

theorem isConcert_body (order : TheaterOrder) (bookingRef : String) :
    isConcert (order.body bookingRef) = false := by
  simp [isConcert, body, Json.item]

/-- The worker reads back the order from the message. -/
theorem decodeRequest_body (order : TheaterOrder) (bookingRef : String) :
    decodeRequest "schedule_id" (order.body bookingRef) =
      some ⟨.str bookingRef, order.userId, order.scheduleId, order.seats⟩ := by
  have hseats : ((order.body bookingRef).get "seats").orElse (.arr []) =
      .arr (order.seats.map fun seat => .str seat.key) := by
    apply Json.orElse_of_truthy
    simp [body, Json.get, Json.item, Json.truthy, seats, order.checked.nonempty]
  unfold decodeRequest
  simp [hseats, seats, parseSeats_map_key order.checked.writable]
  simp [body, Json.item]

end TheaterOrder

/-- `commit_booking` in front of the message. `none` is the exception for an
infinite number. -/
def readTheaterOrder (payload : Json) : Option (Except CommitReply TheaterOrder) := do
  let userId ← (payload.get "user_id").toInt 0
  let scheduleId ← (payload.get "schedule_id").toInt 0
  return (checkConcertOrder userId scheduleId ((payload.get "seats").orElse (.arr []))).map
    TheaterOrder.mk

/-- The answers of `commit_booking`; that to an order which was sent has one more
sentence than for concerts. -/
def CommitReply.toTheaterJson : CommitReply → Json
  | .queued bookingRef => .obj [("ok", .bool true), ("code", .str "QUEUED"),
      ("booking_ref", .str bookingRef),
      ("message", .str "예매 요청이 접수되었습니다. 잠시 후 결과를 확인해주세요.")]
  | other => other.toJson

/-- What `commit_booking` leaves: its answer, none if an exception leaves it, and
the messages it has sent with their groups. -/
structure TheaterCommitRun where
  reply : Option CommitReply
  sent : List (String × Json)

/-- `commit_booking`; `bookingRef` is the UUID that `send_booking_message` issues. -/
def commitBooking (outcome : SendOutcome) (payload : Json) (bookingRef : String) :
    TheaterCommitRun :=
  match readTheaterOrder payload with
  | none => ⟨none, []⟩
  | some (.error reply) => ⟨some reply, []⟩
  | some (.ok order) =>
      let message := (order.groupId, order.body bookingRef)
      match outcome with
      | .sent => ⟨some (.queued bookingRef), [message]⟩
      | .disabled | .noQueueUrl | .failed false => ⟨none, []⟩
      | .failed true => ⟨none, [message]⟩

end Ticketing
