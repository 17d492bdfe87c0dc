import Mathlib.Data.Nat.Bitwise
import Ticketing.Worker.Message

/-!
# The concert write API

`commit_concert_booking` apart from its seat hold: what it makes of a payload,
what it answers, and the message it sends. An order is a payload that has
passed the checks, so it carries what they establish.
-/

namespace Ticketing

open Foundation Python

/-! ## Sale state -/

/-- What `set_sale_state` stores for a show. Both of its callers pass no closing
time. -/
structure Sale where
  closed : Bool
  closeAtEpochMs : Option Int
deriving DecidableEq, Repr

/-- `get_sale_state` on what the key holds. -/
def getSaleState (stored : Option Sale) : Sale := stored.getD ⟨false, none⟩

/-- `is_open`. -/
def isOpen (stored : Option Sale) : Bool := !(getSaleState stored).closed

def Sale.toJson (sale : Sale) : Json := .obj [
  ("status", .str (if sale.closed then "CLOSED" else "OPEN")),
  ("close_at_epoch_ms", match sale.closeAtEpochMs with | some ms => .int ms | none => .null)]

/-! ## Answers -/

inductive CommitReply where
  | badRequest
  | noSeats
  | badSeatKey
  | salesClosed (sale : Sale)
  | duplicateSeat
  | queued (bookingRef : String)
deriving DecidableEq, Repr

def CommitReply.statusCode : CommitReply → Nat
  | .badRequest | .noSeats | .badSeatKey => 400
  | .salesClosed _ | .duplicateSeat => 409
  | .queued _ => 200

def CommitReply.toJson : CommitReply → Json
  | .badRequest => .obj [("ok", .bool false), ("code", .str "BAD_REQUEST"),
      ("message", .str "요청값이 올바르지 않습니다.")]
  | .noSeats => .obj [("ok", .bool false), ("code", .str "NO_SEATS"),
      ("message", .str "좌석을 선택해주세요.")]
  | .badSeatKey => .obj [("ok", .bool false), ("code", .str "BAD_SEAT_KEY"),
      ("message", .str "좌석 형식이 올바르지 않습니다.")]
  | .salesClosed sale => .obj [("ok", .bool false), ("code", .str "SALES_CLOSED"),
      ("message", .str "모든 투표가 마감되었습니다."), ("sale", sale.toJson)]
  | .duplicateSeat => .obj [("ok", .bool false), ("code", .str "DUPLICATE_SEAT")]
  | .queued bookingRef => .obj [("ok", .bool true), ("code", .str "QUEUED"),
      ("booking_ref", .str bookingRef), ("message", .str "예매 요청이 접수되었습니다.")]

/-! ## Orders -/

/-- A request that has passed the checks of `commit_concert_booking`. -/
structure ConcertOrder where
  userId : Int
  showId : Int
  seats : List Seat
  userId_pos : 0 < userId
  showId_pos : 0 < showId
  nonempty : seats ≠ []
  nodup : seats.Nodup
  writable : ∀ seat ∈ seats, seat.Writable

/-- The loop over the seats of the payload: `parsed_seats` when it ends. -/
def collectSeats : List Json → List Seat → Option (List Seat)
  | [], parsed => some parsed
  | item :: rest, parsed =>
      match parseSeatKey item with
      | none => none
      -- a repeated seat is dropped, not refused
      | some seat => collectSeats rest (if seat ∈ parsed then parsed else parsed ++ [seat])

/-- What the loop keeps: different seats that can be written as text. -/
theorem collectSeats_sound {items : List Json} {parsed seats : List Seat}
    (h : collectSeats items parsed = some seats) (hnodup : parsed.Nodup)
    (hwritable : ∀ seat ∈ parsed, seat.Writable) :
    seats.Nodup ∧ ∀ seat ∈ seats, seat.Writable := by
  induction items generalizing parsed with
  | nil =>
      obtain rfl := Option.some.inj h
      exact ⟨hnodup, hwritable⟩
  | cons item rest ih =>
      rw [collectSeats] at h
      split at h
      next => cases h
      next seat hseat =>
        split at h
        next => exact ih h hnodup hwritable
        next hnew =>
          apply ih h
          · rw [List.nodup_append]
            refine ⟨hnodup, List.nodup_singleton seat, ?_⟩
            intro left hleft right hright hsame
            rw [List.mem_singleton.mp hright] at hsame
            exact hnew (hsame ▸ hleft)
          · intro other hother
            rcases List.mem_append.mp hother with hold | hlast
            · exact hwritable other hold
            · rw [List.mem_singleton.mp hlast]
              exact parseSeatKey_writable hseat

/-- The checks on `user_id`, `show_id` and `data.get("seats") or []`. -/
def checkConcertOrder (userId showId : Int) (seats : Json) : Except CommitReply ConcertOrder :=
  if hids : 0 < userId ∧ 0 < showId then
    match seats with
    | .arr [] => .error .noSeats
    | .arr items =>
        match hseats : collectSeats items [] with
        | none => .error .badSeatKey
        | some parsed =>
            if hcount : parsed = [] then .error .noSeats
            else
              have hsound := collectSeats_sound hseats List.nodup_nil (by simp)
              .ok ⟨userId, showId, parsed, hids.1, hids.2, hcount, hsound.1, hsound.2⟩
    | _ => .error .noSeats
  else .error .badRequest

/-- `commit_concert_booking` in front of the sale state. `none` is the exception
for an infinite number. -/
def readConcertOrder (payload : Json) : Option (Except CommitReply ConcertOrder) := do
  let userId ← (payload.get "user_id").toInt 0
  let showId ← (payload.get "show_id").toInt 0
  return checkConcertOrder userId showId ((payload.get "seats").orElse (.arr []))

/-! ## Messages -/

/-- `_seat_shard_id`; `shards` is CONCERT_FIFO_SHARDS. -/
def seatShardId (shards : Int) (seat : Seat) : Nat :=
  ((seat.row * 1000003) ^^^ seat.col) % (max 1 (min 1024 shards)).toNat

/-- The shard is one of at least 1 and at most 1024. -/
theorem seatShardId_lt (shards : Int) (seat : Seat) :
    seatShardId shards seat < (max 1 (min 1024 shards)).toNat :=
  Nat.mod_lt _ (by omega)

example : seatShardId 64 ⟨1, 1, Nat.one_pos, Nat.one_pos⟩ = 2 := by decide

namespace ConcertOrder

/-- The MessageGroupId, by the first seat. -/
def groupId (shards : Int) (order : ConcertOrder) : String :=
  toString order.showId ++ "-sh" ++
    toString (seatShardId shards (order.seats.head order.nonempty))

/-- The message body that `send_booking_message` puts together. -/
def body (order : ConcertOrder) (bookingRef : String) : Json := .obj [
  ("booking_type", .str "concert"), ("booking_ref", .str bookingRef),
  ("user_id", .int order.userId), ("show_id", .int order.showId),
  ("seats", .arr (order.seats.map fun seat => .str seat.key))]

theorem isConcert_body (order : ConcertOrder) (bookingRef : String) :
    isConcert (order.body bookingRef) = true := by
  simp [isConcert, body, Json.item]

/-- The worker reads back the order from the message. -/
theorem decodeRequest_body (order : ConcertOrder) (bookingRef : String) :
    decodeRequest "show_id" (order.body bookingRef) =
      some ⟨.str bookingRef, order.userId, order.showId, order.seats⟩ := by
  have hseats : ((order.body bookingRef).get "seats").orElse (.arr []) =
      .arr (order.seats.map fun seat => .str seat.key) := by
    apply Json.orElse_of_truthy
    simp [body, Json.get, Json.item, Json.truthy, order.nonempty]
  unfold decodeRequest
  simp [hseats, parseSeats_map_key order.writable]
  simp [body, Json.item]

end ConcertOrder

end Ticketing
