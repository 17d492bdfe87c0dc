import Mathlib.Data.List.Sort
import Mathlib.Data.List.Lex
import Ticketing.Foundation.Leases
import Ticketing.Foundation.Machine
import Ticketing.Python.Value

/-!
# Reservations behind a lock

`create_reservation` of `reserv-svc`, for any number of calls for one event that
interleave at their Redis commands. A call locks the whole sorted list of its
seats under one key, so it excludes the calls for the same list and no others.
-/

namespace Ticketing

open Foundation Python

/-! ## Calls -/

/-- What a call reads: the header `x-amzn-oidc-identity` and two fields of the
body; and what it makes up if it gets that far. -/
structure ReservationCall where
  identity : Option String
  userId : Json
  seatIds : Json
  reservationId : String
  expiresAt : String

/-- A call that has passed the checks, with its sorted seats. -/
structure ReservationOrder where
  userId : Json
  seatIds : List String
  reservationId : String
  expiresAt : String

/-- How the code in front of `try` ends. -/
inductive ReservationCheck where
  | missing
  /-- the seats cannot be sorted or joined -/
  | raises
  | ready (order : ReservationOrder)

def textOf : Json → Option String
  | .str text => some text
  | _ => none

/-- `sorted(seat_ids)`, as far as `','.join` takes it. -/
def sortedSeatIds (seatIds : Json) : Option (List String) := do
  let texts ← (← seatIds.iterate).mapM textOf
  return texts.insertionSort (· ≤ ·)

/-- `create_reservation` in front of `try`. -/
def readReservation (eventId : String) (call : ReservationCall) : ReservationCheck :=
  let userId := ((call.identity.map Json.str).getD .null).orElse call.userId
  if userId.truthy && decide (eventId ≠ "") && call.seatIds.truthy then
    match sortedSeatIds call.seatIds with
    | none => .raises
    | some seatIds => .ready ⟨userId, seatIds, call.reservationId, call.expiresAt⟩
  else .missing

/-- The values that redis-py sends: it refuses truth values, lists, objects and
None. -/
def redisAccepts : Json → Bool
  | .int _ | .float _ | .str _ => true
  | .null | .bool _ | .arr _ | .obj _ => false

/-- `lock_key`. -/
def lockKey (eventId : String) (seatIds : List String) : String :=
  "seat:lock:" ++ eventId ++ ":" ++ joinStr "," seatIds

/-- The message body. -/
def ReservationOrder.message (eventId : String) (order : ReservationOrder) (seatIds : Json) :
    Json :=
  .obj [("reservationId", .str order.reservationId), ("userId", order.userId),
    ("eventId", .str eventId), ("seatIds", seatIds), ("expiresAt", .str order.expiresAt),
    ("lockKey", .str (lockKey eventId order.seatIds))]

/-! ## Answers -/

inductive ReservationReply where
  | missing
  | seatLocked
  | soldOut
  | pending (reservationId expiresAt : String)
  | failed
deriving DecidableEq, Repr

def ReservationReply.statusCode : ReservationReply → Nat
  | .missing => 400
  | .seatLocked | .soldOut => 409
  | .pending _ _ => 202
  | .failed => 500

def ReservationReply.toJson : ReservationReply → Json
  | .missing => .obj [("error", .str "필수 파라미터 누락")]
  | .seatLocked => .obj [("error", .str "다른 사용자가 선택 중인 좌석입니다")]
  | .soldOut => .obj [("error", .str "잔여 좌석이 부족합니다")]
  | .pending reservationId expiresAt => .obj [("status", .str "PENDING"),
      ("reservationId", .str reservationId), ("expiresAt", .str expiresAt),
      ("message", .str "예매 접수 완료. 10분 내 결제를 완료해 주세요.")]
  | .failed => .obj [("error", .str "예매 처리 중 오류가 발생했습니다")]

/-! ## Phases -/

/-- How far a call has come; most phases wait for one command. -/
inductive ReservationPhase where
  | idle
  /-- in front of SET NX -/
  | locking (order : ReservationOrder)
  /-- in front of DECRBY -/
  | locked (order : ReservationOrder)
  /-- the stock is below zero, in front of INCRBY -/
  | overdrawn (order : ReservationOrder)
  /-- in front of the DEL of a call that is sold out -/
  | restocked (order : ReservationOrder)
  /-- in front of `send_message` -/
  | stocked (order : ReservationOrder)
  /-- in the `except` branch in front of DEL; whether the lock there is its own -/
  | failing (owns : Bool) (order : ReservationOrder)
  /-- in the `except` branch in front of INCRBY -/
  | unlocked (order : ReservationOrder)
  | answered (reply : ReservationReply)
  /-- answered 202 -/
  | pending (order : ReservationOrder)
  /-- left by an exception -/
  | crashed

/-- What the calls share. -/
structure ReservationStores where
  locks : Leases String Json
  stock : Int
  sent : List Json

structure ReservationState where
  stores : ReservationStores
  phase : Nat → ReservationPhase

namespace ReservationPhase

/-- What the call has been answered. -/
def reply : ReservationPhase → Option ReservationReply
  | answered reply => some reply
  | pending order => some (.pending order.reservationId order.expiresAt)
  | _ => none

/-- The order whose lock the call holds. -/
def claims : ReservationPhase → Option ReservationOrder
  | locked order | overdrawn order | restocked order | stocked order | failing true order
  | pending order => some order
  | _ => none

def order : ReservationPhase → Option ReservationOrder
  | locking order | locked order | overdrawn order | restocked order | stocked order
  | failing _ order | unlocked order | pending order => some order
  | idle | answered _ | crashed => none

/-- What the command does that the phase waits for. -/
def effect (eventId : String) (seatIds : Json) (stores : ReservationStores) :
    ReservationPhase → ReservationStores
  | locking order =>
      if redisAccepts order.userId then
        { stores with locks := (stores.locks.setNx order.userId (lockKey eventId order.seatIds)).2 }
      else stores
  | locked order => { stores with stock := stores.stock - order.seatIds.length }
  | overdrawn order | unlocked order =>
      { stores with stock := stores.stock + order.seatIds.length }
  | restocked order | failing _ order =>
      { stores with locks := stores.locks.del [lockKey eventId order.seatIds] }
  | stocked order => { stores with sent := stores.sent ++ [order.message eventId seatIds] }
  | idle | answered _ | pending _ | crashed => stores

/-- The phase after the command has been answered. -/
def proceed (eventId : String) (stores : ReservationStores) :
    ReservationPhase → Option ReservationPhase
  | locking order =>
      if redisAccepts order.userId then
        if stores.locks.free (lockKey eventId order.seatIds) then some (locked order)
        else some (answered .seatLocked)
      -- redis-py raises in front of the command
      else none
  | locked order =>
      if stores.stock - order.seatIds.length < 0 then some (overdrawn order)
      else some (stocked order)
  | overdrawn order => some (restocked order)
  | restocked _ => some (answered .soldOut)
  | stocked order => some (pending order)
  | failing _ order => some (unlocked order)
  | unlocked _ => some (answered .failed)
  | idle | answered _ | pending _ | crashed => none

/-- The phase after the command has raised, before or after it took effect. -/
def raise (eventId : String) (stores : ReservationStores) (executed : Bool) :
    ReservationPhase → Option ReservationPhase
  | locking order =>
      some (failing (executed && redisAccepts order.userId &&
        stores.locks.free (lockKey eventId order.seatIds)) order)
  | locked order | overdrawn order | stocked order => some (failing true order)
  | restocked order => some (failing (!executed) order)
  -- nothing catches an exception of the `except` branch
  | failing _ _ | unlocked _ => some crashed
  | idle | answered _ | pending _ | crashed => none

end ReservationPhase

inductive ReservationStep where
  /-- the code in front of `try` -/
  | start (call : Nat)
  /-- the next command of the call -/
  | proceed (call : Nat)
  | raise (call : Nat) (executed : Bool)
deriving DecidableEq, Repr

def ReservationState.move (s : ReservationState) (call : Nat) (phase : ReservationPhase)
    (stores : ReservationStores) : ReservationState :=
  ⟨stores, fun other => if other = call then phase else s.phase other⟩

section Steps

variable (eventId : String) (calls : Nat → ReservationCall)

def reservationStep (s : ReservationState) : ReservationStep → Option ReservationState
  | .start call =>
      match s.phase call with
      | .idle =>
          match readReservation eventId (calls call) with
          | .missing => some (s.move call (.answered .missing) s.stores)
          | .raises => some (s.move call .crashed s.stores)
          | .ready order => some (s.move call (.locking order) s.stores)
      | _ => none
  | .proceed call =>
      ((s.phase call).proceed eventId s.stores).map fun phase =>
        s.move call phase ((s.phase call).effect eventId (calls call).seatIds s.stores)
  | .raise call executed =>
      ((s.phase call).raise eventId s.stores executed).map fun phase =>
        s.move call phase
          (if executed then (s.phase call).effect eventId (calls call).seatIds s.stores
            else s.stores)

def reservationMachine : Machine ReservationState ReservationStep :=
  ⟨reservationStep eventId calls⟩

end Steps

end Ticketing
