import Mathlib.Data.List.Basic
import Ticketing.Foundation.Machine
import Ticketing.Python.Value

/-!
# Payments for reservations

`process_payment` of `reserv-svc`, for any number of calls that interleave at
their statements. Every statement commits on its own, so a call that raises
leaves behind what it has written so far.
-/

namespace Ticketing

open Foundation Python

/-! ## Tables -/

/-- Values of `reservations.status`. -/
inductive ReservationStatus where
  | pending
  | confirmed
  | cancelled
  | expired
  | refunded
deriving DecidableEq, Repr

/-- Values of `seats.status`. -/
inductive EventSeatStatus where
  | available
  | reserved
  | sold
  | blocked
deriving DecidableEq, Repr

/-- Values of `payments.status`. -/
inductive PaymentStatus where
  | pending
  | paid
  | failed
  | refunded
deriving DecidableEq, Repr

/-- A row of `reservations` without its key; prices are in hundredths. -/
structure ReservationRow where
  status : ReservationStatus
  totalPrice : Int
deriving DecidableEq, Repr

/-- A row of `reservation_seats`. -/
structure ReservationSeat where
  reservationId : String
  seatId : String
deriving DecidableEq, Repr

/-- A row of `payments`. -/
structure ReservationPayment where
  reservationId : String
  amount : Int
  method : String
  status : PaymentStatus
deriving DecidableEq, Repr

/-- The tables; `reservations` and `seats` by their primary keys. -/
structure PaymentTables where
  reservations : String → Option ReservationRow
  reservationSeats : List ReservationSeat
  /-- `seats.status` -/
  seats : String → Option EventSeatStatus
  payments : List ReservationPayment

namespace PaymentTables

variable (db : PaymentTables)

def statusOf (reservationId : String) : Option ReservationStatus :=
  (db.reservations reservationId).map ReservationRow.status

/-- The reservation has the seat. -/
def seatOf (reservationId seatId : String) : Prop :=
  ⟨reservationId, seatId⟩ ∈ db.reservationSeats

instance (reservationId seatId : String) : Decidable (db.seatOf reservationId seatId) :=
  inferInstanceAs (Decidable (_ ∈ db.reservationSeats))

/-- The number of PAID payments for the reservation. -/
def paidCount (reservationId : String) : Nat :=
  db.payments.countP fun payment => payment.reservationId = reservationId ∧ payment.status = .paid

/-- INSERT INTO payments. -/
def insertPayment (reservationId : String) (amount : Int) (status : PaymentStatus) :
    PaymentTables :=
  { db with payments := db.payments ++ [⟨reservationId, amount, "CARD", status⟩] }

/-- UPDATE reservations SET status. -/
def setStatus (reservationId : String) (status : ReservationStatus) : PaymentTables :=
  { db with reservations := fun id =>
      if id = reservationId then (db.reservations id).map fun row => { row with status := status }
      else db.reservations id }

/-- UPDATE seats … SET s.status = 'AVAILABLE'. -/
def freeSeats (reservationId : String) : PaymentTables :=
  { db with seats := fun id =>
      if db.seatOf reservationId id then (db.seats id).map fun _ => .available
      else db.seats id }

end PaymentTables

/-! ## Calls -/

/-- What a call reads of its body. The caller is read too and not used. -/
structure PaymentCall where
  /-- empty if there is none -/
  reservationId : String
  approved : Json

inductive PaymentReply where
  | missing
  | unknown
  | confirmed (reservationId : String) (amount : Int)
  | cancelled (reservationId : String)
  | failed
deriving DecidableEq, Repr

/-- `float(…)` of an amount in hundredths. -/
def amountFloat (amount : Int) : PyFloat :=
  let tenths : Fin 10 := ⟨amount.natAbs / 10 % 10, Nat.mod_lt _ (Nat.succ_pos 9)⟩
  let hundredths : Fin 10 := ⟨amount.natAbs % 10, Nat.mod_lt _ (Nat.succ_pos 9)⟩
  .finite ⟨amount < 0, amount.natAbs / 100,
    if hundredths.val = 0 then [tenths] else [tenths, hundredths], none⟩ (amount.tdiv 100)

def PaymentReply.statusCode : PaymentReply → Nat
  | .missing => 400
  | .unknown => 404
  | .confirmed _ _ | .cancelled _ => 200
  | .failed => 500

def PaymentReply.toJson : PaymentReply → Json
  | .missing => .obj [("error", .str "예매 ID 필요")]
  | .unknown => .obj [("error", .str "예매를 찾을 수 없습니다")]
  | .confirmed reservationId amount => .obj [("status", .str "CONFIRMED"),
      ("reservationId", .str reservationId), ("amount", .float (amountFloat amount))]
  | .cancelled reservationId =>
      .obj [("status", .str "CANCELLED"), ("reservationId", .str reservationId)]
  | .failed => .obj [("error", .str "결제 처리 중 오류")]

/-- The statement a call is in front of. -/
inductive PaymentPhase where
  | idle
  | selecting
  /-- approved: INSERT, then UPDATE reservations -/
  | paying (totalPrice : Int)
  | confirming (totalPrice : Int)
  /-- rejected: INSERT, UPDATE reservations, UPDATE seats -/
  | refusing (totalPrice : Int)
  | cancelling
  | freeing
  | answered (reply : PaymentReply)
deriving DecidableEq, Repr

namespace PaymentPhase

/-- The tables after the statement. -/
def effect (call : PaymentCall) (db : PaymentTables) : PaymentPhase → PaymentTables
  | paying totalPrice => db.insertPayment call.reservationId totalPrice .paid
  | confirming _ => db.setStatus call.reservationId .confirmed
  | refusing totalPrice => db.insertPayment call.reservationId totalPrice .failed
  | cancelling => db.setStatus call.reservationId .cancelled
  | freeing => db.freeSeats call.reservationId
  | idle | selecting | answered _ => db

/-- The phase after the statement. -/
def proceed (call : PaymentCall) (db : PaymentTables) : PaymentPhase → Option PaymentPhase
  | idle => some (if call.reservationId = "" then answered .missing else selecting)
  | selecting =>
      match db.reservations call.reservationId with
      | none => some (answered .unknown)
      | some reservation =>
          some (if call.approved.truthy then paying reservation.totalPrice
            else refusing reservation.totalPrice)
  | paying totalPrice => some (confirming totalPrice)
  | confirming totalPrice => some (answered (.confirmed call.reservationId totalPrice))
  | refusing _ => some cancelling
  | cancelling => some freeing
  | freeing => some (answered (.cancelled call.reservationId))
  | answered _ => none

/-- The call is inside `try`. -/
def guarded : PaymentPhase → Bool
  | idle | answered _ => false
  | selecting | paying _ | confirming _ | refusing _ | cancelling | freeing => true

end PaymentPhase

structure PaymentState where
  db : PaymentTables
  phase : Nat → PaymentPhase

inductive PaymentStep where
  /-- the next statement of the call -/
  | proceed (call : Nat)
  /-- the next statement raises, and may have been executed -/
  | raise (call : Nat) (executed : Bool)
deriving DecidableEq, Repr

def PaymentState.move (s : PaymentState) (call : Nat) (phase : PaymentPhase)
    (db : PaymentTables) : PaymentState :=
  ⟨db, fun other => if other = call then phase else s.phase other⟩

section Steps

variable (calls : Nat → PaymentCall)

def paymentStep (s : PaymentState) : PaymentStep → Option PaymentState
  | .proceed call =>
      ((s.phase call).proceed (calls call) s.db).map fun phase =>
        s.move call phase ((s.phase call).effect (calls call) s.db)
  | .raise call executed =>
      if (s.phase call).guarded then
        some (s.move call (.answered .failed)
          (if executed then (s.phase call).effect (calls call) s.db else s.db))
      else none

/-- `process_payment`, called any number of times. -/
def paymentMachine : Machine PaymentState PaymentStep := ⟨paymentStep calls⟩

end Steps

end Ticketing
