import Ticketing.Ledger

/-!
# Messages and results of the worker

What both handlers read from a message body, what they decide, and which
results they write for it. The database half of a handler ends in a `Verdict`;
the writes to Redis that follow it are described here, because they are the
same for both.
-/

namespace Ticketing

open Foundation Python

/-! ## Message bodies -/

/-- What a handler takes from a body before it connects to the database. -/
structure Request where
  bookingRef : Json
  userId : Int
  showingId : Int
  seats : List Seat

/-- The first lines of both handlers; `showingField` is `schedule_id` or
`show_id`. `none` is an exception: a missing field, seats that cannot be
iterated, or an infinite number. -/
def decodeRequest (showingField : String) (body : Json) : Option Request := do
  let bookingRef ← body.item "booking_ref"
  let userId ← (← body.item "user_id").toInt 0
  let showingId ← (← body.item showingField).toInt 0
  let seats ← ((body.get "seats").orElse (.arr [])).iterate
  return ⟨bookingRef, userId, showingId, parseSeats seats⟩

/-- `_booking_result_key`. -/
def bookingResultKey (bookingRef : Json) : String := "booking:result:" ++ bookingRef.toStr

/-- `_booking_queued_key`. -/
def bookingQueuedKey (bookingRef : Json) : String := "booking:queued:" ++ bookingRef.toStr

/-- `body.get("booking_type", "theater") == "concert"`. -/
def isConcert (body : Json) : Bool :=
  match body.item "booking_type" with
  | some (.str text) => text = "concert"
  | _ => false

/-! ## Results -/

/-- The codes of results with `ok` false. -/
inductive FailCode where
  | notFound
  | invalidSeat
  | soldOut
  | duplicateSeat
  | error
deriving DecidableEq, Repr

def FailCode.text : FailCode → String
  | .notFound => "NOT_FOUND"
  | .invalidSeat => "INVALID_SEAT"
  | .soldOut => "SOLD_OUT"
  | .duplicateSeat => "DUPLICATE_SEAT"
  | .error => "ERROR"

/-- The dictionary that is stored for a booking reference. Only ERROR carries a
message. -/
inductive BookingResult where
  | success (receipt : Receipt) (remainCountAfter : Int)
  | failure (code : FailCode) (message : Option String)
deriving DecidableEq, Repr

def BookingResult.ok : BookingResult → Bool
  | .success _ _ => true
  | .failure _ _ => false

def BookingResult.toJson : BookingResult → Json
  | .success receipt remain => .obj [
      ("ok", .bool true), ("code", .str "OK"),
      ("booking_id", .int receipt.bookingId), ("booking_code", .str receipt.bookingCode),
      ("payment_id", .int receipt.paymentId), ("remain_count_after", .int remain)]
  | .failure code none => .obj [("ok", .bool false), ("code", .str code.text)]
  | .failure code (some message) =>
      .obj [("ok", .bool false), ("code", .str code.text), ("message", .str message)]

/-! ## Verdicts -/

/-- How the database half of a handler ends: an exception that leaves the
handler, a committed booking, an early return, or one of the two `except`
branches after a successful rollback. -/
inductive Verdict where
  | raised
  | committed (receipt : Receipt) (remainCountAfter : Int)
  | refused (code : FailCode)
  | integrity
  | error (message : String)
deriving DecidableEq, Repr

def Verdict.ofOutcome : Outcome (Receipt × Int) FailCode → Verdict
  | .commit (receipt, remain) => .committed receipt remain
  | .leave code => .refused code
  | .failed (.integrity _) => .integrity
  | .failed (.other text) => .error text
  | .lost => .raised

def Verdict.isCommitted : Verdict → Bool
  | .committed _ _ => true
  | _ => false

/-- The result that the handler writes, if it gets that far. -/
def Verdict.result : Verdict → Option BookingResult
  | .raised => none
  | .committed receipt remain => some (.success receipt remain)
  | .refused code => some (.failure code none)
  | .integrity => some (.failure .duplicateSeat none)
  | .error message => some (.failure .error (some message))

/-- The write stands inside `try`, so that an exception of it is answered by a
rollback and a second write, with the code ERROR. -/
def Verdict.insideTry : Verdict → Bool
  | .committed _ _ | .refused _ => true
  | .raised | .integrity | .error _ => false

theorem Verdict.ofOutcome_refused {outcome : Outcome (Receipt × Int) FailCode} {code : FailCode}
    (h : ofOutcome outcome = .refused code) : outcome = .leave code := by
  cases outcome with
  | commit value => cases h
  | leave other => cases h; rfl
  | failed error => cases error <;> cases h
  | lost => cases h

theorem Verdict.isCommitted_ofOutcome {outcome : Outcome (Receipt × Int) FailCode}
    (h : ∀ value, outcome ≠ .commit value) : (ofOutcome outcome).isCommitted = false := by
  cases outcome with
  | commit value => exact absurd rfl (h value)
  | leave code => rfl
  | failed error => cases error <;> rfl
  | lost => rfl

/-- Only a committed booking is answered with `ok` true. -/
theorem Verdict.ok_result {verdict : Verdict} {result : BookingResult}
    (h : verdict.result = some result) : result.ok = verdict.isCommitted := by
  cases verdict with
  | raised => cases h
  | committed receipt remain => cases h; rfl
  | refused code => cases h; rfl
  | integrity => cases h; rfl
  | error message => cases h; rfl

end Ticketing
