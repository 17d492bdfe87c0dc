import Ticketing.Foundation.Machine
import Ticketing.Worker.Message

/-!
# Polling for a result

`send_booking_message` marks a reference as queued after the message is in the
queue; a worker stores the result and then removes the mark; a poll reads the
result and then the mark. A poll changes neither key, so a poll is the pair of
moments at which it reads, and any number of polls is any number of such pairs.
-/

namespace Ticketing

open Foundation Python

/-! ## The reply -/

def processingReply (bookingRef : String) : Json :=
  .obj [("status", .str "PROCESSING"), ("booking_ref", .str bookingRef)]

def unknownReply (bookingRef : String) : Json :=
  .obj [("status", .str "UNKNOWN_OR_EXPIRED"), ("booking_ref", .str bookingRef),
    ("message", .str "요청이 없거나 대기 TTL이 지났습니다. 새로 예매를 시도하세요.")]

/-- `get_booking_status_dict` for a reference that `_valid_booking_ref` accepts;
`send_booking_message` hands out no other. `result` and `queued` are what the two
reads find, the second of which only happens if the first finds nothing. -/
def getBookingStatusDict (bookingRef : String) (result : Option BookingResult) (queued : Bool) :
    Json :=
  match result with
  | some result => result.toJson
  | none => if queued then processingReply bookingRef else unknownReply bookingRef

/-- The text of the field `status`. -/
def statusOf (reply : Json) : Option String :=
  match reply.item "status" with
  | some (.str text) => some text
  | _ => none

/-- The field `ok`. -/
def okOf (reply : Json) : Option Bool :=
  match reply.item "ok" with
  | some (.bool ok) => some ok
  | _ => none

/-- `isTerminalAsyncBookingStatus` of the browser, for a reply that is an
object. -/
def isTerminalAsyncBookingStatus (reply : Json) : Bool :=
  if statusOf reply = some "PROCESSING" then false
  else if statusOf reply = some "UNKNOWN_OR_EXPIRED" ∨ statusOf reply = some "INVALID_REF" then true
  else (reply.item "ok").isSome

@[simp] theorem statusOf_toJson (result : BookingResult) : statusOf result.toJson = none := by
  cases result with
  | success receipt remain => rfl
  | failure code message => cases message <;> rfl

@[simp] theorem item_ok_toJson (result : BookingResult) :
    result.toJson.item "ok" = some (.bool result.ok) := by
  cases result with
  | success receipt remain => rfl
  | failure code message => cases message <;> rfl

@[simp] theorem okOf_toJson (result : BookingResult) : okOf result.toJson = some result.ok := by
  simp [okOf]

@[simp] theorem statusOf_processingReply (bookingRef : String) :
    statusOf (processingReply bookingRef) = some "PROCESSING" := rfl

@[simp] theorem statusOf_unknownReply (bookingRef : String) :
    statusOf (unknownReply bookingRef) = some "UNKNOWN_OR_EXPIRED" := rfl

/-- A reply has `ok` exactly if it is a stored result. -/
theorem okOf_getBookingStatusDict (bookingRef : String) (result : Option BookingResult)
    (queued : Bool) :
    okOf (getBookingStatusDict bookingRef result queued) = result.map BookingResult.ok := by
  cases result with
  | some result => exact okOf_toJson result
  | none => cases queued <;> rfl

/-- The browser goes on polling exactly while the reply is PROCESSING. -/
theorem isTerminal_getBookingStatusDict (bookingRef : String) (result : Option BookingResult)
    (queued : Bool) :
    isTerminalAsyncBookingStatus (getBookingStatusDict bookingRef result queued) = false ↔
      result = none ∧ queued = true := by
  cases result with
  | some result =>
      simp [getBookingStatusDict, isTerminalAsyncBookingStatus]
  | none => cases queued <;> simp [getBookingStatusDict, isTerminalAsyncBookingStatus]

/-! ## The writers -/

/-- The two keys of a reference, how far the sender is, and how many workers
stand between storing the result and removing the mark. -/
structure StatusState where
  sent : Bool
  marked : Bool
  responded : Bool
  result : Option BookingResult
  queued : Bool
  removing : Nat
deriving DecidableEq

inductive StatusStep where
  /-- `sqs.send_message` -/
  | send
  /-- `setex(booking:queued:{ref})` -/
  | mark
  /-- the response of the commit with the reference -/
  | respond
  /-- `setex(booking:result:{ref})`, of the first or a later delivery -/
  | storeResult (result : BookingResult)
  /-- `delete(booking:queued:{ref})` of a worker that has stored its result -/
  | deleteQueued
deriving DecidableEq

/-- The sender moves in order; a worker can start as soon as the message is in
the queue. No Redis operation fails and no key expires. -/
def statusMachine : Machine StatusState StatusStep where
  step s
    | .send => if s.sent then none else some { s with sent := true }
    | .mark => if s.sent ∧ ¬ s.marked then some { s with marked := true, queued := true } else none
    | .respond => if s.marked ∧ ¬ s.responded then some { s with responded := true } else none
    | .storeResult result =>
        if s.sent then some { s with result := some result, removing := s.removing + 1 } else none
    | .deleteQueued =>
        if 0 < s.removing then some { s with queued := false, removing := s.removing - 1 } else none

def StatusState.initial : StatusState := ⟨false, false, false, none, false, 0⟩

/-! ## The window -/

/-- Before the first result nobody removes the mark. -/
structure StatusInv (s : StatusState) : Prop where
  ordered : s.responded = true → s.marked = true
  removing : s.result = none → s.removing = 0
  queued : s.result = none → s.marked = true → s.queued = true

theorem StatusInv.initial : StatusInv StatusState.initial := by
  constructor <;> simp [StatusState.initial]

theorem StatusInv.step {s next : StatusState} {a : StatusStep} (hinv : StatusInv s)
    (h : statusMachine.step s a = some next) : StatusInv next := by
  cases a with
  | send =>
      simp only [statusMachine] at h
      split at h
      next => cases h
      next => cases h; exact ⟨hinv.ordered, hinv.removing, hinv.queued⟩
  | mark =>
      simp only [statusMachine] at h
      split at h
      next => cases h; exact ⟨fun _ => rfl, hinv.removing, fun _ _ => rfl⟩
      next => cases h
  | respond =>
      simp only [statusMachine] at h
      split at h
      next hmarked => cases h; exact ⟨fun _ => hmarked.1, hinv.removing, hinv.queued⟩
      next => cases h
  | storeResult result =>
      simp only [statusMachine] at h
      split at h
      next => cases h; exact ⟨hinv.ordered, by simp, by simp⟩
      next => cases h
  | deleteQueued =>
      simp only [statusMachine] at h
      split at h
      next hpos =>
        -- whoever removes the mark has stored a result before
        have hstored : s.result ≠ none := fun hnone => by
          rw [hinv.removing hnone] at hpos
          exact absurd hpos (lt_irrefl 0)
        cases h
        exact ⟨hinv.ordered, fun hnone => absurd hnone hstored,
          fun hnone => absurd hnone hstored⟩
      next => cases h

theorem queued_step {s next : StatusState} {a : StatusStep} (hmarked : s.marked = true)
    (h : statusMachine.step s a = some next) :
    next.marked = true ∧ (next.queued = true ↔ s.queued = true ∧ a ≠ .deleteQueued) := by
  cases a <;> simp only [statusMachine] at h <;> split at h <;> cases h <;> simp_all

/-- Once the sender is through, the mark stays until a worker removes it. -/
theorem queued_run {s final : StatusState} {steps : List StatusStep} (hmarked : s.marked = true)
    (hrun : statusMachine.run s steps = some final) :
    final.queued = true ↔ s.queued = true ∧ .deleteQueued ∉ steps := by
  induction steps generalizing s with
  | nil =>
      obtain rfl : s = final := by simpa using hrun
      simp
  | cons a rest ih =>
      obtain ⟨next, hstep, hrest⟩ := statusMachine.run_cons_eq_some.mp hrun
      obtain ⟨hmarked', hqueued⟩ := queued_step hmarked hstep
      rw [ih hmarked' hrest, hqueued, List.mem_cons, not_or, and_assoc, ne_comm]

/-- A poll that starts after the response is answered with PROCESSING or the
stored result, except in one window: its first read comes before the first
result, and a worker removes the mark before its second. -/
theorem poll_answered_iff {before between : List StatusStep} {first second : StatusState}
    (bookingRef : String) (hbefore : statusMachine.run .initial before = some first)
    (hresponded : first.responded = true)
    (hbetween : statusMachine.run first between = some second) :
    (statusOf (getBookingStatusDict bookingRef first.result second.queued) = some "PROCESSING" ∨
      ∃ result, first.result = some result ∧
        getBookingStatusDict bookingRef first.result second.queued = result.toJson) ∧
      statusOf (getBookingStatusDict bookingRef first.result second.queued) ≠
        some "UNKNOWN_OR_EXPIRED" ↔
    ¬ (first.result = none ∧ .deleteQueued ∈ between) := by
  have hinv : StatusInv first :=
    Machine.run_invariant (fun _ _ _ hinv hstep => StatusInv.step hinv hstep) .initial hbefore
  have hmarked := hinv.ordered hresponded
  cases hresult : first.result with
  | some result => simp [getBookingStatusDict]
  | none =>
      have hqueued := queued_run hmarked hbetween
      rw [hinv.queued hresult hmarked] at hqueued
      by_cases hdeleted : .deleteQueued ∈ between
      · have hsecond : second.queued = false := by simpa [hdeleted] using hqueued
        simp [getBookingStatusDict, hsecond, hdeleted]
      · have hsecond : second.queued = true := by simpa [hdeleted] using hqueued
        simp [getBookingStatusDict, hsecond, hdeleted]

theorem poll_answered_iff_stored :
    statusOf (getBookingStatusDict "ref" (some (.failure .soldOut none)) false) ≠
      some "UNKNOWN_OR_EXPIRED" := by
  have h := (poll_answered_iff "ref"
    (show statusMachine.run .initial [.send, .mark, .respond,
        .storeResult (.failure .soldOut none)] = some _ from rfl) rfl
    (show statusMachine.run _ [.deleteQueued] = some _ from rfl)).mpr (by decide)
  exact h.2

/-- The response is out, the poll finds no result, the worker stores one and
removes the mark, the poll finds no mark. -/
theorem poll_unknown :
    ∃ first second,
      statusMachine.run .initial [.send, .mark, .respond] = some first ∧
      first.responded = true ∧
      statusMachine.run first [.storeResult (.failure .soldOut none), .deleteQueued] =
        some second ∧
      statusOf (getBookingStatusDict "ref" first.result second.queued) =
        some "UNKNOWN_OR_EXPIRED" ∧
      isTerminalAsyncBookingStatus (getBookingStatusDict "ref" first.result second.queued) =
        true :=
  ⟨_, _, rfl, rfl, rfl, by decide, by decide⟩

end Ticketing
