import Ticketing.Concert.Holding
import Ticketing.Concert.TryHold

/-!
# One commit at a time

`commit_concert_booking` as a whole call, with the way in which its message is
sent. The hold is taken before the message, and no exit behind it gives the hold
back, so a commit that cannot send leaves its seats held.
-/

namespace Ticketing

open Foundation Python

/-- How `send_booking_message` ends. -/
inductive SendOutcome where
  | sent
  /-- SQS_ENABLED is false -/
  | disabled
  /-- SQS_QUEUE_URL is empty -/
  | noQueueUrl
  /-- `send_message` raises, before or after the queue has got the message -/
  | failed (delivered : Bool)
deriving DecidableEq, Repr

/-- What `commit_concert_booking` leaves: its answer, none if an exception leaves
it, the holds, and the messages it has sent with their groups. -/
structure CommitRun where
  reply : Option CommitReply
  store : HoldStore
  sent : List (String × Json)

/-- `send_booking_message` for an order. The reference is the text of a UUID, so
it is sent and returned as it is; a failed `_mark_booking_queued` is only logged. -/
def sendBookingMessage (shards : Int) (order : ConcertOrder) (bookingRef : String) :
    SendOutcome → Option String × List (String × Json)
  | .sent => (some bookingRef, [(order.groupId shards, order.body bookingRef)])
  | .disabled | .noQueueUrl | .failed false => (none, [])
  | .failed true => (none, [(order.groupId shards, order.body bookingRef)])

/-- `commit_concert_booking`; `bookingRef` is the new UUID. -/
def commitConcertBooking (shards : Int) (sales : Int → Option Sale) (outcome : SendOutcome)
    (payload : Json) (bookingRef : String) (store : HoldStore) : CommitRun :=
  match readConcertOrder payload with
  | none => ⟨none, store, []⟩
  | some (.error reply) => ⟨some reply, store, []⟩
  | some (.ok order) =>
      if isOpen (sales order.showId) then
        match store.tryHoldSeats order.showId order.seats bookingRef with
        | (.held, store) =>
            let (returned, sent) := sendBookingMessage shards order bookingRef outcome
            ⟨returned.map .queued, store, sent⟩
        -- an order has seats, so the code is DUPLICATE_SEAT
        | (_, store) => ⟨some .duplicateSeat, store, []⟩
      else ⟨some (.salesClosed (getSaleState (sales order.showId))), store, []⟩

/-- The order of a payload for which seats are tried to be held. -/
def admittedOrder (sales : Int → Option Sale) (payload : Json) : Option ConcertOrder :=
  match readConcertOrder payload with
  | some (.ok order) => if isOpen (sales order.showId) then some order else none
  | _ => none

/-- The answer is QUEUED and the one message sent is that for the order of the
payload, whose seats the request has got, or the holds are as before. -/
def CommitRun.Compensated (shards : Int) (payload : Json) (before : HoldStore) (run : CommitRun) :
    Prop :=
  match run.reply with
  | some (.queued bookingRef) => ∃ order, readConcertOrder payload = some (.ok order) ∧
      run.sent = [(order.groupId shards, order.body bookingRef)] ∧
      before.Gained order.showId order.seats bookingRef run.store
  | _ => run.store = before

/-- An order whose seats are all free is sent, and any other one can be undone. -/
def SendsOrUndoes (outcome : SendOutcome) (order : ConcertOrder) (store : HoldStore) : Prop :=
  if store.AllFree order.showId order.seats then outcome = .sent
  else store.UndoesAll order.showId order.seats

instance (outcome : SendOutcome) (order : ConcertOrder) (store : HoldStore) :
    Decidable (SendsOrUndoes outcome order store) :=
  inferInstanceAs (Decidable (if store.AllFree order.showId order.seats then outcome = .sent
    else store.UndoesAll order.showId order.seats))

section Exits

variable {shards : Int} {sales : Int → Option Sale} {outcome : SendOutcome} {payload : Json}
  {bookingRef : String} {store after : HoldStore} {order : ConcertOrder}

theorem HoldStore.Gained.ne (hgained : store.Gained order.showId order.seats bookingRef after)
    (hfree : store.AllFree order.showId order.seats) : after ≠ store := by
  rintro rfl
  obtain ⟨seat, hseat⟩ := List.exists_mem_of_ne_nil _ order.nonempty
  have hholder := hgained.holder order.showId seat
  rw [if_pos ⟨rfl, hseat⟩, HoldStore.free_iff.mp (hfree seat hseat)] at hholder
  cases hholder

theorem admittedOrder_eq_some :
    admittedOrder sales payload = some order ↔
      readConcertOrder payload = some (.ok order) ∧ isOpen (sales order.showId) = true := by
  unfold admittedOrder
  split
  next found hread =>
    rw [hread, Option.some.injEq, Except.ok.injEq]
    split
    next hopen =>
      rw [Option.some.injEq]
      constructor
      · rintro rfl
        exact ⟨rfl, hopen⟩
      · exact And.left
    next hclosed =>
      simp only [reduceCtorEq, false_iff, not_and]
      rintro rfl
      exact hclosed
  next hread =>
    simp only [reduceCtorEq, false_iff, not_and]
    exact fun h => absurd h (hread order)

/-- The checks refuse a payload with a code of their own. -/
theorem checkConcertOrder_ne_queued {userId showId : Int} {seats : Json} {returned : String} :
    checkConcertOrder userId showId seats ≠ .error (.queued returned) := by
  unfold checkConcertOrder
  split
  next =>
    split
    next => simp
    next =>
      split
      next => simp
      next => split <;> simp
    next => simp
  next => simp

theorem readConcertOrder_ne_queued {returned : String} :
    readConcertOrder payload ≠ some (.error (.queued returned)) := by
  intro hread
  simp only [readConcertOrder, Option.bind_eq_bind, Option.bind_eq_some_iff, Option.pure_def,
    Option.some.injEq] at hread
  obtain ⟨userId, _, showId, _, hcheck⟩ := hread
  exact checkConcertOrder_ne_queued hcheck

/-- A payload that the checks answer, or that makes them raise, touches nothing. -/
theorem commit_of_not_admitted (hnone : admittedOrder sales payload = none) :
    (commitConcertBooking shards sales outcome payload bookingRef store).Compensated shards payload
      store := by
  unfold commitConcertBooking
  split
  next => rfl
  next reply hread =>
    unfold CommitRun.Compensated
    split
    next returned hqueued =>
      obtain rfl := Option.some.inj hqueued
      exact absurd hread readConcertOrder_ne_queued
    next => rfl
  next order hread =>
    split
    next hopen =>
      rw [admittedOrder_eq_some.mpr ⟨hread, hopen⟩] at hnone
      cases hnone
    next => rfl

/-- A send that succeeds is the only one that answers QUEUED. -/
theorem commit_of_allFree (hadmitted : admittedOrder sales payload = some order)
    (hfree : store.AllFree order.showId order.seats) :
    ∃ after, store.Gained order.showId order.seats bookingRef after ∧
      commitConcertBooking shards sales outcome payload bookingRef store =
        ⟨(sendBookingMessage shards order bookingRef outcome).1.map .queued, after,
          (sendBookingMessage shards order bookingRef outcome).2⟩ := by
  obtain ⟨hread, hopen⟩ := admittedOrder_eq_some.mp hadmitted
  obtain ⟨after, hcall, hgained⟩ :=
    @HoldStore.tryHoldSeats_of_allFree store order.showId order.seats bookingRef order.nodup
      order.nonempty hfree
  refine ⟨after, hgained, ?_⟩
  simp only [commitConcertBooking, hread, hopen, if_true, hcall]

theorem commit_of_taken (hadmitted : admittedOrder sales payload = some order)
    (htaken : ¬ store.AllFree order.showId order.seats) :
    commitConcertBooking shards sales outcome payload bookingRef store =
      ⟨some .duplicateSeat, (store.setHolds order.showId order.seats bookingRef).2.drop order.showId
        (order.seats.takeWhile (store.free order.showId)), []⟩ := by
  obtain ⟨hread, hopen⟩ := admittedOrder_eq_some.mp hadmitted
  have hcall := @HoldStore.tryHoldSeats_of_taken store order.showId order.seats bookingRef
    order.nodup order.nonempty htaken
  simp only [commitConcertBooking, hread, hopen, if_true, hcall]

/-- One commit answers QUEUED for its message, or leaves the holds as they were,
exactly if the payload stops at the checks, or its seats are all free and the send
succeeds, or a seat is taken and the refused hold can be undone. -/
theorem commitConcertBooking_compensated_iff (shards : Int) (sales : Int → Option Sale)
    (outcome : SendOutcome) (payload : Json) (bookingRef : String) (store : HoldStore) :
    (commitConcertBooking shards sales outcome payload bookingRef store).Compensated shards payload
        store ↔
      ∀ order, admittedOrder sales payload = some order → SendsOrUndoes outcome order store := by
  cases hadmitted : admittedOrder sales payload with
  | none =>
      refine iff_of_true (commit_of_not_admitted hadmitted) ?_
      intro order h
      cases h
  | some order =>
      simp only [Option.some.injEq, forall_eq', SendsOrUndoes]
      have hread := (admittedOrder_eq_some.mp hadmitted).1
      split
      next hfree =>
        obtain ⟨after, hgained, hrun⟩ :=
          @commit_of_allFree shards sales outcome payload bookingRef store order hadmitted hfree
        rw [hrun]
        have hne := hgained.ne hfree
        cases outcome with
        | sent => exact iff_of_true ⟨order, hread, rfl, hgained⟩ rfl
        | disabled | noQueueUrl => exact iff_of_false hne (by simp)
        | failed delivered => cases delivered <;> exact iff_of_false hne (by simp)
      next htaken =>
        rw [commit_of_taken hadmitted htaken]
        exact HoldStore.drop_setHolds_eq_iff order.nodup

end Exits

/-! ## A message that cannot be sent -/

/-- One seat of show 1, with SQS disabled. -/
def unsentCommit : CommitRun :=
  commitConcertBooking 64 (fun _ => none) .disabled (concertPayload 7 [.str "1-1"]) "first" .empty

/-- The request gets an exception, and its seat stays held. -/
theorem commit_keeps_hold :
    unsentCommit.reply = none ∧ unsentCommit.sent = [] ∧
      HoldStore.empty.holder 1 cornerSeat = none ∧
      unsentCommit.store.holder 1 cornerSeat = some "first" ∧
      ¬ unsentCommit.Compensated 64 (concertPayload 7 [.str "1-1"]) .empty := by
  have hreply : unsentCommit.reply = none := by decide +kernel
  have hheld : unsentCommit.store.holder 1 cornerSeat = some "first" := by decide +kernel
  refine ⟨hreply, rfl, rfl, hheld, ?_⟩
  intro hcompensated
  simp only [CommitRun.Compensated, hreply] at hcompensated
  rw [hcompensated] at hheld
  cases hheld

end Ticketing
