import Ticketing.Concert.Grid
import Ticketing.Concert.SeatHold
import Ticketing.Concert.Write

/-!
# Orders, holds and bookings

The concert side of the system: requests in `commit_concert_booking`, the worker,
refunds, and the expiry of Redis keys, in any interleaving. Every pipeline and
every transaction is one step, so other requests can come between the pipelines
of one `try_hold_seats`.
-/

namespace Ticketing

open Foundation Python

/-- How far the request with a booking reference has come. -/
inductive OrderStage where
  | unused
  /-- all its seats are held, the reserved set does not know it yet -/
  | granted (order : ConcertOrder)
  | reserved (order : ConcertOrder)
  /-- answered QUEUED; the message has no final result -/
  | queued (order : ConcertOrder)
  /-- the worker has finished with the message -/
  | handled (order : ConcertOrder)
  /-- a seat was taken; `held` is to be released -/
  | refused (order : ConcertOrder) (held : List Seat)
  /-- `release_seats` has read that it may delete `own` -/
  | releasing (order : ConcertOrder) (own : List Seat)
  /-- answered DUPLICATE_SEAT -/
  | rejected (order : ConcertOrder)
  /-- left by an exception of Redis or SQS -/
  | raised (order : ConcertOrder)

namespace OrderStage

/-- The order in the queue. A message can be delivered again after its final
result. -/
def message : OrderStage → Option ConcertOrder
  | queued order | handled order => some order
  | _ => none

/-- What the request has been answered. -/
def reply (bookingRef : String) : OrderStage → Option CommitReply
  | rejected _ => some .duplicateSeat
  | queued _ | handled _ => some (.queued bookingRef)
  | _ => none

/-- The order of which the worker has not told the result. -/
def awaited : OrderStage → Option ConcertOrder
  | queued order => some order
  | _ => none

/-- The order whose seats are to be added to the reserved set. -/
def toReserve : OrderStage → Option ConcertOrder
  | granted order => some order
  | _ => none

/-- The order of which some seats are to be released, with these seats. -/
def toDrop : OrderStage → Option (ConcertOrder × List Seat)
  | releasing order own => some (order, own)
  | _ => none

/-- The stage after the first pipeline of `try_hold_seats`. With nothing held
there is nothing to release. -/
def afterHold (order : ConcertOrder) (held : List Seat) (complete : Bool) : OrderStage :=
  if complete then granted order
  else if held = [] then rejected order
  else refused order held

/-- The stage after an exception in `commit_concert_booking`. -/
def afterRaise : OrderStage → Option OrderStage
  | granted order | reserved order | refused order _ | releasing order _ => some (raised order)
  | _ => none

/-- The stage after the worker has tried the message. An exception that leaves
the handler is no result. -/
def afterVerdict (stage : OrderStage) (order : ConcertOrder) (verdict : Verdict) : OrderStage :=
  if verdict = .raised then stage else handled order

end OrderStage

structure HoldState where
  db : Db
  store : HoldStore
  sales : Int → Option Sale
  stage : String → OrderStage

inductive HoldStep where
  /-- the checks and the first pipeline; `bookingRef` is the new UUID -/
  | commit (payload : Json) (bookingRef : String)
  | reserve (bookingRef : String)
  | send (bookingRef : String)
  | probe (bookingRef : String)
  | release (bookingRef : String)
  | raise (bookingRef : String)
  | handle (bookingRef : String) (env : Env) (codes : Nat → String)
  /-- the worker handles a message that no commit has sent -/
  | direct (env : Env) (codes : Nat → String) (body : Json)
  | refund (env : Env) (userId bookingId : Int)
  | setSale (showId : Int) (closed : Bool)
  | expireHold (showId : Int) (seat : Seat)
  | expireReserved (showId : Int)

namespace HoldState

def setStage (s : HoldState) (bookingRef : String) (stage : OrderStage) : HoldState :=
  { s with stage := fun other => if other = bookingRef then stage else s.stage other }

/-- The order of a payload that gets as far as `try_hold_seats`. -/
def admitted (s : HoldState) (payload : Json) : Option ConcertOrder :=
  match readConcertOrder payload with
  | some (.ok order) => if isOpen (s.sales order.showId) then some order else none
  | _ => none

/-- What `commit_concert_booking` answers without a hold. -/
def earlyReply (s : HoldState) (payload : Json) : Option CommitReply :=
  match readConcertOrder payload with
  | some (.ok order) =>
      if isOpen (s.sales order.showId) then none
      else some (.salesClosed (getSaleState (s.sales order.showId)))
  | some (.error reply) => some reply
  | none => none

/-- The first pipeline for an order. -/
def hold (s : HoldState) (order : ConcertOrder) (bookingRef : String) :
    (List Seat × Bool) × HoldStore :=
  s.store.setHolds order.showId order.seats bookingRef

end HoldState

def holdStep (s : HoldState) : HoldStep → Option HoldState
  | .commit payload bookingRef =>
      match s.admitted payload, s.stage bookingRef with
      -- answered by the checks
      | none, _ => some s
      | some order, .unused =>
          let ((held, complete), store) := s.hold order bookingRef
          some { s.setStage bookingRef (.afterHold order held complete) with store := store }
      -- a UUID is new
      | some _, _ => none
  | .reserve bookingRef =>
      match s.stage bookingRef with
      | .granted order => some { s.setStage bookingRef (.reserved order) with
          store := s.store.reserve order.showId order.seats }
      | _ => none
  | .send bookingRef =>
      match s.stage bookingRef with
      | .reserved order => some (s.setStage bookingRef (.queued order))
      | _ => none
  | .probe bookingRef =>
      match s.stage bookingRef with
      | .refused order held => some (s.setStage bookingRef
          (.releasing order (s.store.ownHolds order.showId held bookingRef)))
      | _ => none
  | .release bookingRef =>
      match s.stage bookingRef with
      | .releasing order own => some { s.setStage bookingRef (.rejected order) with
          store := s.store.drop order.showId own }
      | _ => none
  | .raise bookingRef => (s.stage bookingRef).afterRaise.map (s.setStage bookingRef)
  | .handle bookingRef env codes =>
      match (s.stage bookingRef).message with
      | none => none
      | some order =>
          let (verdict, db) := processConcertBooking env codes (order.body bookingRef) s.db
          some { s.setStage bookingRef ((s.stage bookingRef).afterVerdict order verdict) with
            db := db }
  | .direct env codes body => some { s with db := (processConcertBooking env codes body s.db).2 }
  | .refund env userId bookingId =>
      some { s with db := (refundConcertBooking env userId bookingId s.db).2 }
  | .setSale showId closed =>
      some { s with sales := fun other =>
        if other = showId then some ⟨closed, none⟩ else s.sales other }
  | .expireHold showId seat => some { s with store := s.store.expireHold showId seat }
  | .expireReserved showId => some { s with store := s.store.expireReserved showId }

def holdMachine : Machine HoldState HoldStep := ⟨holdStep⟩

theorem OrderStage.awaited_eq_some {stage : OrderStage} {order : ConcertOrder} :
    stage.awaited = some order ↔ stage = queued order := by
  cases stage with
  | queued found => simp [awaited]
  | unused | granted _ | reserved _ | handled _ | refused _ _ | releasing _ _ | rejected _
  | raised _ => simp [awaited]

/-- Nothing is held, reserved or under way. -/
def HoldState.initial (db : Db) : HoldState := ⟨db, .empty, fun _ => none, fun _ => .unused⟩

/-! ## What the steps do -/

section Inversion

variable {s next : HoldState} {bookingRef : String}

@[simp] theorem HoldState.setStage_same (s : HoldState) (stage : OrderStage) :
    (s.setStage bookingRef stage).stage bookingRef = stage := by
  simp [setStage]

theorem HoldState.setStage_other (s : HoldState) (stage : OrderStage) {other : String}
    (hother : other ≠ bookingRef) :
    (s.setStage bookingRef stage).stage other = s.stage other := by
  simp [setStage, hother]

theorem HoldState.setStage_stage (s : HoldState) (stage : OrderStage) (other : String) :
    (s.setStage bookingRef stage).stage other =
      if other = bookingRef then stage else s.stage other := rfl

/-- A commit changes nothing, or it has set the free ones of its hold keys. -/
theorem commit_cases {payload : Json} (h : holdStep s (.commit payload bookingRef) = some next) :
    (s.admitted payload = none ∧ next = s) ∨
      ∃ order held complete store, s.admitted payload = some order ∧
        s.stage bookingRef = .unused ∧ s.hold order bookingRef = ((held, complete), store) ∧
        next = { s.setStage bookingRef (.afterHold order held complete) with store := store } := by
  unfold holdStep at h
  dsimp only at h
  split at h
  next hnone => exact .inl ⟨hnone, (Option.some.inj h).symm⟩
  next order horder hstage =>
    exact .inr ⟨order, _, _, _, horder, hstage, rfl, (Option.some.inj h).symm⟩
  next => cases h

/-- A request that is answered by the checks changes nothing. -/
theorem commit_of_earlyReply {payload : Json} {reply : CommitReply}
    (hreply : s.earlyReply payload = some reply) :
    holdStep s (.commit payload bookingRef) = some s := by
  have hnone : s.admitted payload = none := by
    unfold HoldState.earlyReply at hreply
    unfold HoldState.admitted
    split at hreply
    next order horder =>
      split at hreply
      next => cases hreply
      next hclosed => simp only [horder, if_neg hclosed]
    next early hearly => simp only [hearly]
    next => cases hreply
  unfold holdStep
  simp only [hnone]

theorem reserve_cases (h : holdStep s (.reserve bookingRef) = some next) :
    ∃ order, s.stage bookingRef = .granted order ∧
      next = { s.setStage bookingRef (.reserved order) with
        store := s.store.reserve order.showId order.seats } := by
  unfold holdStep at h
  dsimp only at h
  split at h
  next order hstage => exact ⟨order, hstage, (Option.some.inj h).symm⟩
  next => cases h

theorem send_cases (h : holdStep s (.send bookingRef) = some next) :
    ∃ order, s.stage bookingRef = .reserved order ∧
      next = s.setStage bookingRef (.queued order) := by
  unfold holdStep at h
  dsimp only at h
  split at h
  next order hstage => exact ⟨order, hstage, (Option.some.inj h).symm⟩
  next => cases h

theorem probe_cases (h : holdStep s (.probe bookingRef) = some next) :
    ∃ order held, s.stage bookingRef = .refused order held ∧
      next = s.setStage bookingRef
        (.releasing order (s.store.ownHolds order.showId held bookingRef)) := by
  unfold holdStep at h
  dsimp only at h
  split at h
  next order held hstage => exact ⟨order, held, hstage, (Option.some.inj h).symm⟩
  next => cases h

theorem release_cases (h : holdStep s (.release bookingRef) = some next) :
    ∃ order own, s.stage bookingRef = .releasing order own ∧
      next = { s.setStage bookingRef (.rejected order) with
        store := s.store.drop order.showId own } := by
  unfold holdStep at h
  dsimp only at h
  split at h
  next order own hstage => exact ⟨order, own, hstage, (Option.some.inj h).symm⟩
  next => cases h

theorem raise_cases (h : holdStep s (.raise bookingRef) = some next) :
    ∃ stage, (s.stage bookingRef).afterRaise = some stage ∧
      next = s.setStage bookingRef stage := by
  obtain ⟨stage, hstage, hnext⟩ := Option.map_eq_some_iff.mp h
  exact ⟨stage, hstage, hnext.symm⟩

theorem handle_cases {env : Env} {codes : Nat → String}
    (h : holdStep s (.handle bookingRef env codes) = some next) :
    ∃ order verdict db, (s.stage bookingRef).message = some order ∧
      processConcertBooking env codes (order.body bookingRef) s.db = (verdict, db) ∧
      next = { s.setStage bookingRef ((s.stage bookingRef).afterVerdict order verdict) with
        db := db } := by
  unfold holdStep at h
  dsimp only at h
  split at h
  next => cases h
  next order hmessage => exact ⟨order, _, _, hmessage, rfl, (Option.some.inj h).symm⟩

/-- The step commits a booking that covers the seat. -/
def HoldStep.Books (s : HoldState) (showId : Int) (seat : Seat) : HoldStep → Prop
  | .handle bookingRef env codes =>
      ∃ order ∈ (s.stage bookingRef).message,
        BooksSeat env codes (order.body bookingRef) s.db showId seat
  | .direct env codes body => BooksSeat env codes body s.db showId seat
  | _ => False

theorem ConcertOrder.booksSeat_iff {order : ConcertOrder} {env : Env} {codes : Nat → String}
    {db : Db} {showId : Int} {seat : Seat} :
    BooksSeat env codes (order.body bookingRef) db showId seat ↔
      (processConcertBooking env codes (order.body bookingRef) db).1.isCommitted = true ∧
        showId = order.showId ∧ seat ∈ order.seats := by
  simp [BooksSeat, order.decodeRequest_body]

/-- What a step does to the database: nothing, or it handles one message, or it
is a refund. -/
theorem db_cases {a : HoldStep} (h : holdStep s a = some next) :
    (next.db = s.db ∧ ∀ showId seat, ¬ a.Books s showId seat) ∨
      (∃ env codes body, next.db = (processConcertBooking env codes body s.db).2 ∧
        ∀ showId seat, a.Books s showId seat ↔ BooksSeat env codes body s.db showId seat) ∨
      ∃ env userId bookingId, a = .refund env userId bookingId ∧
        next.db = (refundConcertBooking env userId bookingId s.db).2 := by
  cases a with
  | commit payload bookingRef =>
      rcases commit_cases h with ⟨_, rfl⟩ | ⟨_, _, _, _, _, _, _, rfl⟩
      · exact .inl ⟨rfl, fun _ _ => id⟩
      · exact .inl ⟨rfl, fun _ _ => id⟩
  | reserve bookingRef =>
      obtain ⟨_, _, rfl⟩ := reserve_cases h
      exact .inl ⟨rfl, fun _ _ => id⟩
  | send bookingRef =>
      obtain ⟨_, _, rfl⟩ := send_cases h
      exact .inl ⟨rfl, fun _ _ => id⟩
  | probe bookingRef =>
      obtain ⟨_, _, _, rfl⟩ := probe_cases h
      exact .inl ⟨rfl, fun _ _ => id⟩
  | release bookingRef =>
      obtain ⟨_, _, _, rfl⟩ := release_cases h
      exact .inl ⟨rfl, fun _ _ => id⟩
  | raise bookingRef =>
      obtain ⟨_, _, rfl⟩ := raise_cases h
      exact .inl ⟨rfl, fun _ _ => id⟩
  | handle bookingRef env codes =>
      obtain ⟨order, verdict, db, hmessage, hprocess, rfl⟩ := handle_cases h
      refine .inr (.inl ⟨env, codes, order.body bookingRef, ?_, fun showId seat => ?_⟩)
      · rw [hprocess]
      · rw [HoldStep.Books, hmessage]
        simp
  | direct env codes body =>
      obtain rfl := Option.some.inj h
      exact .inr (.inl ⟨env, codes, body, rfl, fun _ _ => Iff.rfl⟩)
  | refund env userId bookingId =>
      obtain rfl := Option.some.inj h
      exact .inr (.inr ⟨env, userId, bookingId, rfl, rfl⟩)
  | setSale _ _ | expireHold _ _ | expireReserved _ =>
      obtain rfl := Option.some.inj h
      exact .inl ⟨rfl, fun _ _ => id⟩

/-- The database goes through runs of the concert tables: a step keeps it, or
is a transaction on it. -/
theorem holdStep_db {a : HoldStep} (h : holdStep s a = some next) :
    next.db = s.db ∨ ∃ step, concertMachine.step s.db step = some next.db := by
  rcases db_cases h with ⟨hsame, _⟩ | ⟨env, codes, body, hdb, _⟩ |
    ⟨env, userId, bookingId, _, hdb⟩
  · exact .inl hsame
  · exact .inr ⟨.book env codes body, congrArg some hdb.symm⟩
  · exact .inr ⟨.refund env userId bookingId, congrArg some hdb.symm⟩

/-- A seat is ACTIVE after a step if it was before or the step books it, unless
the step is a refund. -/
theorem holdStep_active_iff {a : HoldStep} (h : holdStep s a = some next)
    (hrefund : ∀ env userId bookingId, a ≠ .refund env userId bookingId) {showId : Int}
    {seat : Seat} :
    next.db.concerts.Active showId seat ↔
      s.db.concerts.Active showId seat ∨ a.Books s showId seat := by
  rcases db_cases h with ⟨hsame, hnone⟩ | ⟨env, codes, body, hdb, hbooks⟩ |
    ⟨env, userId, bookingId, hsame, _⟩
  · rw [hsame]
    exact (or_iff_left (hnone showId seat)).symm
  · rw [hdb, hbooks]
    exact processConcertBooking_active
  · exact absurd hsame (hrefund env userId bookingId)

/-- No step makes a seat ACTIVE without booking it. -/
theorem active_of_holdStep {a : HoldStep} (h : holdStep s a = some next) {showId : Int}
    {seat : Seat} (hactive : next.db.concerts.Active showId seat) :
    s.db.concerts.Active showId seat ∨ a.Books s showId seat := by
  rcases db_cases h with ⟨hsame, _⟩ | ⟨env, codes, body, hdb, hbooks⟩ |
    ⟨env, userId, bookingId, _, hdb⟩
  · rw [hsame] at hactive
    exact .inl hactive
  · rw [hdb, processConcertBooking_active] at hactive
    rwa [hbooks]
  · rw [hdb] at hactive
    rcases refundConcertBooking_cases env userId bookingId s.db with
      hsame | ⟨booking, _, _, concerts, hnext, hrefunded⟩
    · rw [hsame] at hactive
      exact .inl hactive
    · rw [hnext] at hactive
      exact .inl (hrefunded.active_of_active hactive)

/-- The reserved sets change by the second pipelines of a hold and of a release,
and by expiry. -/
theorem reserved_cases {a : HoldStep} (h : holdStep s a = some next) :
    next.store.reserved = s.store.reserved ∨
      (∃ bookingRef order, a = .reserve bookingRef ∧ s.stage bookingRef = .granted order ∧
        next.store = s.store.reserve order.showId order.seats) ∨
      (∃ bookingRef order own, a = .release bookingRef ∧
        s.stage bookingRef = .releasing order own ∧ next.store = s.store.drop order.showId own) ∨
      ∃ showId, a = .expireReserved showId ∧ next.store = s.store.expireReserved showId := by
  cases a with
  | commit payload bookingRef =>
      rcases commit_cases h with ⟨_, rfl⟩ | ⟨order, held, complete, store, _, _, hhold, rfl⟩
      · exact .inl rfl
      · have hreserved : (s.hold order bookingRef).2.reserved = s.store.reserved :=
          HoldStore.setHolds_reserved
        rw [hhold] at hreserved
        exact .inl hreserved
  | reserve bookingRef =>
      obtain ⟨order, hstage, rfl⟩ := reserve_cases h
      exact .inr (.inl ⟨bookingRef, order, rfl, hstage, rfl⟩)
  | release bookingRef =>
      obtain ⟨order, own, hstage, rfl⟩ := release_cases h
      exact .inr (.inr (.inl ⟨bookingRef, order, own, rfl, hstage, rfl⟩))
  | send bookingRef =>
      obtain ⟨_, _, rfl⟩ := send_cases h
      exact .inl rfl
  | probe bookingRef =>
      obtain ⟨_, _, _, rfl⟩ := probe_cases h
      exact .inl rfl
  | raise bookingRef =>
      obtain ⟨_, _, rfl⟩ := raise_cases h
      exact .inl rfl
  | handle bookingRef env codes =>
      obtain ⟨_, _, _, _, _, rfl⟩ := handle_cases h
      exact .inl rfl
  | direct _ _ _ | refund _ _ _ | setSale _ _ | expireHold _ _ =>
      obtain rfl := Option.some.inj h
      exact .inl rfl
  | expireReserved showId =>
      obtain rfl := Option.some.inj h
      exact .inr (.inr (.inr ⟨showId, rfl, rfl⟩))

/-- How the stage of a request can change in one step. -/
inductive OrderStage.Moves : OrderStage → OrderStage → Prop where
  | hold (order : ConcertOrder) (held : List Seat) (complete : Bool) :
      Moves unused (afterHold order held complete)
  | reserve (order : ConcertOrder) : Moves (granted order) (reserved order)
  | send (order : ConcertOrder) : Moves (reserved order) (queued order)
  | probe (order : ConcertOrder) (held own : List Seat) :
      Moves (refused order held) (releasing order own)
  | release (order : ConcertOrder) (own : List Seat) : Moves (releasing order own) (rejected order)
  | raise {stage after : OrderStage} (h : stage.afterRaise = some after) : Moves stage after
  | handle {stage : OrderStage} {order : ConcertOrder} (h : stage.message = some order)
      (verdict : Verdict) : Moves stage (stage.afterVerdict order verdict)

theorem moves_of_holdStep {a : HoldStep} (h : holdStep s a = some next) (bookingRef : String) :
    next.stage bookingRef = s.stage bookingRef ∨
      (s.stage bookingRef).Moves (next.stage bookingRef) := by
  have hset : ∀ other stage, (s.stage other).Moves stage →
      (s.setStage other stage).stage bookingRef = s.stage bookingRef ∨
        (s.stage bookingRef).Moves ((s.setStage other stage).stage bookingRef) := by
    intro other stage hmoves
    rw [HoldState.setStage_stage]
    split
    next hsame => exact .inr (hsame ▸ hmoves)
    next => exact .inl rfl
  cases a with
  | commit payload other =>
      rcases commit_cases h with ⟨_, rfl⟩ | ⟨order, held, complete, _, _, hstage, _, rfl⟩
      · exact .inl rfl
      · exact hset other _ (hstage ▸ .hold order held complete)
  | reserve other =>
      obtain ⟨order, hstage, rfl⟩ := reserve_cases h
      exact hset other _ (hstage ▸ .reserve order)
  | send other =>
      obtain ⟨order, hstage, rfl⟩ := send_cases h
      exact hset other _ (hstage ▸ .send order)
  | probe other =>
      obtain ⟨order, held, hstage, rfl⟩ := probe_cases h
      exact hset other _ (hstage ▸ .probe order held _)
  | release other =>
      obtain ⟨order, own, hstage, rfl⟩ := release_cases h
      exact hset other _ (hstage ▸ .release order own)
  | raise other =>
      obtain ⟨stage, hstage, rfl⟩ := raise_cases h
      exact hset other _ (.raise hstage)
  | handle other env codes =>
      obtain ⟨order, verdict, db, hmessage, _, rfl⟩ := handle_cases h
      exact hset other _ (.handle hmessage verdict)
  | direct _ _ _ | refund _ _ _ | setSale _ _ | expireHold _ _ | expireReserved _ =>
      obtain rfl := Option.some.inj h
      exact .inl rfl

/-- An order that is in the queue stays there. -/
theorem OrderStage.Moves.message {stage after : OrderStage} (h : stage.Moves after)
    {order : ConcertOrder} (hmessage : stage.message = some order) :
    after.message = some order := by
  cases h with
  | hold | reserve | send | probe | release => cases hmessage
  | raise hraise =>
      cases stage with
      | queued | handled => cases hraise
      | unused | granted | reserved | refused | releasing | rejected | raised => cases hmessage
  | handle hfound verdict =>
      obtain rfl := Option.some.inj (hfound.symm.trans hmessage)
      unfold afterVerdict
      split
      next => exact hmessage
      next => rfl

theorem message_of_holdStep {a : HoldStep} (h : holdStep s a = some next) {order : ConcertOrder}
    (hmessage : (s.stage bookingRef).message = some order) :
    (next.stage bookingRef).message = some order := by
  rcases moves_of_holdStep h bookingRef with hsame | hmoves
  · rwa [hsame]
  · exact hmoves.message hmessage

/-- Behind the holds, the rows of a show stay sound. -/
theorem GridInv.holdStep {concertShow : ConcertShow} {a : HoldStep}
    (hinv : GridInv concertShow s.db) (h : holdStep s a = some next) :
    GridInv concertShow next.db := by
  rcases holdStep_db h with hsame | ⟨step, hstep⟩
  · rwa [hsame]
  · exact hinv.step hstep

end Inversion

/-! ## Requests for the show with two seats -/

/-- A payload for seats of show 1. -/
def concertPayload (userId : Int) (seats : List Json) : Json :=
  .obj [("user_id", .int userId), ("show_id", .int 1), ("seats", .arr seats)]

def cornerSeat : Seat := ⟨1, 1, Nat.one_pos, Nat.one_pos⟩

/-- A request that nobody gets in the way of, up to its queue message. -/
def orderSteps (bookingRef : String) (userId : Int) (seats : List Json) : List HoldStep :=
  [.commit (concertPayload userId seats) bookingRef, .reserve bookingRef, .send bookingRef]

end Ticketing
