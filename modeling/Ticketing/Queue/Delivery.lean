import Ticketing.Foundation.Machine
import Ticketing.Worker.Handler

/-!
# Deliveries of one message

One booking reference: its message in the queue, every delivery of it to a
worker, and the result key in Redis. A delivery is `_handle_one_sqs_message`
cut at each of its accesses to Redis, the database and the queue; between any
two of them other deliveries move, the worker may crash, keys expire, and other
requests and refunds change the database.
-/

namespace Ticketing

open Foundation Python

/-- How a `setex` goes. An exception does not say whether the value was
stored. -/
inductive RedisWrite where
  | done
  | raised (stored : Bool)
deriving DecidableEq, Repr

def RedisWrite.stores : RedisWrite → Bool
  | .done => true
  | .raised stored => stored

def RedisWrite.raises : RedisWrite → Bool
  | .done => false
  | .raised _ => true

/-- Where a delivery stands. -/
inductive Phase where
  /-- before the look at the result key -/
  | received
  /-- before the transaction -/
  | checked
  /-- after the transaction, before the first write of a result -/
  | decided (verdict : Verdict)
  /-- in `except Exception` after that write has raised -/
  | recovering (message : String)
  /-- the handler has returned True, the message is not yet deleted -/
  | acking
  /-- nothing more will happen -/
  | ended
deriving DecidableEq, Repr

/-- The world as far as one booking reference is concerned. `commits` lists the
booking ids of the transactions that its deliveries have committed, the latest
first; `deliveries` are numbered in the order of their receipt. -/
structure DeliveryState where
  db : Db
  result : Option BookingResult
  commits : List Int
  deleted : Bool
  deliveries : List Phase

/-- What can happen next. `other` is a transaction on behalf of somebody else. -/
inductive DeliveryStep where
  | receive
  | check (delivery : Nat) (readable : Bool)
  | process (delivery : Nat) (env : Env) (codes : Nat → String)
  | write (delivery : Nat) (outcome : RedisWrite) (message : String)
  | recover (delivery : Nat) (rollback : Bool) (outcome : RedisWrite)
  | ack (delivery : Nat) (succeeds : Bool)
  | crash (delivery : Nat)
  | expire
  | other (step : DbStep)

/-- `maxReceiveCount` of the queue's redrive policy. -/
def maxReceiveCount : Nat := 3

/-- `isinstance(ref, str) and ref`: only then is the result key looked at. -/
def hasRef (body : Json) : Bool :=
  match body.get "booking_ref" with
  | .str text => text ≠ ""
  | _ => false

/-- The booking that a verdict has committed. -/
def Verdict.committedId : Verdict → Option Int
  | .committed receipt _ => some receipt.bookingId
  | _ => none

namespace DeliveryState

def setPhase (s : DeliveryState) (delivery : Nat) (phase : Phase) : DeliveryState :=
  { s with deliveries := s.deliveries.set delivery phase }

/-- A write that stores `result` if it stores anything. -/
def put (s : DeliveryState) (result : BookingResult) (outcome : RedisWrite) : DeliveryState :=
  if outcome.stores then { s with result := some result } else s

/-- The transaction of a delivery, and where it leaves the delivery. -/
def commit (s : DeliveryState) (delivery : Nat) (verdict : Verdict) (db : Db) : DeliveryState :=
  { s with
    db := db
    commits := verdict.committedId.toList ++ s.commits
    deliveries := s.deliveries.set delivery
      (if verdict.result.isSome then .decided verdict else .ended) }

/-- Where a delivery goes after the first write of its result. -/
def afterWrite (verdict : Verdict) (outcome : RedisWrite) (message : String) : Phase :=
  if outcome.raises then
    if verdict.insideTry then .recovering message else .ended
  else .acking

end DeliveryState

/-- One step for the message with this body. -/
def deliveryStep (body : Json) (s : DeliveryState) : DeliveryStep → Option DeliveryState
  | .receive =>
      -- one delivery more would move the message to the dead-letter queue
      if s.deleted = false ∧ s.deliveries.length < maxReceiveCount then
        some { s with deliveries := s.deliveries ++ [.received] }
      else none
  | .check delivery readable =>
      match s.deliveries[delivery]? with
      | some .received =>
          -- a result that cannot be read counts as missing
          some (s.setPhase delivery
            (if hasRef body && readable && s.result.isSome then .acking else .checked))
      | _ => none
  | .process delivery env codes =>
      match s.deliveries[delivery]? with
      | some .checked =>
          let (verdict, db) := processBooking env codes body s.db
          some (s.commit delivery verdict db)
      | _ => none
  | .write delivery outcome message =>
      match s.deliveries[delivery]? with
      | some (.decided verdict) =>
          verdict.result.map fun result =>
            (s.put result outcome).setPhase delivery
              (DeliveryState.afterWrite verdict outcome message)
      | _ => none
  | .recover delivery rollback outcome =>
      match s.deliveries[delivery]? with
      | some (.recovering message) =>
          -- `conn.rollback()` stands in front of the second write
          if rollback then
            some ((s.put (.failure .error (some message)) outcome).setPhase delivery
              (if outcome.raises then .ended else .acking))
          else some (s.setPhase delivery .ended)
      | _ => none
  | .ack delivery succeeds =>
      match s.deliveries[delivery]? with
      | some .acking => some { s.setPhase delivery .ended with deleted := s.deleted || succeeds }
      | _ => none
  | .crash delivery =>
      if delivery < s.deliveries.length then some (s.setPhase delivery .ended) else none
  | .expire => some { s with result := none }
  | .other step => some { s with db := step.apply s.db }

def deliveryMachine (body : Json) : Machine DeliveryState DeliveryStep := ⟨deliveryStep body⟩

/-- The message has been sent and nobody has received it yet. -/
def DeliveryState.initial (db : Db) : DeliveryState := ⟨db, none, [], false, []⟩

/-- The result that a step puts under the result key. -/
def storedBy (s : DeliveryState) : DeliveryStep → Option BookingResult
  | .write delivery outcome _ =>
      match s.deliveries[delivery]? with
      | some (.decided verdict) => if outcome.stores then verdict.result else none
      | _ => none
  | .recover delivery rollback outcome =>
      match s.deliveries[delivery]? with
      | some (.recovering message) =>
          if rollback && outcome.stores then some (.failure .error (some message)) else none
      | _ => none
  | _ => none

/-! ## What a step does -/

section Steps

variable {body : Json} {s next : DeliveryState} {delivery : Nat}

theorem receive_eq_some (h : deliveryStep body s .receive = some next) :
    next = { s with deliveries := s.deliveries ++ [.received] } := by
  unfold deliveryStep at h
  dsimp only at h
  split at h
  next => exact (Option.some.inj h).symm
  next => cases h

theorem check_eq_some {readable : Bool}
    (h : deliveryStep body s (.check delivery readable) = some next) :
    s.deliveries[delivery]? = some .received ∧
      (next = s.setPhase delivery .acking ∨ next = s.setPhase delivery .checked) := by
  unfold deliveryStep at h
  dsimp only at h
  split at h
  next hphase =>
    refine ⟨hphase, ?_⟩
    split at h
    next => exact .inl (Option.some.inj h).symm
    next => exact .inr (Option.some.inj h).symm
  next => cases h

theorem process_eq_some {env : Env} {codes : Nat → String}
    (h : deliveryStep body s (.process delivery env codes) = some next) :
    s.deliveries[delivery]? = some .checked ∧
      next = s.commit delivery (processBooking env codes body s.db).1
        (processBooking env codes body s.db).2 := by
  unfold deliveryStep at h
  dsimp only at h
  split at h
  next hphase => exact ⟨hphase, (Option.some.inj h).symm⟩
  next => cases h

theorem write_eq_some {outcome : RedisWrite} {message : String}
    (h : deliveryStep body s (.write delivery outcome message) = some next) :
    ∃ verdict result, s.deliveries[delivery]? = some (.decided verdict) ∧
      verdict.result = some result ∧
      next = (s.put result outcome).setPhase delivery
        (DeliveryState.afterWrite verdict outcome message) := by
  unfold deliveryStep at h
  dsimp only at h
  split at h
  next verdict hphase =>
    obtain ⟨result, hresult, hnext⟩ := Option.map_eq_some_iff.mp h
    exact ⟨verdict, result, hphase, hresult, hnext.symm⟩
  next => cases h

theorem recover_eq_some {rollback : Bool} {outcome : RedisWrite}
    (h : deliveryStep body s (.recover delivery rollback outcome) = some next) :
    ∃ message phase, s.deliveries[delivery]? = some (.recovering message) ∧
      (phase = .ended ∨ phase = .acking) ∧
      (rollback = true ∧
          next = (s.put (.failure .error (some message)) outcome).setPhase delivery phase ∨
        rollback = false ∧ next = s.setPhase delivery phase) := by
  unfold deliveryStep at h
  dsimp only at h
  split at h
  next message hphase =>
    split at h
    next hrollback =>
      refine ⟨message, _, hphase, ?_, .inl ⟨hrollback, (Option.some.inj h).symm⟩⟩
      split
      next => exact .inl rfl
      next => exact .inr rfl
    next hrollback =>
      exact ⟨message, .ended, hphase, .inl rfl,
        .inr ⟨by simpa using hrollback, (Option.some.inj h).symm⟩⟩
  next => cases h

theorem ack_eq_some {succeeds : Bool}
    (h : deliveryStep body s (.ack delivery succeeds) = some next) :
    next = { s.setPhase delivery .ended with deleted := s.deleted || succeeds } := by
  unfold deliveryStep at h
  dsimp only at h
  split at h
  next => exact (Option.some.inj h).symm
  next => cases h

theorem crash_eq_some (h : deliveryStep body s (.crash delivery) = some next) :
    next = s.setPhase delivery .ended := by
  unfold deliveryStep at h
  dsimp only at h
  split at h
  next => exact (Option.some.inj h).symm
  next => cases h

end Steps

@[simp] theorem DeliveryState.commits_put (s : DeliveryState) (result : BookingResult)
    (outcome : RedisWrite) : (s.put result outcome).commits = s.commits := by
  unfold put
  split <;> rfl

@[simp] theorem DeliveryState.deliveries_put (s : DeliveryState) (result : BookingResult)
    (outcome : RedisWrite) : (s.put result outcome).deliveries = s.deliveries := by
  unfold put
  split <;> rfl

@[simp] theorem DeliveryState.db_put (s : DeliveryState) (result : BookingResult)
    (outcome : RedisWrite) : (s.put result outcome).db = s.db := by
  unfold put
  split <;> rfl

theorem DeliveryState.result_put (s : DeliveryState) (result : BookingResult)
    (outcome : RedisWrite) :
    (s.put result outcome).result = (if outcome.stores then some result else none).or s.result := by
  unfold put
  split <;> rfl

/-- The result key changes by `storedBy`, and by expiry. -/
theorem result_step {body : Json} {s next : DeliveryState} {a : DeliveryStep}
    (h : deliveryStep body s a = some next) :
    a = .expire ∧ next.result = none ∨ next.result = (storedBy s a).or s.result := by
  cases a with
  | receive => rw [receive_eq_some h]; exact .inr rfl
  | check delivery readable =>
      obtain ⟨_, rfl | rfl⟩ := check_eq_some h
      · exact .inr rfl
      · exact .inr rfl
  | process delivery env codes => rw [(process_eq_some h).2]; exact .inr rfl
  | write delivery outcome message =>
      obtain ⟨verdict, result, hphase, hresult, rfl⟩ := write_eq_some h
      right
      simp only [storedBy, hphase, hresult]
      exact s.result_put result outcome
  | recover delivery rollback outcome =>
      right
      obtain ⟨message, phase, hphase, _, ⟨rfl, rfl⟩ | ⟨rfl, rfl⟩⟩ := recover_eq_some h
      · simp only [storedBy, hphase, Bool.true_and]
        exact s.result_put _ outcome
      · simp only [storedBy, hphase, Bool.false_and, Bool.false_eq_true, ↓reduceIte]
        rfl
  | ack delivery succeeds => rw [ack_eq_some h]; exact .inr rfl
  | crash delivery => rw [crash_eq_some h]; exact .inr rfl
  | expire => cases h; exact .inl ⟨rfl, rfl⟩
  | other step => cases h; exact .inr rfl

end Ticketing
