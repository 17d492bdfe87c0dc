import Ticketing.Event.Queries
import Ticketing.Foundation.Machine

/-!
# Requests to event-svc

`list_events` and `get_seats`, for any number of requests that interleave at their commands
while the tables and the counters of the seats change. Each request looks into Redis first
and leaves a copy there that expires; nobody deletes a copy.
-/

namespace Ticketing

open Foundation Python

inductive EventCall where
  | list
  | seats (eventId : String)
deriving DecidableEq, Repr

def listKey : String := "events:list"

def seatsKey (eventId : String) : String := "seats:" ++ eventId

/-- The counter of `reserv-svc`. -/
def availableKey (eventId : String) : String := "seat:available:" ++ eventId

def EventCall.key : EventCall → String
  | .list => listKey
  | .seats eventId => seatsKey eventId

/-- The TTL of the copies, in milliseconds. -/
def listTtl : Nat := 30000

def seatsTtl : Nat := 5000

def EventCall.ttl : EventCall → Nat
  | .list => listTtl
  | .seats _ => seatsTtl

/-- A key of Redis: a copy and when it expires, or a counter. -/
inductive EventCell where
  | json (value : Json) (expires : Nat)
  | count (value : Int)

/-- Where a request is. It keeps when its rows have been read. -/
inductive EventPhase where
  | idle
  | missed
  | listing (rows : List ListedEvent) (since : Nat)
  | mapping (eventId : String) (rows : List EventSeat) (since : Nat)
  | counted (eventId : String) (rows : List EventSeat) (availableCount : Int) (since : Nat)
  /-- status 200, and when -/
  | answered (json : Json) (moment : Nat)
  /-- status 500 -/
  | failed

namespace EventPhase

def since : EventPhase → Option Nat
  | .listing _ since | .mapping _ _ since | .counted _ _ _ since => some since
  | .idle | .missed | .answered _ _ | .failed => none

/-- The arguments of SETEX. -/
def setex : EventPhase → Option (String × Nat × Json)
  | .listing rows _ => some (listKey, listTtl, listJson EventColumn.copy rows)
  | .counted eventId rows availableCount _ =>
      some (seatsKey eventId, seatsTtl, seatsJson EventColumn.copy eventId rows availableCount)
  | .idle | .missed | .mapping _ _ _ | .answered _ _ | .failed => none

/-- What is returned after SETEX. -/
def response : EventPhase → Json
  | .listing rows _ => listJson EventColumn.response rows
  | .counted eventId rows availableCount _ =>
      seatsJson EventColumn.response eventId rows availableCount
  | .idle | .missed | .mapping _ _ _ | .answered _ _ | .failed => .null

/-- When the request has been answered. -/
def moment : EventPhase → Option Nat
  | .answered _ moment => some moment
  | .idle | .missed | .listing _ _ | .mapping _ _ _ | .counted _ _ _ _ | .failed => none

theorem moment_eq_some {phase : EventPhase} {moment : Nat} (h : phase.moment = some moment) :
    ∃ json, phase = .answered json moment := by
  cases phase <;> cases h
  exact ⟨_, rfl⟩

/-- The `try` block is left. -/
def ended : EventPhase → Bool
  | .answered _ _ | .failed => true
  | .idle | .missed | .listing _ _ | .mapping _ _ _ | .counted _ _ _ _ => false

end EventPhase

section Service

variable {Weight : Type} [LinearOrder Weight] {weight : String → Weight}

structure EventState (weight : String → Weight) where
  now : Nat
  db : EventTables weight
  redis : String → Option EventCell
  phase : Nat → EventPhase

inductive EventStep (weight : String → Weight) where
  /-- time passes -/
  | tick (milliseconds : Nat)
  /-- other services write to the tables -/
  | write (db : EventTables weight)
  /-- `reserv-svc` changes a counter -/
  | count (eventId : String) (value : Int)
  /-- GET of the copy -/
  | get (request : Nat)
  /-- the SELECT is answered, before its LIMIT -/
  | selectEvents (request : Nat) (result : List ListedEvent)
  | selectSeats (request : Nat) (rows : List EventSeat)
  /-- GET of the counter -/
  | getCount (request : Nat)
  | setex (request : Nat)
  /-- the command in front of which the request is raises, executed or not -/
  | fail (request : Nat) (executed : Bool)

namespace EventState

def start (db : EventTables weight) : EventState weight where
  now := 0
  db := db
  redis := fun _ => none
  phase := fun _ => .idle

variable (s : EventState weight)

/-- GET, which does not see what has expired. -/
def get (key : String) : Option EventCell :=
  match s.redis key with
  | some (.json value expires) => if s.now < expires then some (.json value expires) else none
  | some (.count value) => some (.count value)
  | none => none

def set (key : String) (cell : EventCell) : EventState weight :=
  { s with redis := Function.update s.redis key (some cell) }

def move (request : Nat) (phase : EventPhase) : EventState weight :=
  { s with phase := Function.update s.phase request phase }

/-- SETEX, if the request is in front of it. -/
def put (request : Nat) : EventState weight :=
  match (s.phase request).setex with
  | some (key, ttl, value) => s.set key (.json value (s.now + ttl))
  | none => s

omit [LinearOrder Weight] in
@[simp] theorem set_redis_self (key : String) (cell : EventCell) :
    (s.set key cell).redis key = some cell :=
  Function.update_self ..

omit [LinearOrder Weight] in
theorem set_redis_of_ne {key other : String} (h : other ≠ key) (cell : EventCell) :
    (s.set key cell).redis other = s.redis other :=
  Function.update_of_ne h ..

end EventState

instance (db : EventTables weight) (eventId : String) (rows : List EventSeat) :
    Decidable (db.SeatsAnswer eventId rows) :=
  inferInstanceAs (Decidable (_ ∧ _))

instance (db : EventTables weight) (result : List ListedEvent) :
    Decidable (SortedBy (fun row : ListedEvent => OrderDual.toDual (sortParts row.startAt))
      db.listedEvents result) :=
  decidable_of_iff (_ ∧ _) ⟨fun h => ⟨h.1, h.2⟩, fun h => ⟨h.perm, h.sorted⟩⟩

variable (calls : Nat → EventCall)

def eventStep (s : EventState weight) : EventStep weight → Option (EventState weight)
  | .tick milliseconds => some { s with now := s.now + milliseconds }
  | .write db => some { s with db := db }
  | .count eventId value => some (s.set (availableKey eventId) (.count value))
  | .get request =>
      match s.phase request with
      | .idle =>
          match s.get (calls request).key with
          | some (.json value _) => some (s.move request (.answered value s.now))
          | some (.count value) => some (s.move request (.answered (.int value) s.now))
          | none => some (s.move request .missed)
      | _ => none
  | .selectEvents request result =>
      match s.phase request, calls request with
      | .missed, .list =>
          if SortedBy (fun row : ListedEvent => OrderDual.toDual (sortParts row.startAt))
              s.db.listedEvents result then
            some (s.move request (.listing (pageOf 50 0 result) s.now))
          else none
      | _, _ => none
  | .selectSeats request rows =>
      match s.phase request, calls request with
      | .missed, .seats eventId =>
          if s.db.SeatsAnswer eventId rows then
            some (s.move request (.mapping eventId rows s.now))
          else none
      | _, _ => none
  | .getCount request =>
      match s.phase request with
      | .mapping eventId rows since =>
          match s.get (availableKey eventId) with
          | some (.count value) => some (s.move request (.counted eventId rows value since))
          -- `int()` of an array or an object raises
          | some (.json _ _) => some (s.move request .failed)
          | none =>
              let available := rows.countP fun seat => seat.status = .available
              some (s.move request (.counted eventId rows available since))
      | _ => none
  | .setex request =>
      if (s.phase request).setex.isSome then
        some ((s.put request).move request (.answered (s.phase request).response s.now))
      else none
  | .fail request executed =>
      if (s.phase request).ended then none
      else some ((if executed then s.put request else s).move request .failed)

def eventMachine : Machine (EventState weight) (EventStep weight) := ⟨eventStep calls⟩

end Service

end Ticketing
