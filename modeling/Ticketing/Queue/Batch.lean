import Ticketing.Concert.Grid
import Ticketing.Foundation.Machine
import Ticketing.Queue.Delivery

/-!
# Batches from a FIFO queue

The queue hands out batches; a poller works through a batch itself, or submits
all of it to the thread pool. `_process_received_batch` does the latter on the
belief that the messages of a batch are of different groups. The queue keeps the
order of a group, but only between batches: inside one batch the pool decides.

Messages are numbered in the order in which they are sent. A message has left
the queue when it is deleted or moved to the dead-letter queue.
-/

namespace Ticketing

open Foundation Python

/-- A message: its MessageGroupId and its body. -/
structure Message where
  group : String
  body : Json

/-- Where the handling of a received message stands. -/
inductive Handling where
  /-- in the list of its batch, or in the queue of the pool -/
  | waiting
  /-- in `_handle_one_sqs_message`, before its transaction -/
  | started
  | transacted
  /-- `_handle_one_sqs_message` has returned -/
  | returned (ok : Bool)
  /-- acknowledged if it was to be, or abandoned -/
  | ended
deriving DecidableEq, Repr

/-- `handling batch place` is about the message at that place of a received
batch; `log` lists the transactions, the latest first, by the message and the
booking that was committed for it. -/
structure BatchState where
  db : Db
  sent : Nat
  gone : List Nat
  inFlight : List Nat
  batches : List (List Nat)
  handling : Nat → Nat → Handling
  log : List (Nat × Option Int)

inductive BatchStep where
  | send
  | receive (ids : List Nat)
  | start (batch place : Nat)
  | transact (batch place : Nat) (env : Env) (codes : Nat → String)
  | finish (batch place : Nat) (ok : Bool)
  | ack (batch place : Nat) (deleted : Bool)
  /-- the worker crashes, or an exception makes the poller drop the batch -/
  | abandon (batch : Nat)
  | timeout (message : Nat)
  | deadLetter (message : Nat)

/-- The group of a message. -/
def groupOf (messages : List Message) (message : Nat) : Option String :=
  messages[message]?.map Message.group

namespace BatchState

def batch (s : BatchState) (batch : Nat) : List Nat := s.batches.getD batch []

def messageAt (s : BatchState) (batch place : Nat) : Option Nat := (s.batch batch)[place]?

def setHandling (s : BatchState) (batch place : Nat) (handling : Handling) : BatchState :=
  { s with handling := fun b p => if b = batch ∧ p = place then handling else s.handling b p }

/-- `_ack_if_ok`: the handling ends, and the message is deleted or not. -/
def acknowledge (s : BatchState) (batch place id : Nat) (deleted : Bool) : BatchState :=
  { s.setHandling batch place .ended with
    gone := if deleted then id :: s.gone else s.gone
    inFlight := if deleted then s.inFlight.filter (· ≠ id) else s.inFlight }

end BatchState

/-- What one receive of a FIFO queue may return: at most ten visible messages,
those of a group in send order and none without its predecessors in the
queue. -/
def Receivable (messages : List Message) (s : BatchState) (ids : List Nat) : Prop :=
  (ids ≠ [] ∧ ids.length ≤ 10) ∧
  (∀ id ∈ ids, id < s.sent ∧ id ∉ s.gone ∧ id ∉ s.inFlight ∧
    ∀ earlier < id, groupOf messages earlier = groupOf messages id →
      earlier ∈ s.gone ∨ earlier ∈ ids) ∧
  ids.Pairwise fun first second =>
    first ≠ second ∧ (groupOf messages first = groupOf messages second → first < second)

instance (messages : List Message) (s : BatchState) (ids : List Nat) :
    Decidable (Receivable messages s ids) :=
  inferInstanceAs (Decidable (_ ∧ _ ∧ _))

/-- `len(messages) <= 1 or WORKER_SQS_BATCH_CONCURRENCY <= 1`: the poller works
through the batch itself. -/
def Sequential (concurrency : Nat) (ids : List Nat) : Prop := ids.length ≤ 1 ∨ concurrency ≤ 1

instance (concurrency : Nat) (ids : List Nat) : Decidable (Sequential concurrency ids) :=
  inferInstanceAs (Decidable (_ ∨ _))

/-- One step of the queue, a poller, or a thread of the pool. Any number of
batches can be in work, on any number of workers, and the pool runs what was
submitted to it in any order. -/
def batchStep (concurrency : Nat) (messages : List Message) (s : BatchState) :
    BatchStep → Option BatchState
  | .send => if s.sent < messages.length then some { s with sent := s.sent + 1 } else none
  | .receive ids =>
      if Receivable messages s ids then
        some { s with
          inFlight := ids ++ s.inFlight
          batches := s.batches ++ [ids]
          handling := fun b p => if b = s.batches.length then .waiting else s.handling b p }
      else none
  | .start batch place =>
      -- a thread of the pool takes any message, the poller itself the next one
      if place < (s.batch batch).length ∧ s.handling batch place = .waiting ∧
          (Sequential concurrency (s.batch batch) →
            ∀ p < place, s.handling batch p = .ended) then
        some (s.setHandling batch place .started)
      else none
  | .transact batch place env codes =>
      match s.messageAt batch place with
      | none => none
      | some id =>
          match messages[id]? with
          | none => none
          | some message =>
              if s.handling batch place = .started then
                let (verdict, db) := processBooking env codes message.body s.db
                some { s.setHandling batch place .transacted with
                  db := db
                  log := (id, verdict.committedId) :: s.log }
              else none
  | .finish batch place ok =>
      if s.handling batch place = .started ∨ s.handling batch place = .transacted then
        some (s.setHandling batch place (.returned ok))
      else none
  | .ack batch place deleted =>
      match s.messageAt batch place, s.handling batch place with
      | some id, .returned ok =>
          -- an exception of `delete_message` is logged, and the poller goes on
          some (s.acknowledge batch place id (ok && deleted))
      | _, _ => none
  | .abandon batch =>
      some { s with handling := fun b p => if b = batch then .ended else s.handling b p }
  | .timeout id => some { s with inFlight := s.inFlight.filter (· ≠ id) }
  | .deadLetter id =>
      if id ∉ s.inFlight ∧ maxReceiveCount ≤ s.batches.flatten.count id then
        some { s with gone := id :: s.gone }
      else none

def batchMachine (concurrency : Nat) (messages : List Message) :
    Machine BatchState BatchStep := ⟨batchStep concurrency messages⟩

/-- A step runs at most one transaction. -/
theorem batchStep_transacted {concurrency : Nat} {messages : List Message} {s next : BatchState}
    {a : BatchStep} (h : batchStep concurrency messages s a = some next) :
    Transacted s.db next.db := by
  cases a with
  | transact batch place env codes =>
      simp only [batchStep] at h
      split at h
      next => cases h
      next id _ =>
        split at h
        next => cases h
        next message _ =>
          split at h
          next => cases h; exact processBooking_transacted env codes message.body s.db
          next => cases h
  | abandon batch => cases h; exact .same
  | timeout id => cases h; exact .same
  | send | receive _ | start _ _ | finish _ _ _ | deadLetter _ =>
      simp only [batchStep] at h
      split at h
      next => cases h; exact .same
      next => cases h
  | ack batch place deleted =>
      simp only [batchStep] at h
      split at h
      next => cases h; exact .same
      next => cases h

def BatchState.initial (db : Db) : BatchState := ⟨db, 0, [], [], [], fun _ _ => .waiting, []⟩

end Ticketing
