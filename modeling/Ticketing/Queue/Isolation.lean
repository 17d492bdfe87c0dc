import Mathlib.Data.List.Perm.Basic
import Ticketing.Queue.Acknowledge

/-!
# Two ways through a batch

`_process_received_batch` works through a batch itself or gives its messages to the
thread pool. The pool keeps the exception of a message in its future; in the loop over
the batch it ends the loop. What the handling of a message meets (the database, Redis,
the calls that raise) is its own in both.
-/

namespace Ticketing

open Foundation Python

/-! ## Messages -/

/-- What `json.loads(msg["Body"])` comes to. -/
inductive LoadedBody where
  | value (body : Json)
  /-- no `Body`, or one that is not JSON -/
  | refused
  /-- an exception that is not caught: a number with too many digits, or too deep nesting -/
  | raises

structure ReceivedMessage where
  receiptHandle : String
  loaded : LoadedBody

/-- `_handle_one_sqs_message`. -/
def ReceivedMessage.handle (env : Env) (codes : Nat → String) (message : ReceivedMessage) :
    Remote WorkerState Bool :=
  match message.loaded with
  | .value body => handleOneSqsMessage env codes ⟨message.receiptHandle, some body⟩
  | .refused => handleOneSqsMessage env codes ⟨message.receiptHandle, none⟩
  | .raises =>
      if message.receiptHandle = "" then return false
      else Remote.raise "json.loads"

/-- A message of a batch with what its handling meets, and whether `delete_message`
deletes it. -/
structure BatchItem where
  message : ReceivedMessage
  env : Env
  codes : Nat → String
  faults : Nat → Option Fault
  session : Session WorkerState
  deletes : Bool

/-- What the handling returns or raises. -/
def BatchItem.outcome (item : BatchItem) : Except String Bool :=
  (item.message.handle item.env item.codes item.faults item.session).1

/-- `_ack_if_ok`: the messages that are deleted. -/
def BatchItem.ackIfOk (item : BatchItem) (ok : Bool) : List BatchItem :=
  if ok && decide (item.message.receiptHandle ≠ "") && item.deletes then [item] else []

/-! ## The two paths -/

/-- The messages that are handed to `_handle_one_sqs_message`, those that are deleted,
and the exception that leaves the batch. -/
structure BatchReport where
  handed : List BatchItem
  acked : List BatchItem
  exception : Option String

/-- The loop over the batch. -/
def sequentialPath : List BatchItem → BatchReport
  | [] => ⟨[], [], none⟩
  | item :: rest =>
      match item.outcome with
      | .error text => ⟨[item], [], some text⟩
      | .ok ok =>
          let report := sequentialPath rest
          ⟨item :: report.handed, item.ackIfOk ok ++ report.acked, report.exception⟩

/-- `fut.result()`; an exception is logged, and counts as False. -/
def BatchItem.result (item : BatchItem) : Bool :=
  match item.outcome with
  | .ok ok => ok
  | .error _ => false

/-- The thread pool; `completed` is the order in which `as_completed` gives the futures. -/
def poolPath (items completed : List BatchItem) : BatchReport :=
  ⟨items, completed.flatMap fun item => item.ackIfOk item.result, none⟩

/-- `_process_received_batch`; `concurrency` is WORKER_SQS_BATCH_CONCURRENCY. -/
def batchPath (concurrency : Nat) (items completed : List BatchItem) : BatchReport :=
  if items.length ≤ 1 ∨ concurrency ≤ 1 then sequentialPath items else poolPath items completed

/-- The same messages are handed over, and the same are deleted. -/
structure BatchReport.Same (left right : BatchReport) : Prop where
  handed : left.handed.Perm right.handed
  acked : left.acked.Perm right.acked

/-! ## Which messages raise -/

/-- A body that `json.loads` fails on otherwise than by a JSONDecodeError, or one that is
JSON and no object. -/
def ReceivedMessage.Raises (message : ReceivedMessage) : Prop :=
  message.receiptHandle ≠ "" ∧
    match message.loaded with
    | .value body => isDict body = false
    | .refused => False
    | .raises => True

section Outcomes

variable {env : Env} {codes : Nat → String} {faults : Nat → Option Fault} {s : Session WorkerState}

theorem alreadyAnswered_returns (body : Json) :
    ∃ known next, alreadyAnswered body faults s = (.ok known, next) := by
  unfold alreadyAnswered
  split
  next =>
    obtain ⟨known, hknown⟩ : ∃ known, (Remote.tryCatch
        (do return (← getKey (bookingResultKey (body.get "booking_ref"))).isSome)
        (fun _ => return false) faults s).1 = .ok known := Remote.tryCatch_pure_returns
    exact ⟨known, _, Prod.ext hknown rfl⟩
  next => exact ⟨false, s, rfl⟩

/-- Behind `json.loads` every exception is caught. -/
theorem handleBody_returns (body : Json) :
    ∃ ok, (handleBody env codes body faults s).1 = .ok ok := by
  obtain ⟨known, next, hknown⟩ := alreadyAnswered_returns body
  unfold handleBody
  rw [Remote.bind_of_ok hknown]
  cases known with
  | true => exact ⟨true, rfl⟩
  | false => exact Remote.tryCatch_pure_returns

end Outcomes

section Paths

variable {item : BatchItem} {items completed : List BatchItem}

/-- Whatever else fails: an exception leaves the handler exactly for these messages. -/
theorem outcome_error_iff : (∃ text, item.outcome = .error text) ↔ item.message.Raises := by
  obtain ⟨⟨receiptHandle, loaded⟩, env, codes, faults, session, deletes⟩ := item
  unfold BatchItem.outcome ReceivedMessage.handle ReceivedMessage.Raises
  by_cases hreceipt : receiptHandle = ""
  · -- without a receipt handle False is returned at once
    subst hreceipt
    refine iff_of_false ?_ fun h => h.1 rfl
    cases loaded <;> exact fun ⟨_, htext⟩ => nomatch htext
  · simp only [ne_eq, hreceipt, not_false_eq_true, true_and]
    cases loaded with
    | raises => simp [Remote.raise]
    | refused => simp [handleOneSqsMessage, hreceipt, Pure.pure, Remote.pure]
    | value body =>
        simp only [handleOneSqsMessage, hreceipt, if_false]
        cases hdict : isDict body with
        | false => simp [Remote.raise]
        | true =>
            obtain ⟨ok, hok⟩ : ∃ ok, (handleBody env codes body faults session).1 = .ok ok :=
              handleBody_returns body
            simp [hok]

/-- The message does not get in the way of those behind it. -/
theorem outcome_ok_of_not_raises (h : ¬ item.message.Raises) :
    item.outcome = .ok item.result := by
  unfold BatchItem.result
  cases houtcome : item.outcome with
  | ok ok => rfl
  | error text => exact absurd (outcome_error_iff.mp ⟨text, houtcome⟩) h

theorem sequentialPath_cons (item : BatchItem) (rest : List BatchItem) :
    sequentialPath (item :: rest) =
      match item.outcome with
      | .error text => ⟨[item], [], some text⟩
      | .ok ok => ⟨item :: (sequentialPath rest).handed,
          item.ackIfOk ok ++ (sequentialPath rest).acked, (sequentialPath rest).exception⟩ := rfl

theorem sequentialPath_cons_of_not_raises (h : ¬ item.message.Raises) :
    sequentialPath (item :: items) =
      ⟨item :: (sequentialPath items).handed,
        item.ackIfOk item.result ++ (sequentialPath items).acked,
        (sequentialPath items).exception⟩ := by
  rw [sequentialPath_cons, outcome_ok_of_not_raises h]

/-- The last message of a batch has nothing behind it. -/
theorem sequentialPath_singleton :
    (sequentialPath [item]).handed = [item] ∧
      (sequentialPath [item]).acked = item.ackIfOk item.result := by
  rw [sequentialPath_cons]
  unfold BatchItem.result
  cases item.outcome with
  | ok ok => exact ⟨rfl, List.append_nil _⟩
  | error text => exact ⟨rfl, rfl⟩

/-- If no exception comes before the last message, the loop gets through the batch. -/
theorem sequentialPath_of_quiet (h : ∀ item ∈ items.dropLast, ¬ item.message.Raises) :
    (sequentialPath items).handed = items ∧
      (sequentialPath items).acked = items.flatMap fun item => item.ackIfOk item.result := by
  induction items with
  | nil => exact ⟨rfl, rfl⟩
  | cons item rest ih =>
      cases rest with
      | nil =>
          obtain ⟨hhanded, hacked⟩ := @sequentialPath_singleton item
          exact ⟨hhanded, hacked.trans (by simp)⟩
      | cons next rest =>
          obtain ⟨hitem, hrest⟩ := List.forall_mem_cons.mp h
          obtain ⟨hhanded, hacked⟩ := ih hrest
          rw [sequentialPath_cons_of_not_raises hitem, List.flatMap_cons, hhanded, hacked]
          exact ⟨rfl, rfl⟩

/-- An exception before the last message leaves messages behind. -/
theorem sequentialPath_handed_lt (hmem : item ∈ items.dropLast) (h : item.message.Raises) :
    (sequentialPath items).handed.length < items.length := by
  induction items with
  | nil => cases hmem
  | cons first rest ih =>
      cases rest with
      | nil => cases hmem
      | cons next rest =>
          by_cases hfirst : first.message.Raises
          · obtain ⟨text, htext⟩ := outcome_error_iff.mpr hfirst
            rw [sequentialPath_cons, htext]
            simp
          · rw [sequentialPath_cons_of_not_raises hfirst]
            have hmem : item ∈ (next :: rest).dropLast := by
              rcases List.mem_cons.mp hmem with rfl | hbehind
              · exact absurd h hfirst
              · exact hbehind
            simpa using ih hmem

/-- However the handlers of a batch fare, and in whatever order the pool completes them:
both paths hand over the same messages and delete the same exactly if no message in front
of the last one makes `_handle_one_sqs_message` raise. -/
theorem paths_agree_iff (hcompleted : completed.Perm items) :
    (sequentialPath items).Same (poolPath items completed) ↔
      ∀ item ∈ items.dropLast, ¬ item.message.Raises := by
  constructor
  · intro hsame item hmem hraises
    have hlength := hsame.handed.length_eq
    exact absurd hlength (Nat.ne_of_lt (sequentialPath_handed_lt hmem hraises))
  · intro hquiet
    obtain ⟨hhanded, hacked⟩ := sequentialPath_of_quiet hquiet
    refine ⟨.of_eq hhanded, ?_⟩
    rw [hacked]
    exact hcompleted.symm.flatMap_right _

/-- So WORKER_SQS_BATCH_CONCURRENCY makes no difference exactly for such batches. -/
theorem batchPath_same_iff {few many : Nat} (hfew : few ≤ 1) (hmany : 1 < many)
    (hcompleted : completed.Perm items) :
    (batchPath few items completed).Same (batchPath many items completed) ↔
      ∀ item ∈ items.dropLast, ¬ item.message.Raises := by
  unfold batchPath
  rw [if_pos (.inr hfew)]
  by_cases hshort : items.length ≤ 1
  · rw [if_pos (.inl hshort)]
    refine iff_of_true ⟨.refl _, .refl _⟩ fun item hmem => ?_
    have hlength := List.length_pos_of_mem hmem
    rw [List.length_dropLast] at hlength
    omega
  · rw [if_neg (by omega)]
    exact paths_agree_iff hcompleted

end Paths

/-! ## A body that is a number -/

/-- A message whose handling starts at the database `oneSeatDb`, with nothing raising. -/
def quietItem (receiptHandle : String) (body : Json) : BatchItem :=
  ⟨⟨receiptHandle, .value body⟩, .quiet, fun _ => "AA000001", fun _ => none,
    ⟨⟨oneSeatDb, fun _ => none, []⟩, 0⟩, true⟩

/-- A number, and a booking of the only seat. -/
def numberFirst : List BatchItem :=
  [quietItem "number" (.int 5), quietItem "booking" (theaterBody "first" [.str "1-1"])]

/-- The pool handles the booking and deletes its message, the loop does not come to it. -/
theorem number_stops_batch :
    (sequentialPath numberFirst).handed.map (·.message.receiptHandle) = ["number"] ∧
      (sequentialPath numberFirst).acked.map (·.message.receiptHandle) = [] ∧
      (poolPath numberFirst numberFirst).handed.map (·.message.receiptHandle) =
        ["number", "booking"] ∧
      (poolPath numberFirst numberFirst).acked.map (·.message.receiptHandle) = ["booking"] ∧
      ¬ (sequentialPath numberFirst).Same (poolPath numberFirst numberFirst) := by
  refine ⟨rfl, rfl, rfl, by decide +kernel, fun hsame => ?_⟩
  exact absurd hsame.handed.length_eq (by decide)

theorem paths_agree_iff_numberLast :
    (sequentialPath numberFirst.reverse).Same (poolPath numberFirst.reverse numberFirst) := by
  refine (paths_agree_iff (List.reverse_perm numberFirst).symm).mpr ?_
  intro item hmem hraises
  obtain rfl := List.mem_singleton.mp hmem
  have hnumber : isDict (theaterBody "first" [.str "1-1"]) = false := hraises.2
  cases hnumber

end Ticketing
