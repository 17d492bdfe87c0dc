import Mathlib.Logic.Function.Basic
import Ticketing.Foundation.Remote
import Ticketing.Queue.Delivery
import Ticketing.Theater.Capacity

/-!
# Acknowledged messages have a result

`_handle_one_sqs_message` from the receipt of a message to its return value, with
every call to Redis and every call on the connection outside the transaction as
one that can raise. A message is deleted only after True, and every way to True
goes through a result key that is there.
-/

namespace Ticketing

open Foundation Python

/-- What the worker writes to. `booking` is the logical database of
`elasticache_booking_client`; result texts are JSON, hence not empty. `deleted`
are the messages that have been deleted from the queue. -/
structure WorkerState where
  db : Db
  booking : String → Option Json
  deleted : List (Option Json)

/-- A message as `receive_message` returns it. `body` is `none` if there is no
`Body`, or one that is not JSON. -/
structure SqsMessage where
  receiptHandle : String
  body : Option Json

/-! ## The handler -/

/-- `isinstance(value, dict)`. -/
def isDict : Json → Bool
  | .obj _ => true
  | _ => false

def getKey (key : String) : Remote WorkerState (Option Json) :=
  Remote.call fun s => (s.booking key, s)

def setex (key : String) (value : Json) : Remote WorkerState Unit :=
  Remote.call fun s => ((), { s with booking := Function.update s.booking key (some value) })

def deleteKey (key : String) : Remote WorkerState Unit :=
  Remote.call fun s => ((), { s with booking := Function.update s.booking key none })

/-- `conn.rollback()` and `conn.close()`, after the transaction. -/
def connectionCall : Remote WorkerState Unit := Remote.call fun s => ((), s)

/-- `store_result`. -/
def storeResult (bookingRef : Json) (result : BookingResult) : Remote WorkerState Unit := do
  setex (bookingResultKey bookingRef) result.toJson
  Remote.tryCatch (deleteKey (bookingQueuedKey bookingRef)) fun _ => return ()

/-- The database half of the handler. -/
def transact (env : Env) (codes : Nat → String) (body : Json) : Remote WorkerState Verdict :=
  Remote.perform fun s =>
    let (verdict, db) := processBooking env codes body s.db
    (verdict, { s with db := db })

/-- What the handler does about its verdict. After a commit and after an early
return an exception is caught by `except Exception`. -/
def answer (bookingRef : Json) (verdict : Verdict) (result : BookingResult) :
    Remote WorkerState Unit :=
  if verdict.insideTry then
    Remote.tryCatch (storeResult bookingRef result) fun message => do
      connectionCall
      storeResult bookingRef (.failure .error (some message))
  else storeResult bookingRef result

/-- `process_theater_booking` and `process_concert_booking`. The deletions of
read-cache keys are left out: they catch their exceptions and write elsewhere. -/
def processMessage (env : Env) (codes : Nat → String) (body : Json) :
    Remote WorkerState Unit := do
  let verdict ← transact env codes body
  match body.item "booking_ref", verdict.result with
  | some bookingRef, some result =>
      Remote.andFinally (answer bookingRef verdict result) connectionCall
  | _, _ => Remote.raise "the handler was left by an exception"

/-- The look at the result key. Without an answer the message is processed. -/
def alreadyAnswered (body : Json) : Remote WorkerState Bool :=
  if hasRef body then
    Remote.tryCatch (do return (← getKey (bookingResultKey (body.get "booking_ref"))).isSome)
      fun _ => return false
  else return false

/-- `_handle_one_sqs_message` behind `json.loads`. -/
def handleBody (env : Env) (codes : Nat → String) (body : Json) : Remote WorkerState Bool := do
  if ← alreadyAnswered body then return true
  else
    Remote.tryCatch (do
      processMessage env codes body
      return true) fun _ => return false

/-- `_handle_one_sqs_message`. -/
def handleOneSqsMessage (env : Env) (codes : Nat → String) (message : SqsMessage) :
    Remote WorkerState Bool :=
  if message.receiptHandle = "" then return false
  else
    match message.body with
    | none => return false
    | some body =>
        if isDict body then handleBody env codes body
        -- `body.get` stands outside of every `try`
        else Remote.raise "object has no attribute 'get'"

/-- `_ack_if_ok`. -/
def ackIfOk (message : SqsMessage) (ok : Bool) : Remote WorkerState Unit :=
  if ok ∧ message.receiptHandle ≠ "" then
    Remote.tryCatch (Remote.call fun s => ((), { s with deleted := message.body :: s.deleted }))
      fun _ => return ()
  else return ()

/-- `_process_received_batch`, one message after the other. -/
def processReceivedBatch : List (Env × (Nat → String) × SqsMessage) → Remote WorkerState Unit
  | [] => return ()
  | (env, codes, message) :: rest => do
      let ok ← handleOneSqsMessage env codes message
      ackIfOk message ok
      processReceivedBatch rest

/-! ## Results stay -/

/-- A result is stored for the reference. -/
def WorkerState.HasResult (s : WorkerState) (bookingRef : Json) : Prop :=
  (s.booking (bookingResultKey bookingRef)).isSome

/-- The body names a reference, and a result is stored for it. -/
def WorkerState.Answered (s : WorkerState) (body : Option Json) : Prop :=
  ∃ value bookingRef, body = some value ∧ value.item "booking_ref" = some bookingRef ∧
    s.HasResult bookingRef

/-- Stored results stay, and only answered messages are deleted. -/
def answeredFirst : Remote.Frame WorkerState where
  rel s t := (∀ bookingRef, s.HasResult bookingRef → t.HasResult bookingRef) ∧
    ∀ body ∈ t.deleted, body ∈ s.deleted ∨ t.Answered body
  refl _ := ⟨fun _ => id, fun _ => .inl⟩
  trans := by
    rintro r s t ⟨hfirst, hdeleted⟩ ⟨hsecond, hdeleted'⟩
    refine ⟨fun bookingRef h => hsecond bookingRef (hfirst bookingRef h), fun body hbody => ?_⟩
    rcases hdeleted' body hbody with hold | hanswered
    · rcases hdeleted body hold with hold | ⟨value, bookingRef, hvalue, href, hresult⟩
      · exact .inl hold
      · exact .inr ⟨value, bookingRef, hvalue, href, hsecond bookingRef hresult⟩
    · exact .inr hanswered

theorem bookingResultKey_ne_queuedKey (bookingRef other : Json) :
    bookingResultKey bookingRef ≠ bookingQueuedKey other := by
  intro heq
  have htext : "booking:result:".toList ++ bookingRef.toStr.toList =
      "booking:queued:".toList ++ other.toStr.toList := by
    rw [← String.toList_append, ← String.toList_append]
    exact congrArg String.toList heq
  exact absurd (List.append_inj_left htext (by decide +kernel)) (by decide +kernel)

section Frames

variable {bookingRef : Json}

theorem setex_keeps (key : String) (value : Json) : (setex key value).Keeps answeredFirst := by
  refine Remote.keeps_call fun s => ⟨fun bookingRef h => ?_, fun _ => .inl⟩
  change (Function.update s.booking key (some value) (bookingResultKey bookingRef)).isSome
  by_cases hkey : bookingResultKey bookingRef = key
  · simp [hkey]
  · rw [Function.update_of_ne hkey]
    exact h

theorem deleteQueuedKey_keeps : (deleteKey (bookingQueuedKey bookingRef)).Keeps answeredFirst := by
  refine Remote.keeps_call fun s => ⟨fun other h => ?_, fun _ => .inl⟩
  change (Function.update s.booking (bookingQueuedKey bookingRef) none
    (bookingResultKey other)).isSome
  rw [Function.update_of_ne (bookingResultKey_ne_queuedKey other bookingRef)]
  exact h

theorem getKey_keeps (key : String) : (getKey key).Keeps answeredFirst :=
  Remote.keeps_call answeredFirst.refl

theorem connectionCall_keeps : connectionCall.Keeps answeredFirst :=
  Remote.keeps_call answeredFirst.refl

theorem transact_keeps (env : Env) (codes : Nat → String) (body : Json) :
    (transact env codes body).Keeps answeredFirst :=
  Remote.keeps_perform fun _ => ⟨fun _ => id, fun _ => .inl⟩

theorem storeResult_keeps (bookingRef : Json) (result : BookingResult) :
    (storeResult bookingRef result).Keeps answeredFirst :=
  (setex_keeps _ _).bind fun _ => deleteQueuedKey_keeps.tryCatch fun _ => Remote.keeps_pure _

theorem answer_keeps (bookingRef : Json) (verdict : Verdict) (result : BookingResult) :
    (answer bookingRef verdict result).Keeps answeredFirst := by
  unfold answer
  split
  next =>
    apply (storeResult_keeps bookingRef result).tryCatch
    intro message
    exact connectionCall_keeps.bind fun _ => storeResult_keeps _ _
  next => exact storeResult_keeps bookingRef result

theorem processMessage_keeps (env : Env) (codes : Nat → String) (body : Json) :
    (processMessage env codes body).Keeps answeredFirst := by
  apply (transact_keeps env codes body).bind
  intro verdict
  split
  next bookingRef result _ _ =>
    exact (answer_keeps bookingRef verdict result).andFinally connectionCall_keeps
  next => exact Remote.keeps_raise _

theorem alreadyAnswered_keeps (body : Json) : (alreadyAnswered body).Keeps answeredFirst := by
  unfold alreadyAnswered
  split
  next =>
    apply Remote.Keeps.tryCatch
    · exact (getKey_keeps _).bind fun _ => Remote.keeps_pure _
    · exact fun _ => Remote.keeps_pure _
  next => exact Remote.keeps_pure _

theorem handleBody_keeps (env : Env) (codes : Nat → String) (body : Json) :
    (handleBody env codes body).Keeps answeredFirst := by
  apply (alreadyAnswered_keeps body).bind
  intro known
  split
  next => exact Remote.keeps_pure _
  next =>
    apply Remote.Keeps.tryCatch
    · exact (processMessage_keeps env codes body).bind fun _ => Remote.keeps_pure _
    · exact fun _ => Remote.keeps_pure _

theorem handleOneSqsMessage_keeps (env : Env) (codes : Nat → String) (message : SqsMessage) :
    (handleOneSqsMessage env codes message).Keeps answeredFirst := by
  unfold handleOneSqsMessage
  split
  next => exact Remote.keeps_pure _
  next =>
    cases message.body with
    | none => exact Remote.keeps_pure _
    | some body =>
        dsimp only
        split
        next => exact handleBody_keeps env codes body
        next => exact Remote.keeps_raise _

end Frames

/-! ## Every way to True -/

section Returns

variable {faults : Nat → Option Fault} {s final : Session WorkerState} {bookingRef : Json}

/-- `store_result` that returns has stored the result. -/
theorem storeResult_ok {result : BookingResult} {value : Unit}
    (h : storeResult bookingRef result faults s = (.ok value, final)) :
    final.state.HasResult bookingRef := by
  obtain ⟨_, middle, hset, hdelete⟩ := Remote.bind_ok.mp h
  have hstored : middle.state.HasResult bookingRef := by
    rw [(Remote.call_ok.mp hset).2.2]
    simp [WorkerState.HasResult]
  -- the deletion of the other key cannot take it away, whether it raises or not
  have hdeletion : (deleteKey (bookingQueuedKey bookingRef)).Keeps answeredFirst :=
    deleteQueuedKey_keeps
  have hkept := hdeletion.tryCatch (fun _ => Remote.keeps_pure ()) faults middle
  rw [hdelete] at hkept
  exact hkept.1 bookingRef hstored

theorem answer_ok {verdict : Verdict} {result : BookingResult} {value : Unit}
    (h : answer bookingRef verdict result faults s = (.ok value, final)) :
    final.state.HasResult bookingRef := by
  unfold answer at h
  split at h
  next =>
    rcases Remote.tryCatch_ok.mp h with hfirst | ⟨message, middle, _, hrecover⟩
    · exact storeResult_ok hfirst
    · obtain ⟨_, _, _, hsecond⟩ := Remote.bind_ok.mp hrecover
      exact storeResult_ok hsecond
  next => exact storeResult_ok h

theorem processMessage_ok {env : Env} {codes : Nat → String} {body : Json} {value : Unit}
    (h : processMessage env codes body faults s = (.ok value, final)) :
    final.state.Answered (some body) := by
  obtain ⟨verdict, decided, _, h⟩ := Remote.bind_ok.mp h
  cases href : body.item "booking_ref" with
  | none =>
      simp only [href] at h
      exact absurd h Remote.raise_ne_ok
  | some bookingRef =>
      cases hresult : verdict.result with
      | none =>
          simp only [href, hresult] at h
          exact absurd h Remote.raise_ne_ok
      | some result =>
          simp only [href, hresult] at h
          obtain ⟨middle, _, hanswer, hclose⟩ := Remote.andFinally_ok.mp h
          have hkept := connectionCall_keeps faults middle
          rw [hclose] at hkept
          exact ⟨body, bookingRef, rfl, href, hkept.1 bookingRef (answer_ok hanswer)⟩

/-- A duplicate is acknowledged only if its reference has a result. -/
theorem alreadyAnswered_ok {body : Json} (h : alreadyAnswered body faults s = (.ok true, final)) :
    final.state.Answered (some body) := by
  unfold alreadyAnswered at h
  split at h
  next href =>
    rcases Remote.tryCatch_ok.mp h with hget | ⟨_, _, _, hcaught⟩
    · obtain ⟨found, middle, hfound, hresult⟩ := Remote.bind_ok.mp hget
      obtain ⟨hsome, rfl⟩ := Remote.pure_ok.mp hresult
      obtain ⟨_, rfl, rfl⟩ := Remote.call_ok.mp hfound
      have hitem : body.item "booking_ref" = some (body.get "booking_ref") := by
        unfold hasRef at href
        unfold Json.get at href ⊢
        cases hitem : body.item "booking_ref" with
        | none => simp [hitem] at href
        | some value => rfl
      exact ⟨body, _, rfl, hitem, hsome.symm⟩
    · exact absurd (Remote.pure_ok.mp hcaught).1 (by simp)
  next => exact absurd (Remote.pure_ok.mp h).1 (by simp)

theorem handleBody_ok {env : Env} {codes : Nat → String} {body : Json}
    (h : handleBody env codes body faults s = (.ok true, final)) :
    final.state.Answered (some body) := by
  obtain ⟨known, middle, hknown, h⟩ := Remote.bind_ok.mp h
  cases known with
  | true =>
      obtain ⟨_, rfl⟩ := Remote.pure_ok.mp h
      exact alreadyAnswered_ok hknown
  | false =>
      rcases Remote.tryCatch_ok.mp h with hprocess | ⟨_, _, _, hcaught⟩
      · obtain ⟨_, _, hprocess, hreturn⟩ := Remote.bind_ok.mp hprocess
        obtain ⟨_, rfl⟩ := Remote.pure_ok.mp hreturn
        exact processMessage_ok hprocess
      · exact absurd (Remote.pure_ok.mp hcaught).1 (by simp)

theorem handleOneSqsMessage_ok {env : Env} {codes : Nat → String} {message : SqsMessage}
    (h : handleOneSqsMessage env codes message faults s = (.ok true, final)) :
    final.state.Answered message.body := by
  unfold handleOneSqsMessage at h
  split at h
  next => exact absurd (Remote.pure_ok.mp h).1 (by simp)
  next =>
    cases hbody : message.body with
    | none =>
        simp only [hbody] at h
        exact absurd (Remote.pure_ok.mp h).1 (by simp)
    | some body =>
        simp only [hbody] at h
        split at h
        next => exact handleBody_ok h
        next => exact absurd h Remote.raise_ne_ok

end Returns

theorem ackIfOk_answered {message : SqsMessage} {ok : Bool} (faults : Nat → Option Fault)
    (s : Session WorkerState) (h : ok = true → s.state.Answered message.body) :
    answeredFirst.rel s.state (ackIfOk message ok faults s).2.state := by
  unfold ackIfOk
  split
  next hok =>
    have hdelete : answeredFirst.rel s.state
        { s.state with deleted := message.body :: s.state.deleted } := by
      refine ⟨fun _ => id, fun body hbody => ?_⟩
      rcases List.mem_cons.mp hbody with rfl | hold
      · exact .inr (h hok.1)
      · exact .inl hold
    unfold Remote.tryCatch Remote.call
    cases faults s.calls with
    | none => exact hdelete
    | some fault =>
        change answeredFirst.rel s.state (if fault.executed then _ else s.state)
        split
        next => exact hdelete
        next => exact answeredFirst.refl s.state
  next => exact answeredFirst.refl s.state

theorem processReceivedBatch_keeps (messages : List (Env × (Nat → String) × SqsMessage)) :
    (processReceivedBatch messages).Keeps answeredFirst := by
  induction messages with
  | nil => exact Remote.keeps_pure _
  | cons received rest ih =>
      obtain ⟨env, codes, message⟩ := received
      intro faults s
      refine Remote.rel_bind (handleOneSqsMessage_keeps env codes message faults s) ?_
      intro ok next hrun
      have hanswered : ok = true → next.state.Answered message.body := by
        rintro rfl
        exact handleOneSqsMessage_ok hrun
      exact Remote.rel_bind (ackIfOk_answered faults next hanswered) fun _ last _ => ih faults last

/-- Whatever raises: when the handler returns True a result is stored for the
reference of the message, and every message that a batch deletes is left with a
result. -/
theorem acknowledged_has_result :
    (∀ env codes message faults s final,
        handleOneSqsMessage env codes message faults s = (.ok true, final) →
          final.state.Answered message.body) ∧
      ∀ messages faults s, ∀ body ∈ (processReceivedBatch messages faults s).2.state.deleted,
        body ∈ s.state.deleted ∨ (processReceivedBatch messages faults s).2.state.Answered body :=
  ⟨fun _ _ _ _ _ _ => handleOneSqsMessage_ok,
    fun messages faults s => (processReceivedBatch_keeps messages faults s).2⟩

/-- A booking of the seat of `oneSeatDb` commits, and the first write of its
result raises. -/
def storedAtSecondTry : Except String Bool × Session WorkerState :=
  handleOneSqsMessage .quiet (fun _ => "AA000001")
    ⟨"handle", some (theaterBody "first" [.str "1-1"])⟩
    (fun call => if call = 1 then some ⟨"timeout", false⟩ else none)
    ⟨⟨oneSeatDb, fun _ => none, []⟩, 0⟩

theorem acknowledged_has_result_secondTry :
    storedAtSecondTry.1 = .ok true ∧
      storedAtSecondTry.2.state.Answered (some (theaterBody "first" [.str "1-1"])) := by
  have hok : storedAtSecondTry.1.toOption = some true := by decide +kernel
  have htrue : storedAtSecondTry.1 = .ok true := by
    cases houtcome : storedAtSecondTry.1 with
    | error text => rw [houtcome] at hok; cases hok
    | ok value => rw [houtcome] at hok; cases hok; rfl
  exact ⟨htrue, acknowledged_has_result.1 _ _ _ _ _ _ (Prod.ext htrue rfl)⟩

end Ticketing
