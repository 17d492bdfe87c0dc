import Ticketing.Browser.BookingModal
import Ticketing.Queue.Once
import Ticketing.Queue.Truth

/-!
# From the poll to the notice

`pollAsyncBookingStatus` against the status API, while the message of the commit is
delivered, handled, redelivered, refunded or lost. The status API reads the result key
and then the mark of the sender; deliveries, the mark, the keys' TTLs and the clock move
in between, and any request may fail. What a modal tells its user in the end rests on
what the handlers have committed.
-/

namespace Ticketing

open Foundation JavaScript Python

/-- `timeoutSec * 1000` and `intervalMs`. -/
structure PollOptions where
  timeoutMs : Nat
  intervalMs : Nat
  timeout_pos : 0 < timeoutMs
  interval_pos : 0 < intervalMs

/-- What both modals pass. -/
def bookingPoll : PollOptions := ⟨600 * 1000, 400, by decide, by decide⟩

/-- The answer of a poll whose time is over. -/
def timeoutReply : Json :=
  .obj [("ok", .bool false), ("code", .str "TIMEOUT"), ("status", .str "TIMEOUT"),
    ("message", .str "예매 처리 시간이 초과되었습니다. 마이페이지에서 예매 내역을 확인해 주세요.")]

inductive PollPhase where
  /-- the commit has been answered QUEUED -/
  | fresh
  /-- the status API is about to read the result -/
  | asking
  /-- it has found none and is about to read the mark -/
  | missed
  | replied (reply : Json)
  | sleeping (wakes : Nat)
  | returned (reply : Json)
  /-- the request has failed, and the modal shows the error -/
  | thrown

structure PollState where
  delivery : DeliveryState
  /-- the mark of the sender -/
  queued : Bool
  /-- in milliseconds -/
  now : Nat
  started : Nat
  requests : Nat
  phase : PollPhase

inductive PollStep where
  | deliver (step : DeliveryStep)
  /-- SETEX of the sender, DEL of a worker, or the TTL -/
  | mark (queued : Bool)
  | tick (milliseconds : Nat)
  | start
  | readResult
  | readQueued
  | receive
  | wake
  | fail

section Steps

variable (o : PollOptions) (body : Json) (bookingRef : String)

def pollStep (s : PollState) : PollStep → Option PollState
  | .deliver step =>
      (deliveryStep body s.delivery step).map fun delivery => { s with delivery := delivery }
  | .mark queued => some { s with queued := queued }
  | .tick milliseconds => some { s with now := s.now + milliseconds }
  | .start =>
      match s.phase with
      -- the deadline is ahead, so the loop is entered
      | .fresh => some { s with started := s.now, requests := 1, phase := .asking }
      | _ => none
  | .readResult =>
      match s.phase with
      | .asking =>
          match s.delivery.result with
          | some result =>
              some { s with
                phase := .replied (getBookingStatusDict bookingRef (some result) s.queued) }
          | none => some { s with phase := .missed }
      | _ => none
  | .readQueued =>
      match s.phase with
      | .missed =>
          some { s with phase := .replied (getBookingStatusDict bookingRef none s.queued) }
      | _ => none
  | .receive =>
      match s.phase with
      | .replied reply =>
          if isTerminalAsyncBookingStatus reply then some { s with phase := .returned reply }
          else some { s with phase := .sleeping (s.now + o.intervalMs) }
      | _ => none
  | .wake =>
      match s.phase with
      | .sleeping wakes =>
          if s.now < wakes then none
          else if s.now < s.started + o.timeoutMs then
            some { s with requests := s.requests + 1, phase := .asking }
          else some { s with phase := .returned timeoutReply }
      | _ => none
  | .fail =>
      match s.phase with
      | .asking | .missed | .replied _ => some { s with phase := .thrown }
      | _ => none

def pollMachine : Machine PollState PollStep := ⟨pollStep o body bookingRef⟩

end Steps

/-- The commit has been answered, and nobody has received its message yet. -/
def PollState.initial (db : Db) : PollState := ⟨.initial db, true, 0, 0, 0, .fresh⟩

/-! ## What a reply rests on -/

/-- A success that is stored or about to be stored has been committed. -/
structure SuccessInv (s : DeliveryState) : Prop where
  decided : ∀ receipt remain, .decided (.committed receipt remain) ∈ s.deliveries →
    receipt.bookingId ∈ s.commits
  stored : ∀ receipt remain, s.result = some (.success receipt remain) →
    receipt.bookingId ∈ s.commits

section Success

variable {body : Json} {s next : DeliveryState} {a : DeliveryStep}

theorem SuccessInv.initial (db : Db) : SuccessInv (.initial db) := by
  constructor <;> simp [DeliveryState.initial]

theorem SuccessInv.setPhase (hinv : SuccessInv s) (delivery : Nat) {phase : Phase}
    (hphase : ∀ receipt remain, phase ≠ .decided (.committed receipt remain)) :
    SuccessInv (s.setPhase delivery phase) := by
  refine ⟨fun receipt remain hmem => ?_, hinv.stored⟩
  rcases List.mem_or_eq_of_mem_set hmem with hold | hnew
  · exact hinv.decided receipt remain hold
  · exact absurd hnew.symm (hphase receipt remain)

theorem SuccessInv.put (hinv : SuccessInv s) {result : BookingResult} (outcome : RedisWrite)
    (hresult : ∀ receipt remain, result = .success receipt remain →
      receipt.bookingId ∈ s.commits) : SuccessInv (s.put result outcome) := by
  unfold DeliveryState.put
  split
  next =>
    refine ⟨hinv.decided, fun receipt remain hstored => ?_⟩
    exact hresult receipt remain (Option.some.inj hstored)
  next => exact hinv

theorem commits_subset (h : deliveryStep body s a = some next) : s.commits ⊆ next.commits := by
  cases a with
  | receive => rw [receive_eq_some h]; exact List.Subset.refl _
  | check delivery readable => obtain ⟨_, rfl | rfl⟩ := check_eq_some h <;> exact List.Subset.refl _
  | process delivery env codes =>
      rw [(process_eq_some h).2]
      exact List.subset_append_right _ _
  | write delivery outcome message =>
      obtain ⟨verdict, result, _, _, rfl⟩ := write_eq_some h
      simp [DeliveryState.setPhase]
  | recover delivery rollback outcome =>
      obtain ⟨message, phase, _, _, ⟨_, rfl⟩ | ⟨_, rfl⟩⟩ := recover_eq_some h <;>
        simp [DeliveryState.setPhase]
  | ack delivery succeeds => rw [ack_eq_some h]; exact List.Subset.refl _
  | crash delivery => rw [crash_eq_some h]; exact List.Subset.refl _
  | expire => cases h; exact List.Subset.refl _
  | other step => cases h; exact List.Subset.refl _

/-- A success is written only by a delivery whose transaction has committed. -/
theorem SuccessInv.step (hinv : SuccessInv s) (h : deliveryStep body s a = some next) :
    SuccessInv next := by
  cases a with
  | receive =>
      rw [receive_eq_some h]
      refine ⟨fun receipt remain hmem => ?_, hinv.stored⟩
      rcases List.mem_append.mp hmem with hold | hnew
      · exact hinv.decided receipt remain hold
      · cases List.mem_singleton.mp hnew
  | check delivery readable =>
      obtain ⟨_, rfl | rfl⟩ := check_eq_some h <;> exact hinv.setPhase delivery (by simp)
  | process delivery env codes =>
      rw [(process_eq_some h).2]
      refine ⟨fun receipt remain hmem => ?_, fun receipt remain hstored =>
        List.mem_append_right _ (hinv.stored receipt remain hstored)⟩
      rcases List.mem_or_eq_of_mem_set hmem with hold | hnew
      · exact List.mem_append_right _ (hinv.decided receipt remain hold)
      · split at hnew
        next =>
          have hverdict := Phase.decided.inj hnew
          simp [DeliveryState.commit, ← hverdict, Verdict.committedId]
        next => cases hnew
  | write delivery outcome message =>
      obtain ⟨verdict, result, hphase, hresult, rfl⟩ := write_eq_some h
      refine (hinv.put outcome ?_).setPhase delivery ?_
      · rintro receipt remain rfl
        cases verdict with
        | committed receipt' remain' =>
            cases hresult
            exact hinv.decided receipt remain (List.mem_of_getElem? hphase)
        | raised | refused _ | integrity | error _ => cases hresult
      · intro receipt remain
        unfold DeliveryState.afterWrite
        split
        next => split <;> simp
        next => simp
  | recover delivery rollback outcome =>
      obtain ⟨message, phase, _, hended, ⟨_, rfl⟩ | ⟨_, rfl⟩⟩ := recover_eq_some h
      · refine (hinv.put outcome (by simp)).setPhase delivery ?_
        rcases hended with rfl | rfl <;> simp
      · refine hinv.setPhase delivery ?_
        rcases hended with rfl | rfl <;> simp
  | ack delivery succeeds =>
      rw [ack_eq_some h]
      have hended : SuccessInv (s.setPhase delivery .ended) := hinv.setPhase delivery (by simp)
      exact ⟨hended.decided, hended.stored⟩
  | crash delivery => rw [crash_eq_some h]; exact hinv.setPhase delivery (by simp)
  | expire => cases h; exact ⟨hinv.decided, by simp⟩
  | other step => cases h; exact ⟨hinv.decided, hinv.stored⟩

end Success

/-! ## What the user is told -/

/-- The replies that a poll can be given. -/
inductive PollReply (bookingRef : String) (commits : List Int) : Json → Prop where
  | failure {result : BookingResult} (h : result.ok = false) :
      PollReply bookingRef commits result.toJson
  | success {receipt : Receipt} (remain : Int) (h : receipt.bookingId ∈ commits) :
      PollReply bookingRef commits (BookingResult.success receipt remain).toJson
  | processing : PollReply bookingRef commits (processingReply bookingRef)
  | unknown : PollReply bookingRef commits (unknownReply bookingRef)

theorem PollReply.mono {bookingRef : String} {commits more : List Int} {reply : Json}
    (h : PollReply bookingRef commits reply) (hsubset : commits ⊆ more) :
    PollReply bookingRef more reply := by
  cases h with
  | failure h => exact .failure h
  | success remain h => exact .success remain (hsubset h)
  | processing => exact .processing
  | unknown => exact .unknown

theorem SuccessInv.reply {s : DeliveryState} (hinv : SuccessInv s) (bookingRef : String)
    {result : Option BookingResult} (hresult : result = none ∨ result = s.result)
    (queued : Bool) :
    PollReply bookingRef s.commits (getBookingStatusDict bookingRef result queued) := by
  cases result with
  | none =>
      cases queued with
      | true => exact .processing
      | false => exact .unknown
  | some result =>
      cases result with
      | failure code message => exact .failure rfl
      | success receipt remain =>
          have hstored : some (.success receipt remain) = s.result := by simpa using hresult
          exact .success remain (hinv.stored receipt remain hstored.symm)

@[simp] theorem succeeded_toJson (result : BookingResult) :
    succeeded (.ofJson result.toJson) = result.ok := by
  cases result with
  | success receipt remain =>
      simp [BookingResult.toJson, BookingResult.ok, Value.ofJson, succeeded, Value.get,
        Value.orElse, Value.truthy, Value.toText]
  | failure code message =>
      cases message <;>
        simp [BookingResult.toJson, BookingResult.ok, Value.ofJson, succeeded, Value.get]

theorem noticeOfResult_ok (kind : ModalKind) (result : Value) :
    (noticeOfResult kind result).ok = succeeded result := by
  unfold noticeOfResult
  split
  next h => exact h.symm
  next h =>
    have hnot : succeeded result = false := by simpa using h
    rw [hnot]
    split
    next => rfl
    next => split <;> rfl

/-- Only a success that has been committed is shown as one. -/
theorem PollReply.committed_of_ok {kind : ModalKind} {bookingRef : String} {commits : List Int}
    {reply : Json} (h : PollReply bookingRef commits reply)
    (hok : (noticeOfResult kind (.ofJson reply)).ok = true) :
    ∃ receipt remain, reply = (BookingResult.success receipt remain).toJson ∧
      receipt.bookingId ∈ commits := by
  rw [noticeOfResult_ok] at hok
  cases h with
  | failure hfailure =>
      rw [succeeded_toJson, hfailure] at hok
      cases hok
  | success remain hmem => exact ⟨_, remain, rfl, hmem⟩
  | processing => cases hok
  | unknown => cases hok

theorem succeeded_timeoutReply : succeeded (.ofJson timeoutReply) = false := rfl

/-! ## Runs of a poll -/

/-- The requests that have been sent are apart by the interval, and all before the
deadline. -/
structure Paced (o : PollOptions) (s : PollState) : Prop where
  sent : s.phase ≠ .fresh → 1 ≤ s.requests
  apart : s.started + (s.requests - 1) * o.intervalMs ≤ s.now
  inTime : (s.requests - 1) * o.intervalMs < o.timeoutMs
  sleeping : ∀ wakes, s.phase = .sleeping wakes →
    s.started + s.requests * o.intervalMs ≤ wakes

structure PollInv (o : PollOptions) (body : Json) (bookingRef : String) (s : PollState) :
    Prop where
  once : OnceInv body s.delivery
  success : SuccessInv s.delivery
  paced : Paced o s
  replied : ∀ reply, s.phase = .replied reply → PollReply bookingRef s.delivery.commits reply
  returned : ∀ reply, s.phase = .returned reply →
    PollReply bookingRef s.delivery.commits reply ∧ isTerminalAsyncBookingStatus reply = true ∨
      reply = timeoutReply ∧ s.started + o.timeoutMs ≤ s.now

section Runs

variable {o : PollOptions} {body : Json} {bookingRef : String} {s next : PollState}

theorem PollInv.initial (db : Db) : PollInv o body bookingRef (.initial db) where
  once := ⟨by simp [PollState.initial, DeliveryState.initial],
    by simp [PollState.initial, DeliveryState.initial]⟩
  success := .initial db
  paced := ⟨by simp [PollState.initial], by simp [PollState.initial],
    by simpa [PollState.initial] using o.timeout_pos, by simp [PollState.initial]⟩
  replied := by simp [PollState.initial]
  returned := by simp [PollState.initial]

/-- What goes on in the queue leaves the poll where it is. -/
theorem PollInv.deliver (hinv : PollInv o body bookingRef s) {step : DeliveryStep}
    {delivery : DeliveryState} (h : deliveryStep body s.delivery step = some delivery) :
    PollInv o body bookingRef { s with delivery := delivery } := by
  have hsubset := commits_subset h
  refine ⟨hinv.once.step h, hinv.success.step h, ?_, fun reply hreply => ?_,
    fun reply hreply => ?_⟩
  · obtain ⟨hsent, hapart, hinTime, hsleeping⟩ := hinv.paced
    exact ⟨hsent, hapart, hinTime, hsleeping⟩
  · exact (hinv.replied reply hreply).mono hsubset
  · rcases hinv.returned reply hreply with ⟨hfrom, hterminal⟩ | hover
    · exact .inl ⟨hfrom.mono hsubset, hterminal⟩
    · exact .inr hover

/-- A request is answered, fails or is over while time stands still. -/
theorem PollInv.setPhase (hinv : PollInv o body bookingRef s) (hfresh : s.phase ≠ .fresh)
    {phase : PollPhase}
    (hreplied : ∀ reply, phase = .replied reply → PollReply bookingRef s.delivery.commits reply)
    (hreturned : ∀ reply, phase = .returned reply →
      PollReply bookingRef s.delivery.commits reply ∧
          isTerminalAsyncBookingStatus reply = true ∨
        reply = timeoutReply ∧ s.started + o.timeoutMs ≤ s.now)
    (hsleeping : ∀ wakes, phase = .sleeping wakes →
      s.started + s.requests * o.intervalMs ≤ wakes) :
    PollInv o body bookingRef { s with phase := phase } := by
  obtain ⟨hsent, hapart, hinTime, _⟩ := hinv.paced
  exact ⟨hinv.once, hinv.success, ⟨fun _ => hsent hfresh, hapart, hinTime, hsleeping⟩, hreplied,
    hreturned⟩

/-- The end of a pause after `requests` requests comes that many intervals after the start. -/
theorem Paced.pause (h : Paced o s) (hfresh : s.phase ≠ .fresh) :
    s.started + s.requests * o.intervalMs ≤ s.now + o.intervalMs := by
  have hsplit : s.requests * o.intervalMs = (s.requests - 1) * o.intervalMs + o.intervalMs := by
    obtain ⟨count, hcount⟩ := Nat.exists_eq_add_of_le' (h.sent hfresh)
    rw [hcount, Nat.add_sub_cancel, Nat.succ_mul]
  have hapart := h.apart
  omega

theorem PollInv.step (hinv : PollInv o body bookingRef s) {a : PollStep}
    (h : pollStep o body bookingRef s a = some next) : PollInv o body bookingRef next := by
  cases a with
  | deliver step =>
      obtain ⟨delivery, hstep, rfl⟩ := Option.map_eq_some_iff.mp h
      exact hinv.deliver hstep
  | mark queued =>
      cases h
      refine ⟨hinv.once, hinv.success, ?_, hinv.replied, hinv.returned⟩
      obtain ⟨hsent, hapart, hinTime, hsleeping⟩ := hinv.paced
      exact ⟨hsent, hapart, hinTime, hsleeping⟩
  | tick milliseconds =>
      cases h
      refine ⟨hinv.once, hinv.success, ?_, hinv.replied, fun reply hreply => ?_⟩
      · obtain ⟨hsent, hapart, hinTime, hsleeping⟩ := hinv.paced
        exact ⟨hsent, hapart.trans (Nat.le_add_right _ _), hinTime, hsleeping⟩
      · exact (hinv.returned reply hreply).imp_right fun hover =>
          ⟨hover.1, hover.2.trans (Nat.le_add_right _ _)⟩
  | start =>
      simp only [pollStep] at h
      split at h
      next =>
        cases h
        refine ⟨hinv.once, hinv.success, ?_, by simp, by simp⟩
        exact ⟨fun _ => le_refl 1, by simp, by simpa using o.timeout_pos, by simp⟩
      next => cases h
  | readResult =>
      simp only [pollStep] at h
      split at h
      next hphase =>
        have hfresh : s.phase ≠ .fresh := by simp [hphase]
        split at h
        next result hresult =>
          cases h
          refine hinv.setPhase hfresh (fun reply hreply => ?_) (by simp) (by simp)
          rw [← PollPhase.replied.inj hreply]
          exact hinv.success.reply bookingRef (.inr hresult.symm) s.queued
        next =>
          cases h
          exact hinv.setPhase hfresh (by simp) (by simp) (by simp)
      next => cases h
  | readQueued =>
      simp only [pollStep] at h
      split at h
      next hphase =>
        cases h
        refine hinv.setPhase (by simp [hphase]) (fun reply hreply => ?_) (by simp) (by simp)
        rw [← PollPhase.replied.inj hreply]
        exact hinv.success.reply bookingRef (.inl rfl) s.queued
      next => cases h
  | receive =>
      simp only [pollStep] at h
      split at h
      next reply hphase =>
        have hfresh : s.phase ≠ .fresh := by simp [hphase]
        split at h
        next hterminal =>
          cases h
          refine hinv.setPhase hfresh (by simp) (fun other hother => ?_) (by simp)
          rw [← PollPhase.returned.inj hother]
          exact .inl ⟨hinv.replied reply hphase, hterminal⟩
        next =>
          cases h
          refine hinv.setPhase hfresh (by simp) (by simp) fun wakes hwakes => ?_
          rw [← PollPhase.sleeping.inj hwakes]
          exact hinv.paced.pause hfresh
      next => cases h
  | wake =>
      simp only [pollStep] at h
      split at h
      next wakes hphase =>
        have hfresh : s.phase ≠ .fresh := by simp [hphase]
        have hpause := hinv.paced.sleeping wakes hphase
        split at h
        next => cases h
        next hawake =>
          split at h
          next hahead =>
            -- the next request is sent an interval after the last, before the deadline
            cases h
            refine ⟨hinv.once, hinv.success, ?_, by simp, by simp⟩
            refine ⟨fun _ => Nat.le_add_left 1 _, ?_, ?_, by simp⟩
            · simp only [Nat.add_sub_cancel]
              omega
            · simp only [Nat.add_sub_cancel]
              omega
          next hover =>
            cases h
            refine hinv.setPhase hfresh (by simp) (fun reply hreply => ?_) (by simp)
            exact .inr ⟨(PollPhase.returned.inj hreply).symm, by omega⟩
      next => cases h
  | fail =>
      simp only [pollStep] at h
      split at h
      next hphase => cases h; exact hinv.setPhase (by simp [hphase]) (by simp) (by simp) (by simp)
      next hphase => cases h; exact hinv.setPhase (by simp [hphase]) (by simp) (by simp) (by simp)
      next reply hphase =>
        cases h
        exact hinv.setPhase (by simp [hphase]) (by simp) (by simp) (by simp)
      next => cases h

theorem PollInv.run {db : Db} {steps : List PollStep} {final : PollState}
    (hrun : (pollMachine o body bookingRef).run (.initial db) steps = some final) :
    PollInv o body bookingRef final :=
  Machine.run_invariant (fun _ _ _ hinv h => hinv.step h) (.initial db) hrun

end Runs

/-- A user who is told of a success has a booking: it was committed by a delivery of this
message, and it holds every seat of the request in the database as it then is, unless it
has been refunded. -/
theorem told_booked_holds {o : PollOptions} {kind : ModalKind} {body reply : Json}
    {bookingRef : String} {db : Db} {steps : List PollStep} {final : PollState}
    (hrun : (pollMachine o body bookingRef).run (.initial db) steps = some final)
    (hreturned : final.phase = .returned reply)
    (hok : (noticeOfResult kind (.ofJson reply)).ok = true) :
    ∃ receipt remain, reply = (BookingResult.success receipt remain).toJson ∧
      receipt.bookingId ∈ final.delivery.commits ∧
      HoldsRequest body final.delivery.db receipt.bookingId := by
  have hinv := PollInv.run hrun
  rcases hinv.returned reply hreturned with ⟨hfrom, _⟩ | ⟨rfl, _⟩
  · obtain ⟨receipt, remain, hreply, hmem⟩ := hfrom.committed_of_ok hok
    exact ⟨receipt, remain, hreply, hmem, hinv.once.holds _ hmem⟩
  · rw [noticeOfResult_ok, succeeded_timeoutReply] at hok
    cases hok

/-- The commit is polled for while a worker books the seat, and once more. -/
def pollFirst : List PollStep :=
  [.start, .readResult, .deliver .receive, .deliver (.check 0 true), .readQueued, .receive,
    .deliver (.process 0 .quiet (fun _ => "CAA000001")), .deliver (.write 0 .done ""),
    .mark false, .tick 400, .wake, .readResult, .receive]

/-- The notice at the end of a poll. -/
def PollState.notice (kind : ModalKind) (s : PollState) : Option BookingNotice :=
  match s.phase with
  | .returned reply => some (noticeOfResult kind (.ofJson reply))
  | _ => none

theorem PollState.notice_eq_some {kind : ModalKind} {s : PollState} {notice : BookingNotice}
    (h : s.notice kind = some notice) :
    ∃ reply, s.phase = .returned reply ∧ noticeOfResult kind (.ofJson reply) = notice := by
  unfold PollState.notice at h
  split at h
  next reply hphase => exact ⟨reply, hphase, Option.some.inj h⟩
  next => cases h

theorem told_booked_holds_first :
    ∃ final receipt, (pollMachine bookingPoll (concertBody "first" 1 [.str "1-1"]) "first").run
        (.initial twoSeatDb) pollFirst = some final ∧
      HoldsRequest (concertBody "first" 1 [.str "1-1"]) final.delivery.db receipt := by
  have hnotice : ((pollMachine bookingPoll (concertBody "first" 1 [.str "1-1"]) "first").run
      (.initial twoSeatDb) pollFirst).bind (fun s => (s.notice .concert).map BookingNotice.ok) =
      some true := by decide +kernel
  obtain ⟨final, hrun, hok⟩ := Option.bind_eq_some_iff.mp hnotice
  obtain ⟨notice, htold, hok⟩ := Option.map_eq_some_iff.mp hok
  obtain ⟨reply, hreturned, rfl⟩ := PollState.notice_eq_some htold
  obtain ⟨receipt, _, _, _, hholds⟩ := told_booked_holds hrun hreturned hok
  exact ⟨final, receipt.bookingId, hrun, hholds⟩

end Ticketing
