import Ticketing.Browser.SeatGrid

/-!
# The booking modals

`openConcertBookingModal` and `openTheatersDetail`: three steps, from the seats to the
confirmation to the result, and the handler of the one button that leads through them.
The two scripts are written after the same pattern; where they differ, the kind of the
booking decides. A commit stays under way, with the modal open or closed, until its
answer has come and, if it was queued, the poll for its result has ended.
-/

namespace Ticketing

open Foundation JavaScript Python

inductive ModalKind where
  | concert
  | theater
deriving DecidableEq, Repr

/-! ## What the last step shows -/

/-- `lastResult`. -/
structure BookingNotice where
  ok : Bool
  message : String
deriving DecidableEq, Repr

/-- A failed request: 0 if there has been no response. -/
structure RequestError where
  status : Nat
  data : Value
  message : String

def invalidSeatText : String := "좌석 정보가 올바르지 않습니다. 새로고침 후 다시 시도해주세요."

def paymentFailed : String := "결제 실패"

/-- `result && result.ok === true && String(result.code || '') === 'OK'`. -/
def succeeded (result : Value) : Bool :=
  match result.get "ok" with
  | .bool ok => ok && decide (((result.get "code").orElse (.string "")).toText = "OK")
  | _ => false

/-- `result && result.ok === false`. -/
def refused (result : Value) : Bool :=
  match result.get "ok" with
  | .bool ok => !ok
  | _ => false

def isStatus (result : Value) (text : String) : Bool :=
  match result.get "status" with
  | .string status => decide (status = text)
  | _ => false

def successText (result : Value) : String :=
  let bookingCode :=
    if (result.get "booking_code").truthy then (result.get "booking_code").toText else ""
  (if bookingCode ≠ "" then "예매번호 : " ++ bookingCode ++ "\n" else "") ++ "결제에 성공했습니다."

/-- The text for the code of a refusal, whose own message may be shown. -/
def refusalText (kind : ModalKind) (code : String) (message : Value) : String :=
  if code = "DUPLICATE_SEAT" then "중복좌석입니다."
  else if code = "SOLD_OUT" then "매진입니다."
  else if kind = .concert ∧ code = "SALES_CLOSED" then "모든 투표가 마감되었습니다."
  else if code = "INVALID_SEAT" ∨ code = "BAD_SEAT_KEY" then invalidSeatText
  else if code = "TIMEOUT" then
    (message.orElse (.string
      "처리 시간이 초과되었습니다. 마이페이지에서 예매 내역을 확인해 주세요.")).toText
  else if code = "NOT_FOUND" then
    match kind with
    | .concert => "회차를 찾을 수 없습니다."
    | .theater => "상영 회차를 찾을 수 없습니다."
  else if code = "ERROR" then
    (message.orElse (.string "예매 처리 중 오류가 발생했습니다.")).toText
  else paymentFailed

def noticeOfResult (kind : ModalKind) (result : Value) : BookingNotice :=
  if succeeded result then ⟨true, successText result⟩
  else if refused result then
    let code := if (result.get "code").truthy then (result.get "code").toText else "ERROR"
    ⟨false, refusalText kind code (result.get "message")⟩
  else if isStatus result "UNKNOWN_OR_EXPIRED" || isStatus result "INVALID_REF" then
    ⟨false, ((result.get "message").orElse
      (.string "요청을 찾을 수 없습니다. 다시 시도해 주세요.")).toText⟩
  else ⟨false, paymentFailed⟩

/-- The statuses whose code the `catch` branch reads. -/
def ModalKind.readsStatus : ModalKind → Nat → Bool
  | .concert, status => status = 400 || status = 409
  | .theater, status => status = 400

/-- The text for the code of a response that is an error. -/
def errorText (kind : ModalKind) (code : String) : String :=
  if code = "INVALID_SEAT" ∨ code = "BAD_SEAT_KEY" then invalidSeatText
  else if code = "NO_SEATS" then "좌석을 선택해주세요."
  else if kind = .concert ∧ code = "SALES_CLOSED" then "모든 투표가 마감되었습니다."
  else "요청값이 올바르지 않습니다."

def noticeOfError (kind : ModalKind) (error : RequestError) : BookingNotice :=
  if kind.readsStatus error.status && (error.data.get "code").truthy then
    ⟨false, errorText kind (error.data.get "code").toText⟩
  else ⟨false, if error.message ≠ "" then error.message else paymentFailed⟩

/-! ## The modal -/

/-- What the modals read of their options. -/
structure BookingOptions where
  kind : ModalKind
  hall : ConcertHall
  /-- the id of the show or the schedule -/
  showingId : Int

/-- The grid of `openTheatersDetail`: ten seats a row, as many rows as the seats need. -/
def seatingOfSchedule (schedule hall reservedSeats : Value) : ConcertHall :=
  let totalCount := orInt (max 0 (toInt ((schedule.get "total_count").orElse (.number 0))))
    (max 1 (toInt ((hall.get "total_seats").orElse (.number 30))))
  { seatRows := max 1 (ceilDiv totalCount 10)
    seatCols := 10
    remainCount := max 0 (toInt ((schedule.get "remain_count").orElse (.number 0)))
    price := max 0 (toInt ((schedule.get "price").orElse (.number 14000)))
    reservedSeats :=
      match reservedSeats with
      | .array items => items.map Value.toText
      | _ => []
    rows_pos := le_max_left _ _
    cols_pos := by decide }

/-- `1`, `2` and `3`. -/
inductive BookingPanel where
  | seats
  | confirm
  | result
deriving DecidableEq, Repr

/-- The rows of the second panel that depend on the selection. -/
structure ConfirmPanel where
  seats : String
  count : String
  price : String
deriving DecidableEq, Repr

/-- How far a commit has come. -/
inductive CommitPhase where
  | committing
  /-- queued; the reference that is polled for -/
  | polling (bookingRef : String)
  | settled (booked : Bool)
deriving DecidableEq, Repr

/-- A commit with what has been posted. -/
structure BookingCommit where
  userId : String
  seats : List String
  phase : CommitPhase
deriving DecidableEq, Repr

def BookingCommit.inFlight (commit : BookingCommit) : Bool :=
  match commit.phase with
  | .committing | .polling _ => true
  | .settled _ => false

/-- The variables of the modal, what it shows, the commits it has posted and what it
has told `onBooked`. -/
structure BookingModal where
  isOpen : Bool
  /-- the page has been left by `window.location.reload` -/
  reloaded : Bool
  /-- the listener for keys is there -/
  escapeArmed : Bool
  currentStep : BookingPanel
  selectedSeats : List String
  summary : SeatSummary
  confirm : ConfirmPanel
  submitText : String
  submitDisabled : Bool
  cancelHidden : Bool
  lastResult : Option BookingNotice
  resultMessage : String
  bookingSucceeded : Bool
  commits : List BookingCommit
  booked : List (List String)
  alerts : List String
  /-- calls of `openLoginPage` -/
  loginPages : Nat
deriving DecidableEq, Repr

section Handlers

variable (options : BookingOptions)

def confirmPanelOf (selectedSeats : List String) : ConfirmPanel :=
  let summary := summaryOf options.hall selectedSeats
  ⟨summary.selectedValue, summary.selectedCount, summary.selectedPrice⟩

def setStep (step : BookingPanel) (m : BookingModal) : BookingModal :=
  let m := { m with
    currentStep := step
    cancelHidden := decide (options.kind = ModalKind.theater ∧ step = BookingPanel.result) }
  match step with
  | .seats => { m with submitText := "결제 진행", submitDisabled := m.selectedSeats.length = 0 }
  | .confirm => { m with
      submitText := "확인"
      submitDisabled := m.selectedSeats.length = 0
      confirm := confirmPanelOf options m.selectedSeats }
  | .result => { m with
      submitText := "닫기"
      submitDisabled := false
      resultMessage := (m.lastResult.map BookingNotice.message).getD "" }

/-- The selection after a click on a seat that is free; none if it is full. -/
def toggleSeat (hall : ConcertHall) (seatKey : String) (selectedSeats : List String) :
    Option (List String) :=
  if seatKey ∈ selectedSeats then some (selectedSeats.erase seatKey)
  else if max 1 hall.remainCount ≤ selectedSeats.length then none
  else some (selectedSeats ++ [seatKey])

/-- `updateSummary` behind a change of the selection. -/
def select (selectedSeats : List String) (m : BookingModal) : BookingModal :=
  let summary := summaryOf options.hall selectedSeats
  { m with
    selectedSeats := selectedSeats
    summary := summary
    submitDisabled :=
      if m.currentStep = .seats then summary.submitDisabled else m.submitDisabled }

def clickSeat (seatKey : String) (m : BookingModal) : BookingModal :=
  if seatKey ∈ options.hall.reservedSeats then m
  else
    match toggleSeat options.hall seatKey m.selectedSeats with
    | none => { m with alerts := m.alerts ++ ["선택 가능한 좌석 수를 초과했습니다."] }
    | some selectedSeats => select options selectedSeats m

/-- Only the concert modal reloads the page. -/
def closeModalFromUser (m : BookingModal) : BookingModal :=
  { m with
    isOpen := false
    reloaded := decide (options.kind = .concert) && m.bookingSucceeded }

def askForLogin (m : BookingModal) : BookingModal :=
  { m with alerts := m.alerts ++ ["로그인이 필요합니다."], loginPages := m.loginPages + 1 }

/-- The click on the button, up to the request; the browser holds the user. -/
def clickSubmit (browser : Browser) (m : BookingModal) : BookingModal :=
  match m.currentStep with
  | .seats =>
      if m.selectedSeats.length = 0 then
        { m with alerts := m.alerts ++ ["좌석을 먼저 선택해주세요."] }
      else if modalUserId browser = "" then askForLogin m
      else setStep options .confirm m
  | .confirm =>
      if modalUserId browser = "" then askForLogin m
      else { m with
        submitDisabled := true
        submitText := "처리 중..."
        commits := m.commits ++ [⟨modalUserId browser, m.selectedSeats, .committing⟩] }
  | .result => closeModalFromUser options m

/-- `onBooked` gets the seats that are selected by then. -/
def reportBooked (m : BookingModal) : BookingModal :=
  { m with bookingSucceeded := true, booked := m.booked ++ [m.selectedSeats] }

/-- Behind the notice: `setStep(3)`, and the `finally` branch. -/
def showResult (notice : BookingNotice) (m : BookingModal) : BookingModal :=
  let m := setStep options .result { m with lastResult := some notice }
  { m with
    submitDisabled := false
    submitText := if m.currentStep = .confirm then "확인" else m.submitText }

def setPhase (index : Nat) (phase : CommitPhase) (m : BookingModal) : BookingModal :=
  { m with commits := m.commits.modify index fun commit => { commit with phase := phase } }

/-- The result of a commit is there; `raised` is what `onBooked` throws, if it does. -/
def settle (index : Nat) (result : Value) (raised : Option String) (m : BookingModal) :
    BookingModal :=
  let m := setPhase index (.settled (succeeded result)) m
  if succeeded result then
    match raised with
    | none => showResult options (noticeOfResult options.kind result) (reportBooked m)
    | some message =>
        showResult options (noticeOfError options.kind ⟨0, .undefined, message⟩) (reportBooked m)
  else showResult options (noticeOfResult options.kind result) m

/-- The reference that is polled for behind the answer to the commit. -/
def queuedRef (commit : Value) : Option String :=
  if (commit.get "ok").truthy &&
      decide (((commit.get "code").orElse (.string "")).toText = "QUEUED") &&
      (commit.get "booking_ref").truthy then
    some (trimText (commit.get "booking_ref").toText)
  else none

/-- The answer to a commit, or the end of its poll. -/
def answered (index : Nat) (value : Value) (raised : Option String) (phase : CommitPhase)
    (m : BookingModal) : Option BookingModal :=
  match phase with
  | .committing =>
      match queuedRef value with
      | some bookingRef =>
          some { setPhase index (.polling bookingRef) m with submitText := "예매 처리 중…" }
      | none => some (settle options index value raised m)
  | .polling _ => some (settle options index value raised m)
  | .settled _ => none

def failed (index : Nat) (error : RequestError) (phase : CommitPhase) (m : BookingModal) :
    Option BookingModal :=
  match phase with
  | .committing | .polling _ =>
      some (showResult options (noticeOfError options.kind error)
        (setPhase index (.settled false) m))
  | .settled _ => none

/-- The modal as it opens. -/
def openBookingModal : BookingModal :=
  setStep options .seats
    { isOpen := true
      reloaded := false
      escapeArmed := true
      currentStep := .seats
      selectedSeats := []
      summary := summaryOf options.hall []
      confirm := ⟨"", "", ""⟩
      submitText := "결제 진행"
      submitDisabled := true
      cancelHidden := false
      lastResult := none
      resultMessage := ""
      bookingSucceeded := false
      commits := []
      booked := []
      alerts := []
      loginPages := 0 }

/-- The ways to close the modal. -/
inductive CloseControl where
  | cross
  | cancel
  | backdrop
deriving DecidableEq, Repr

inductive ModalStep where
  | seat (row col : Int)
  | submit (browser : Browser)
  | reselect
  | close (control : CloseControl)
  | key (escape : Bool)
  | answer (index : Nat) (value : Value) (raised : Option String)
  | fail (index : Nat) (error : RequestError)

/-- Clicks reach what is shown and not disabled; requests end at any time, keys are
pressed in front of any page. -/
def modalStep (m : BookingModal) (a : ModalStep) : Option BookingModal :=
  if m.reloaded then none
  else
    match a with
    | .seat row col =>
        if m.isOpen ∧ m.currentStep = .seats ∧ 1 ≤ row ∧ row ≤ options.hall.seatRows ∧
            1 ≤ col ∧ col ≤ options.hall.seatCols then
          some (clickSeat options (createSeatKey row col) m)
        else none
    | .submit browser =>
        if m.isOpen ∧ m.submitDisabled = false then some (clickSubmit options browser m) else none
    | .reselect =>
        if m.isOpen ∧ m.currentStep = .confirm then
          some (setStep options .seats { m with
            bookingSucceeded := decide (options.kind = .theater) && m.bookingSucceeded })
        else none
    | .close control =>
        if m.isOpen ∧ (control = .cancel → m.cancelHidden = false) then
          some (closeModalFromUser options m)
        else none
    | .key escape =>
        -- the listener removes itself with the first key, whichever it is
        if m.escapeArmed then
          let m := { m with escapeArmed := false }
          some (if escape then closeModalFromUser options m else m)
        else none
    | .answer index value raised =>
        (m.commits[index]?).bind fun commit => answered options index value raised commit.phase m
    | .fail index error =>
        (m.commits[index]?).bind fun commit => failed options index error commit.phase m

def modalMachine : Machine BookingModal ModalStep := ⟨modalStep options⟩

end Handlers

end Ticketing
