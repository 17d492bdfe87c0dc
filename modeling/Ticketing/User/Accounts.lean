import Ticketing.Foundation.Machine
import Ticketing.Foundation.Table
import Ticketing.Foundation.Tasks
import Ticketing.Python.Value

/-!
# User accounts

The endpoints of `auth_user_write.py`, `auth_user_read.py` and the two lookups and the
profile of `user_read.py`. Their connections commit every statement on its own, so between
the check of a request and its write other requests are served. All connections are to
the writer, as they are while no replica is enabled.
-/

namespace Ticketing

open Foundation Python

/-- What the statements rely on outside of this program. -/
structure AccountConfig where
  /-- the sort key of a text: `=` and the unique index compare sort keys -/
  sortKey : String → String
  /-- `make_password_hash` -/
  sha256 : String → String

/-- A row of `users`. -/
structure User where
  userId : Int
  phone : String
  passwordHash : String
  name : String
  phone_le : phone.length ≤ 20
  name_le : name.length ≤ 50
deriving DecidableEq

def userIx (c : AccountConfig) : Indexes User String :=
  ⟨User.userId, fun row => some (c.sortKey row.phone)⟩

section Requests

variable (c : AccountConfig)

/-- `phone = %s`. -/
def User.hasPhone (phone : String) (row : User) : Bool := c.sortKey row.phone == c.sortKey phone

/-- `name = %s`. -/
def User.hasName (name : String) (row : User) : Bool := c.sortKey row.name == c.sortKey name

/-- `phone = %s AND name = %s`. -/
def User.isNamed (phone name : String) (row : User) : Bool :=
  row.hasPhone c phone && row.hasName c name

end Requests

/-! ## Replies -/

/-- A response with its status, or an exception that leaves the handler. -/
inductive AccountReply where
  | json (status : Nat) (content : Json)
  | raised

def AccountReply.message (status : Nat) (text : String) : AccountReply :=
  .json status (.obj [("message", .str text)])

def AccountReply.done (text : String) : AccountReply :=
  .json 200 (.obj [("message", .str text), ("success", .bool true)])

def badInput : AccountReply := .message 400 "입력값이 올바르지 않습니다."

def invalidInput : AccountReply := .message 400 "invalid input"

def phoneTaken : AccountReply := .message 409 "이미 사용 중인 핸드폰번호입니다."

def userNotFound : AccountReply := .message 404 "사용자를 찾을 수 없습니다."

/-- `user_id`, `phone` and `name`. -/
def User.profile (row : User) : Json :=
  .obj [("user_id", .int row.userId), ("phone", .str row.phone), ("name", .str row.name)]

def loggedIn (row : User) : AccountReply :=
  .json 200 (.obj [("message", .str "login success"), ("success", .bool true),
    ("user", row.profile)])

def found (row : User) : AccountReply :=
  .json 200 (.obj [("message", .str "found"), ("success", .bool true),
    ("matched_phone", .bool true), ("matched_name", .bool true), ("user", row.profile)])

def notMatched (matchedPhone matchedName : Bool) : AccountReply :=
  .json 200 (.obj [("message", .str "not matched"), ("success", .bool false),
    ("matched_phone", .bool matchedPhone), ("matched_name", .bool matchedName)])

def counted (count : Nat) : AccountReply :=
  .json 200 (.obj [("message", .str "ok"), ("duplicated", .bool (0 < count)),
    ("count", .int count)])

/-! ## Handlers -/

/-- The statement that a request is in front of, with what its handler holds, or its
reply. A password is hashed where it is used. -/
inductive AccountStage where
  | signupCheck (name phone password : String)
  | signupInsert (name phone password : String)
  | resetCheck (phone name password : String)
  | resetUpdate (phone name password : String)
  | changeCheck (userId : Int) (currentPassword newPassword : String)
  | changeUpdate (userId : Int) (currentPassword newPassword : String)
  | editCheck (userId : Int) (name phone : String)
  | editOther (userId : Int) (name phone : String)
  | editUpdate (userId : Int) (name phone : String)
  | loginFind (phone password : String)
  | phoneCount (phone : String)
  | findByPhone (phone name : String)
  | findByName (phone name : String) (matchedPhone : Bool)
  | findBoth (phone name : String) (matchedPhone matchedName : Bool)
  | mypageFind (userId : Int)
  | replied (reply : AccountReply)

/-- `text.strip()`. -/
def strip (text : String) : String := String.ofList (stripStr text.toList)

/-- `(data.get(key) or "").strip()`; `none` is the AttributeError. -/
def strippedField (data : Json) (key : String) : Option String :=
  match (data.get key).orElse (.str "") with
  | .str text => some (strip text)
  | _ => none

/-- `int(value)` behind `except (TypeError, ValueError)`: the inner `none` is what is
caught, the outer one is not. -/
def guardedInt : Json → Option (Option Int)
  | .int n => some (some n)
  | .bool value => some (some (if value then 1 else 0))
  | .float (.finite _ truncated) => some (some truncated)
  | .float (.infinity _) => none
  | .str text => some (intOfStr text.toList)
  | .float .nan | .null | .arr _ | .obj _ => some none

/-- `payload or {}`, where the payload is an object or missing. -/
def payloadData (payload : Json) : Json := payload.orElse (.obj [])

/-- What is done with a password that has to be hashed; only a text can be. -/
def withPassword (password : Json) (stage : String → AccountStage) : AccountStage :=
  match password with
  | .str text => stage text
  | _ => .replied .raised

def authSignup (payload : Json) : AccountStage :=
  let data := payloadData payload
  let password := (data.get "password").orElse (.str "")
  match strippedField data "name", strippedField data "phone" with
  | some name, some phone =>
      if name = "" ∨ phone = "" ∨ password.truthy = false then .replied badInput
      else withPassword password (.signupCheck name phone)
  | _, _ => .replied .raised

def authResetPassword (payload : Json) : AccountStage :=
  let data := payloadData payload
  let password := (data.get "password").orElse (.str "")
  match strippedField data "phone", strippedField data "name" with
  | some phone, some name =>
      if phone = "" ∨ name = "" ∨ password.truthy = false then .replied badInput
      else withPassword password (.resetCheck phone name)
  | _, _ => .replied .raised

def authChangePassword (payload : Json) : AccountStage :=
  let data := payloadData payload
  let userId := data.get "user_id"
  let currentPassword := (data.get "current_password").orElse (.str "")
  let newPassword := (data.get "new_password").orElse (.str "")
  if userId.truthy = false ∨ currentPassword.truthy = false ∨ newPassword.truthy = false then
    .replied badInput
  else
    match guardedInt userId with
    | none => .replied .raised
    | some none => .replied badInput
    | some (some userId) =>
        withPassword currentPassword fun currentPassword =>
          withPassword newPassword fun newPassword =>
            if currentPassword = newPassword then
              .replied (.message 400 "현재 비밀번호와 다른 비밀번호를 입력해 주세요.")
            else .changeCheck userId currentPassword newPassword

def authEditUser (payload : Json) : AccountStage :=
  let data := payloadData payload
  let userId := data.get "user_id"
  match strippedField data "name", strippedField data "phone" with
  | some name, some phone =>
      if userId.truthy = false ∨ name = "" ∨ phone = "" then .replied badInput
      else
        match guardedInt userId with
        | none => .replied .raised
        | some none => .replied badInput
        | some (some userId) => .editCheck userId name phone
  | _, _ => .replied .raised

def authLogin (payload : Json) : AccountStage :=
  let data := payloadData payload
  let password := (data.get "password").orElse (.str "")
  match strippedField data "phone" with
  | some phone =>
      if phone = "" ∨ password.truthy = false then .replied invalidInput
      else withPassword password (.loginFind phone)
  | none => .replied .raised

/-- `auth_check_phone_duplicate` and `check_phone_duplicate`. -/
def checkPhoneDuplicate (payload : Json) : AccountStage :=
  match strippedField (payloadData payload) "phone" with
  | some phone => if phone = "" then .replied invalidInput else .phoneCount phone
  | none => .replied .raised

/-- `auth_find_password_user` and `find_password_user`. -/
def findPasswordUser (payload : Json) : AccountStage :=
  let data := payloadData payload
  match strippedField data "phone", strippedField data "name" with
  | some phone, some name =>
      if phone = "" ∨ name = "" then .replied invalidInput else .findByPhone phone name
  | _, _ => .replied .raised

def getMypage (userId : Option String) : AccountStage :=
  match userId with
  | none => .replied invalidInput
  | some text =>
      if text = "" then .replied invalidInput
      else
        match intOfStr text.toList with
        | some userId => .mypageFind userId
        | none => .replied invalidInput

inductive AccountRequest where
  | signup (payload : Json)
  | resetPassword (payload : Json)
  | changePassword (payload : Json)
  | edit (payload : Json)
  | login (payload : Json)
  | checkPhone (payload : Json)
  | findPassword (payload : Json)
  | mypage (userId : Option String)

/-- A request up to its first statement. -/
def AccountRequest.opening : AccountRequest → AccountStage
  | .signup payload => authSignup payload
  | .resetPassword payload => authResetPassword payload
  | .changePassword payload => authChangePassword payload
  | .edit payload => authEditUser payload
  | .login payload => authLogin payload
  | .checkPhone payload => checkPhoneDuplicate payload
  | .findPassword payload => findPasswordUser payload
  | .mypage userId => getMypage userId

/-! ## Statements -/

section Statements

variable (c : AccountConfig)

/-- The end of a write: the rows are written, or the statement has raised. -/
def written (text : String) (users : Table (userIx c)) :
    Option (Table (userIx c)) → AccountStage × Table (userIx c)
  | some next => (.replied (.done text), next)
  | none => (.replied .raised, users)

/-- `INSERT INTO users`; a text that is too long for its column raises. -/
def insertUser (gap : Nat) (name phone password : String) (users : Table (userIx c)) :
    Option (Table (userIx c)) :=
  if h : phone.length ≤ 20 ∧ name.length ≤ 50 then
    (users.insert gap (fun id => ⟨id, phone, c.sha256 password, name, h.1, h.2⟩)
      fun _ => rfl).map Prod.snd
  else none

/-- `UPDATE users SET password_hash = %s`. -/
def setPassword (p : User → Bool) (password : String) (users : Table (userIx c)) :
    Option (Table (userIx c)) :=
  users.update p (fun row => { row with passwordHash := c.sha256 password }) fun _ => rfl

/-- `UPDATE users SET name = %s, phone = %s`. A text that is too long raises if there is a
row to be written. -/
def setContact (userId : Int) (name phone : String) (users : Table (userIx c)) :
    Option (Table (userIx c)) :=
  if h : phone.length ≤ 20 ∧ name.length ≤ 50 then
    users.update (fun row => row.userId = userId)
      (fun row => ⟨row.userId, phone, row.passwordHash, name, h.1, h.2⟩) fun _ => rfl
  else if users.rows.any (fun row => row.userId = userId) then none
  else some users

/-- The user that a login is checked against. -/
def loginReply (password : String) : Option User → AccountReply
  | none => .message 401 "전화번호가 틀립니다."
  | some row =>
      if row.passwordHash = c.sha256 password then loggedIn row
      else .message 401 "비밀번호가 틀립니다."

/-- One statement, with the gap in the AUTO_INCREMENT values that an INSERT finds. -/
def AccountStage.next (gap : Nat) (users : Table (userIx c)) :
    AccountStage → AccountStage × Table (userIx c)
  | .signupCheck name phone password =>
      if users.rows.any (·.hasPhone c phone) then (.replied phoneTaken, users)
      else (.signupInsert name phone password, users)
  | .signupInsert name phone password =>
      written c "signup success" users (insertUser c gap name phone password users)
  | .resetCheck phone name password =>
      if users.rows.any (·.isNamed c phone name) then (.resetUpdate phone name password, users)
      else (.replied userNotFound, users)
  | .resetUpdate phone name password =>
      written c "password reset success" users
        (setPassword c (·.isNamed c phone name) password users)
  | .changeCheck userId currentPassword newPassword =>
      match users.find userId with
      | none => (.replied userNotFound, users)
      | some row =>
          if row.passwordHash ≠ c.sha256 currentPassword then
            (.replied (.message 401 "현재 비밀번호가 틀립니다."), users)
          else (.changeUpdate userId currentPassword newPassword, users)
  | .changeUpdate userId _ newPassword =>
      written c "password change success" users
        (setPassword c (fun row => row.userId = userId) newPassword users)
  | .editCheck userId name phone =>
      match users.find userId with
      | none => (.replied userNotFound, users)
      | some _ => (.editOther userId name phone, users)
  | .editOther userId name phone =>
      if users.rows.any (fun row => row.hasPhone c phone && row.userId ≠ userId) then
        (.replied phoneTaken, users)
      else (.editUpdate userId name phone, users)
  | .editUpdate userId name phone =>
      written c "edit success" users (setContact c userId name phone users)
  | .loginFind phone password =>
      (.replied (loginReply c password (users.rows.find? (·.hasPhone c phone))), users)
  | .phoneCount phone => (.replied (counted (users.rows.countP (·.hasPhone c phone))), users)
  | .findByPhone phone name =>
      (.findByName phone name (users.rows.any (·.hasPhone c phone)), users)
  | .findByName phone name matchedPhone =>
      (.findBoth phone name matchedPhone (users.rows.any (·.hasName c name)), users)
  | .findBoth phone name matchedPhone matchedName =>
      match users.rows.find? (·.isNamed c phone name) with
      | some row => (.replied (found row), users)
      | none => (.replied (notMatched matchedPhone matchedName), users)
  | .mypageFind userId =>
      match users.find userId with
      | none => (.replied (.message 404 "user not found"), users)
      | some row => (.replied (.json 200 row.profile), users)
  | .replied reply => (.replied reply, users)

end Statements

end Ticketing
