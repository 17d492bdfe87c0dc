import Mathlib.Tactic.Common
import Ticketing.Foundation.Machine
import Ticketing.Python.Integer

/-!
# The session in the browser

The login record in `localStorage` carries the time at which it expires. The key
`user_id`, which is written with it, carries none. The functions of `app-config.js`
read and write both, and so does the my-page view, whose request to the server may
be answered at any later time.
-/

namespace Ticketing

open Foundation

/-! ## Storage -/

/-- A `user_id`, as the server or a form gives it. -/
inductive UserIdValue where
  | number (value : Int)
  | text (value : String)
deriving DecidableEq, Repr

/-- `String(userId)` of an id that is truthy; empty for the others, and for none. -/
def userIdText : Option UserIdValue → String
  | some (.number value) => if value = 0 then "" else toString value
  | some (.text value) => value
  | none => ""

/-- The fields of the login record that the session depends on. -/
structure LoginUser where
  userId : Option UserIdValue
  expiresAt : Option Int
deriving DecidableEq, Repr

/-- What is stored under `loginUser`. -/
inductive StoredLogin where
  /-- not JSON -/
  | broken
  /-- JSON, but null or no object -/
  | other
  | user (user : LoginUser)
deriving DecidableEq, Repr

/-- Both storages, the clock in milliseconds, and the my-page views whose request has
not been answered yet, with the id they have read. -/
structure Browser where
  login : Option StoredLogin
  userId : Option String
  sessionUserId : Option String
  now : Int
  loads : List {id : String // id ≠ ""}
deriving DecidableEq, Repr

/-! ## `app-config.js` -/

/-- `expiresAt && Date.now() > Number(expiresAt)`. -/
def passed (now : Int) : Option Int → Bool
  | some expiresAt => expiresAt ≠ 0 && expiresAt < now
  | none => false

def getLoginUser (b : Browser) : Option LoginUser × Browser :=
  match b.login with
  | some (.user user) =>
      if passed b.now user.expiresAt then (none, { b with login := none }) else (some user, b)
  | some .broken | some .other | none => (none, { b with login := none })

def setStoredUserId (userId : Option UserIdValue) (b : Browser) : Browser :=
  if userIdText userId = "" then b else { b with userId := some (userIdText userId) }

/-- `localStorage.getItem('user_id') || sessionStorage.getItem('user_id')`. -/
def directUserId (b : Browser) : String :=
  (b.userId.filter (· ≠ "")).getD (b.sessionUserId.getD "")

def getStoredUserId (b : Browser) : String × Browser :=
  if directUserId b ≠ "" then (directUserId b, b)
  else
    let (loginUser, b) := getLoginUser b
    (userIdText (loginUser.bind LoginUser.userId), b)

structure SessionOptions where
  preserveExpires : Option Bool
  expiresInMinutes : Option Int
deriving DecidableEq, Repr

def defaultLoginExpireMinutes : Int := 120

/-- The time at which a session expires that starts now. -/
def freshExpiry (now : Int) (options : SessionOptions) : Int :=
  now + (options.expiresInMinutes.filter (· ≠ 0)).getD defaultLoginExpireMinutes * 60 * 1000

/-- `setLoginUser`, of a user with the id `userId`. -/
def setLoginUser (userId : Option UserIdValue) (options : SessionOptions) (b : Browser) :
    Browser :=
  let (current, b) := getLoginUser b
  let kept := if options.preserveExpires = some true then current.bind LoginUser.expiresAt else none
  let expiresAt := (kept.filter (· ≠ 0)).getD (freshExpiry b.now options)
  setStoredUserId userId { b with login := some (.user ⟨userId, some expiresAt⟩) }

/-- `patchLoginUser`; the fields may hold a `user_id`, and that may be undefined. -/
def patchLoginUser (nextUserId : Option (Option UserIdValue)) (options : SessionOptions)
    (b : Browser) : Browser :=
  let (current, b) := getLoginUser b
  setLoginUser (nextUserId.getD (current.bind LoginUser.userId))
    { options with preserveExpires := some (options.preserveExpires.getD true) } b

def clearLoginUser (b : Browser) : Browser :=
  { b with login := none, userId := none, sessionUserId := none }

/-! ## The views -/

/-- `loadMyPageUser` up to its request. -/
def loadMyPageUser (b : Browser) : Browser :=
  let read := getStoredUserId b
  if hempty : read.1 = "" then read.2
  else { read.2 with loads := read.2.loads ++ [⟨read.1, hempty⟩] }

/-- `loadMyPageUser` from the answer on: the server's id, or else the one of the
request. -/
def answerMyPage (userId : String) (answered : Option UserIdValue) (b : Browser) : Browser :=
  let finalUserId := if userIdText answered = "" then some (.text userId) else answered
  patchLoginUser (some finalUserId) ⟨none, none⟩ (setStoredUserId finalUserId b)

/-- The whitespace that `trim()` removes. -/
def isTrimSpace (c : Char) : Bool := c.toNat = 0xfeff || c.toNat ≠ 0x85 && Python.isIntSpace c

/-- `getStoredUserId` of the booking modals. -/
def modalUserId (b : Browser) : String :=
  let raw := Python.trim isTrimSpace (getStoredUserId b).1.toList
  -- `/^\d+$/` and a positive number
  if raw ≠ [] ∧ raw.all Char.isDigit ∧ raw.any (· ≠ '0') then String.ofList raw else ""

/-! ## Runs -/

inductive SessionStep where
  /-- `setLoginUser` -/
  | login (userId : Option UserIdValue) (options : SessionOptions)
  | patch (nextUserId : Option (Option UserIdValue)) (options : SessionOptions)
  | setUserId (userId : Option UserIdValue)
  | getLogin
  | getUserId
  | clear
  | loadMyPage
  /-- the answer to the request of a my-page view -/
  | answer (load : Nat) (answered : Option UserIdValue)
  /-- its failure -/
  | fail (load : Nat)
  | tick (milliseconds : Nat)
deriving DecidableEq, Repr

def sessionStep (b : Browser) : SessionStep → Option Browser
  | .login userId options => some (setLoginUser userId options b)
  | .patch nextUserId options => some (patchLoginUser nextUserId options b)
  | .setUserId userId => some (setStoredUserId userId b)
  | .getLogin => some (getLoginUser b).2
  | .getUserId => some (getStoredUserId b).2
  | .clear => some (clearLoginUser b)
  | .loadMyPage => some (loadMyPageUser b)
  | .answer load answered =>
      (b.loads[load]?).map fun userId : {id : String // id ≠ ""} =>
        answerMyPage userId.1 answered { b with loads := b.loads.eraseIdx load }
  | .fail load => (b.loads[load]?).map fun _ => { b with loads := b.loads.eraseIdx load }
  | .tick milliseconds => some { b with now := b.now + milliseconds }

def sessionMachine : Machine Browser SessionStep := ⟨sessionStep⟩

end Ticketing
