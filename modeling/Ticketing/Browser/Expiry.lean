import Ticketing.Browser.Session

/-!
# What is left of a session that has expired

`getLoginUser` drops the record and nothing else. The key `user_id` stays, so
`getStoredUserId` goes on answering with it, and whatever writes the record again
starts a new session.
-/

namespace Ticketing

open Foundation

section Expiry

variable {b next : Browser}

/-- Nobody is logged in. -/
def Browser.LoggedOut (b : Browser) : Prop :=
  (getLoginUser b).1 = none ∧ (getStoredUserId b).1 = ""

/-- There is a login record, and its time has passed. -/
def Browser.Expired (b : Browser) : Prop :=
  ∃ user, b.login = some (.user user) ∧ passed b.now user.expiresAt = true

/-! ## Reading -/

theorem getLoginUser_eq_none_iff :
    (getLoginUser b).1 = none ↔
      ∀ user, b.login = some (.user user) → passed b.now user.expiresAt = true := by
  unfold getLoginUser
  split
  next user hlogin =>
    rw [hlogin]
    split
    next hpassed => simp [hpassed]
    next hlive => simp [hlive]
  next hlogin => simp [hlogin]
  next hlogin => simp [hlogin]
  next hlogin => simp [hlogin]

/-- Time does not run backwards. -/
theorem passed_mono {now later : Int} {expiresAt : Option Int}
    (hpassed : passed now expiresAt = true) (hlater : now ≤ later) :
    passed later expiresAt = true := by
  cases expiresAt with
  | none => exact hpassed
  | some time =>
      simp only [passed, ne_eq, decide_not, Bool.and_eq_true, decide_eq_true_eq] at hpassed ⊢
      exact ⟨hpassed.1, Int.lt_of_lt_of_le hpassed.2 hlater⟩

theorem getLoginUser_of_none (h : (getLoginUser b).1 = none) :
    getLoginUser b = (none, { b with login := none }) := by
  unfold getLoginUser at h ⊢
  split
  next user hlogin =>
    simp only [hlogin] at h
    split at h
    next hpassed => rw [if_pos hpassed]
    next => cases h
  next => rfl
  next => rfl
  next => rfl

/-- The keys do not change when the record is read. -/
theorem directUserId_getLoginUser : directUserId (getLoginUser b).2 = directUserId b := by
  unfold getLoginUser
  split
  next => split <;> rfl
  next => rfl
  next => rfl
  next => rfl

theorem directUserId_getStoredUserId : directUserId (getStoredUserId b).2 = directUserId b := by
  unfold getStoredUserId
  split
  next => rfl
  next => exact directUserId_getLoginUser

theorem loggedOut_iff : b.LoggedOut ↔ (getLoginUser b).1 = none ∧ directUserId b = "" := by
  unfold Browser.LoggedOut
  refine and_congr_right fun hnone => ?_
  unfold getStoredUserId
  split
  next hdirect => exact Iff.rfl
  next hdirect =>
    simp only [hnone, Option.bind_none, userIdText, true_iff]
    exact not_not.mp hdirect

/-! ## Writing -/

theorem directUserId_setStoredUserId (userId : Option UserIdValue) :
    directUserId (setStoredUserId userId b) =
      if userIdText userId = "" then directUserId b else userIdText userId := by
  unfold setStoredUserId
  split
  next => rfl
  next hid =>
    have hkey : (some (userIdText userId)).filter (· ≠ "") = some (userIdText userId) := by
      simpa [Option.filter] using hid
    rw [directUserId, hkey, Option.getD_some]

theorem setStoredUserId_login (userId : Option UserIdValue) :
    (setStoredUserId userId b).login = b.login ∧ (setStoredUserId userId b).now = b.now := by
  unfold setStoredUserId
  split <;> exact ⟨rfl, rfl⟩

/-- The record of a session that starts now. -/
def Browser.startSession (b : Browser) (userId : Option UserIdValue) (options : SessionOptions) :
    Browser :=
  { b with login := some (.user ⟨userId, some (freshExpiry b.now options)⟩) }

theorem setLoginUser_of_none (h : (getLoginUser b).1 = none) (userId : Option UserIdValue)
    (options : SessionOptions) :
    setLoginUser userId options b = setStoredUserId userId (b.startSession userId options) := by
  simp only [setLoginUser, getLoginUser_of_none h, Option.bind_none, ite_self, Option.filter_none,
    Option.getD_none]
  rfl

theorem patchLoginUser_of_none (h : (getLoginUser b).1 = none)
    (nextUserId : Option (Option UserIdValue)) (options : SessionOptions) :
    patchLoginUser nextUserId options b =
      setStoredUserId (nextUserId.getD none) (b.startSession (nextUserId.getD none) options) := by
  simp only [patchLoginUser, getLoginUser_of_none h, Option.bind_none]
  rw [setLoginUser_of_none rfl]
  rfl

/-- A new record leaves the browser logged out if it has expired already and names no
user. -/
theorem loggedOut_startSession_iff (hdirect : directUserId b = "") (userId : Option UserIdValue)
    (options : SessionOptions) :
    (setStoredUserId userId (b.startSession userId options)).LoggedOut ↔
      userIdText userId = "" ∧ passed b.now (some (freshExpiry b.now options)) = true := by
  obtain ⟨hlogin, hnow⟩ := @setStoredUserId_login (b.startSession userId options) userId
  rw [loggedOut_iff, getLoginUser_eq_none_iff, hlogin, hnow, directUserId_setStoredUserId, and_comm]
  refine and_congr ?_ ?_
  · split
    next hid => exact iff_of_true hdirect hid
    next hid => exact Iff.rfl
  · simp [Browser.startSession]

theorem directUserId_setLoginUser (userId : Option UserIdValue) (options : SessionOptions) :
    directUserId (setLoginUser userId options b) =
      if userIdText userId = "" then directUserId b else userIdText userId := by
  simp only [setLoginUser]
  rw [directUserId_setStoredUserId, ← directUserId_getLoginUser (b := b)]
  rfl

theorem directUserId_patchLoginUser (nextUserId : Option (Option UserIdValue))
    (options : SessionOptions) :
    directUserId b ≠ "" → directUserId (patchLoginUser nextUserId options b) ≠ "" := by
  intro hdirect
  simp only [patchLoginUser]
  rw [directUserId_setLoginUser]
  split
  next => rwa [directUserId_getLoginUser]
  next hid => exact hid

/-- The my-page view writes back the key that it has read. -/
theorem directUserId_answerMyPage {userId : String} (hid : userId ≠ "")
    (answered : Option UserIdValue) : directUserId (answerMyPage userId answered b) ≠ "" := by
  refine directUserId_patchLoginUser _ _ ?_
  rw [directUserId_setStoredUserId]
  by_cases hanswered : userIdText answered = ""
  · rw [if_pos hanswered, if_neg]
    · exact hid
    · exact hid
  · rwa [if_neg hanswered, if_neg hanswered]

/-! ## Runs -/

/-- The step names no user and starts no session that is still live. -/
def StaysOut (b : Browser) : SessionStep → Prop
  | .login userId options =>
      userIdText userId = "" ∧ passed b.now (some (freshExpiry b.now options)) = true
  | .patch nextUserId options => userIdText (nextUserId.getD none) = "" ∧
      passed b.now (some (freshExpiry b.now options)) = true
  | .setUserId userId => userIdText userId = ""
  | .answer _ _ => False
  | .getLogin | .getUserId | .clear | .loadMyPage | .fail _ | .tick _ => True

theorem loggedOut_step_iff {a : SessionStep} (hout : b.LoggedOut)
    (h : sessionStep b a = some next) : next.LoggedOut ↔ StaysOut b a := by
  obtain ⟨hnone, hdirect⟩ := loggedOut_iff.mp hout
  have hexpired := getLoginUser_eq_none_iff.mp hnone
  have hread : ({ b with login := none } : Browser).LoggedOut :=
    loggedOut_iff.mpr ⟨rfl, hdirect⟩
  have hloads : ∀ loads, ({ b with loads := loads } : Browser).LoggedOut := fun loads =>
    loggedOut_iff.mpr ⟨getLoginUser_eq_none_iff.mpr hexpired, hdirect⟩
  have huserId : (getStoredUserId b).2 = { b with login := none } := by
    rw [getStoredUserId, if_neg (not_not.mpr hdirect), getLoginUser_of_none hnone]
  cases a with
  | login userId options =>
      obtain rfl := Option.some.inj h
      rw [setLoginUser_of_none hnone]
      exact loggedOut_startSession_iff hdirect userId options
  | patch nextUserId options =>
      obtain rfl := Option.some.inj h
      rw [patchLoginUser_of_none hnone]
      exact loggedOut_startSession_iff hdirect _ options
  | setUserId userId =>
      obtain rfl := Option.some.inj h
      rw [loggedOut_iff, directUserId_setStoredUserId, StaysOut]
      obtain ⟨hlogin, hnow⟩ := setStoredUserId_login (b := b) userId
      rw [getLoginUser_eq_none_iff, hlogin, hnow, ← getLoginUser_eq_none_iff, and_iff_right hnone]
      split
      next hid => exact iff_of_true hdirect hid
      next => exact Iff.rfl
  | getLogin =>
      obtain rfl := Option.some.inj h
      rw [getLoginUser_of_none hnone]
      exact iff_of_true hread trivial
  | getUserId =>
      obtain rfl := Option.some.inj h
      rw [huserId]
      exact iff_of_true hread trivial
  | clear =>
      obtain rfl := Option.some.inj h
      exact iff_of_true ⟨rfl, rfl⟩ trivial
  | loadMyPage =>
      obtain rfl := Option.some.inj h
      rw [loadMyPageUser, dif_pos hout.2, huserId]
      exact iff_of_true hread trivial
  | answer load answered =>
      obtain ⟨⟨userId, hid⟩, _, rfl⟩ := Option.map_eq_some_iff.mp h
      refine iff_of_false (fun hafter => ?_) id
      exact directUserId_answerMyPage hid answered (loggedOut_iff.mp hafter).2
  | fail load =>
      obtain ⟨_, _, rfl⟩ := Option.map_eq_some_iff.mp h
      exact iff_of_true (hloads _) trivial
  | tick milliseconds =>
      obtain rfl := Option.some.inj h
      refine iff_of_true (loggedOut_iff.mpr ⟨getLoginUser_eq_none_iff.mpr ?_, hdirect⟩) trivial
      intro user hlogin
      exact passed_mono (hexpired user hlogin) (Int.le_add_of_nonneg_right (Int.natCast_nonneg _))

/-- Nobody is logged in at any time of the run. -/
def LoggedOutAlong (b : Browser) (steps : List SessionStep) : Prop :=
  ∀ before after middle, steps = before ++ after → sessionMachine.run b before = some middle →
    middle.LoggedOut

/-- From the moment at which the login record has expired, for any sequence of
operations: exactly if both keys are empty then, and no operation names a user or
starts a session, nobody is logged in any more. -/
theorem expired_loggedOut_iff {final : Browser} {steps : List SessionStep} (hexpired : b.Expired)
    (hrun : sessionMachine.run b steps = some final) :
    LoggedOutAlong b steps ↔ directUserId b = "" ∧ sessionMachine.Along StaysOut b steps := by
  have hstep : ∀ b a next, Browser.LoggedOut b → sessionMachine.step b a = some next →
      (next.LoggedOut ↔ StaysOut b a) := fun _ _ _ hout h => loggedOut_step_iff hout h
  have hnone : (getLoginUser b).1 = none := by
    obtain ⟨user, hlogin, hpassed⟩ := hexpired
    refine getLoginUser_eq_none_iff.mpr fun other hother => ?_
    obtain rfl : user = other := StoredLogin.user.inj (Option.some.inj (hlogin.symm.trans hother))
    exact hpassed
  constructor
  · intro hall
    have hout : b.LoggedOut := hall [] steps b rfl rfl
    exact ⟨(loggedOut_iff.mp hout).2, (Machine.along_iff_invariant hstep hout hrun).mpr hall⟩
  · rintro ⟨hdirect, halong⟩
    exact (Machine.along_iff_invariant hstep (loggedOut_iff.mpr ⟨hnone, hdirect⟩) hrun).mp halong

/-! ## The key outlives the record -/

/-- Only `clearLoginUser` takes the key away. -/
theorem directUserId_step {a : SessionStep} (hdirect : directUserId b ≠ "") (hclear : a ≠ .clear)
    (h : sessionStep b a = some next) : directUserId next ≠ "" := by
  cases a with
  | login userId options =>
      obtain rfl := Option.some.inj h
      rw [directUserId_setLoginUser]
      split
      next => exact hdirect
      next hid => exact hid
  | patch nextUserId options =>
      obtain rfl := Option.some.inj h
      exact directUserId_patchLoginUser nextUserId options hdirect
  | setUserId userId =>
      obtain rfl := Option.some.inj h
      rw [directUserId_setStoredUserId]
      split
      next => exact hdirect
      next hid => exact hid
  | getLogin =>
      obtain rfl := Option.some.inj h
      rwa [directUserId_getLoginUser]
  | getUserId =>
      obtain rfl := Option.some.inj h
      rwa [directUserId_getStoredUserId]
  | clear => exact absurd rfl hclear
  | loadMyPage =>
      obtain rfl := Option.some.inj h
      have hread : directUserId (getStoredUserId b).2 ≠ "" := by
        rwa [directUserId_getStoredUserId]
      simp only [loadMyPageUser]
      split
      next => exact hread
      next => exact hread
  | answer load answered =>
      obtain ⟨⟨userId, hid⟩, _, rfl⟩ := Option.map_eq_some_iff.mp h
      exact directUserId_answerMyPage hid answered
  | fail load =>
      obtain ⟨_, _, rfl⟩ := Option.map_eq_some_iff.mp h
      exact hdirect
  | tick milliseconds =>
      obtain rfl := Option.some.inj h
      exact hdirect

/-- After a login that names its user, `getStoredUserId` answers until the user logs
out, however late that is. -/
theorem getStoredUserId_after_login {final : Browser} {steps : List SessionStep}
    {userId : Option UserIdValue} {options : SessionOptions} (hid : userIdText userId ≠ "")
    (hclear : .clear ∉ steps)
    (hrun : sessionMachine.run (setLoginUser userId options b) steps = some final) :
    (getStoredUserId final).1 ≠ "" := by
  have hstep : ∀ b a next, directUserId b ≠ "" → a ≠ .clear →
      sessionMachine.step b a = some next → directUserId next ≠ "" :=
    fun _ _ _ hdirect hne h => directUserId_step hdirect hne h
  have hstart : directUserId (setLoginUser userId options b) ≠ "" := by
    rw [directUserId_setLoginUser, if_neg hid]
    exact hid
  have halong : sessionMachine.Along (fun _ a => a ≠ .clear)
      (setLoginUser userId options b) steps :=
    Machine.along_of_forall fun a ha hne => hclear (hne ▸ ha)
  have hdirect := Machine.run_invariant_along hstep hstart halong hrun
  rw [getStoredUserId, if_pos hdirect]
  exact hdirect

end Expiry

/-! ## Two hours later -/

/-- A record without a `user_id` that has expired. -/
def namelessBrowser : Browser := ⟨some (.user ⟨none, some 1000⟩), none, none, 2000, []⟩

theorem nameless_loggedOut : LoggedOutAlong namelessBrowser [.getLogin, .loadMyPage, .tick 1000] :=
  (expired_loggedOut_iff ⟨_, rfl, rfl⟩ rfl).mpr
    ⟨rfl, .cons rfl trivial (.cons rfl trivial (.cons rfl trivial trivial))⟩

/-- After a login of user 5 and two hours, `getStoredUserId` still answers, and the
my-page view starts a new session. -/
theorem expired_session_revived : ∃ expired revived,
    sessionMachine.run ⟨none, none, none, 1000, []⟩
        [.login (some (.number 5)) ⟨none, none⟩, .tick 7200001] = some expired ∧
      expired.Expired ∧ (getLoginUser expired).1 = none ∧ (getStoredUserId expired).1 = "5" ∧
      modalUserId expired = "5" ∧
      sessionMachine.run expired [.loadMyPage, .answer 0 (some (.number 5))] = some revived ∧
      (getLoginUser revived).1 = some ⟨some (.number 5), some 14401001⟩ ∧
      ¬ LoggedOutAlong expired [.loadMyPage, .answer 0 (some (.number 5))] := by
  refine ⟨_, _, rfl, ⟨_, rfl, rfl⟩, rfl, rfl, by decide, rfl, rfl, fun hout => ?_⟩
  exact absurd (hout [] _ _ rfl rfl).2 (by decide)

end Ticketing
