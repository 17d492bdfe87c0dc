import Ticketing.Foundation.Serial
import Ticketing.User.Accounts

/-!
# Accounts under concurrent requests

Requests of any number of browsers, statement by statement. A request that is answered
between two statements of another one can spoil what the other has checked: then the
other does what no request would do on its own.
-/

namespace Ticketing

open Foundation Python

/-! ## A request on its own -/

section Serve

variable (c : AccountConfig)

/-- Some statements in a row. -/
def AccountStage.statements (gap : Nat) :
    Nat → Table (userIx c) → AccountStage → AccountStage × Table (userIx c)
  | 0, users, stage => (stage, users)
  | count + 1, users, stage =>
      let (stage, users) := stage.next c gap users
      statements gap count users stage

/-- A whole request; none has more than three statements. -/
def AccountStage.serve (gap : Nat) (users : Table (userIx c)) (opening : AccountStage) :
    AccountStage × Table (userIx c) :=
  opening.statements c gap 3 users

end Serve

/-- Where the request of a stage has started. -/
def AccountStage.opening : AccountStage → AccountStage
  | .signupInsert name phone password => .signupCheck name phone password
  | .resetUpdate phone name password => .resetCheck phone name password
  | .changeUpdate userId currentPassword newPassword =>
      .changeCheck userId currentPassword newPassword
  | .editOther userId name phone | .editUpdate userId name phone => .editCheck userId name phone
  | .findByName phone name _ | .findBoth phone name _ _ => .findByPhone phone name
  | stage => stage

def AccountStage.IsReply (stage : AccountStage) : Prop := ∃ reply, stage = .replied reply

/-- The rows still are as the earlier statements of the request have found them, as far
as its answer depends on it. -/
def AccountStage.Undisturbed (c : AccountConfig) (users : Table (userIx c)) :
    AccountStage → Prop
  | .signupInsert _ phone _ => users.rows.any (·.hasPhone c phone) = false
  | .resetUpdate phone name _ => users.rows.any (·.isNamed c phone name) = true
  | .changeUpdate userId currentPassword _ =>
      (users.find userId).any (·.passwordHash = c.sha256 currentPassword) = true
  | .editOther userId _ _ => (users.find userId).isSome = true
  | .editUpdate userId _ phone => (users.find userId).isSome = true ∧
      users.rows.any (fun row => row.hasPhone c phone && row.userId ≠ userId) = false
  | .findBoth phone name matchedPhone matchedName =>
      users.rows.any (·.isNamed c phone name) = true ∨
        matchedPhone = users.rows.any (·.hasPhone c phone) ∧
          matchedName = users.rows.any (·.hasName c name)
  | _ => True

instance (c : AccountConfig) (users : Table (userIx c)) :
    ∀ stage : AccountStage, Decidable (stage.Undisturbed c users)
  | .signupInsert _ _ _ | .resetUpdate _ _ _ | .changeUpdate _ _ _ | .editOther _ _ _ =>
      inferInstanceAs (Decidable (_ = _))
  | .editUpdate _ _ _ => inferInstanceAs (Decidable (_ ∧ _))
  | .findBoth _ _ _ _ => inferInstanceAs (Decidable (_ ∨ _))
  | .signupCheck _ _ _ | .resetCheck _ _ _ | .changeCheck _ _ _ | .editCheck _ _ _
  | .loginFind _ _ | .phoneCount _ | .findByPhone _ _ | .findByName _ _ _ | .mypageFind _
  | .replied _ => isTrue trivial

section Stages

variable {c : AccountConfig} {users next : Table (userIx c)} {stage : AccountStage}
  {reply : AccountReply} {gap : Nat}

theorem written_isReply (text : String) (result : Option (Table (userIx c))) :
    (written c text users result).1.IsReply := by
  cases result with
  | none => exact ⟨_, rfl⟩
  | some next => exact ⟨_, rfl⟩

/-- A statement answers the request, or leads to another stage of it. -/
theorem next_opening (gap : Nat) (users : Table (userIx c)) (stage : AccountStage) :
    (stage.next c gap users).1.IsReply ∨ (stage.next c gap users).1.opening = stage.opening := by
  cases stage with
  | signupCheck name phone password | resetCheck phone name password
  | editOther userId name phone =>
      unfold AccountStage.next
      dsimp only
      split
      · first | exact .inl ⟨_, rfl⟩ | exact .inr rfl
      · first | exact .inl ⟨_, rfl⟩ | exact .inr rfl
  | changeCheck userId currentPassword newPassword =>
      unfold AccountStage.next
      dsimp only
      split
      · exact .inl ⟨_, rfl⟩
      · split
        · exact .inl ⟨_, rfl⟩
        · exact .inr rfl
  | editCheck userId name phone =>
      unfold AccountStage.next
      dsimp only
      split
      · exact .inl ⟨_, rfl⟩
      · exact .inr rfl
  | signupInsert _ _ _ | resetUpdate _ _ _ | changeUpdate _ _ _ | editUpdate _ _ _ =>
      exact .inl (written_isReply _ _)
  | findByPhone phone name | findByName phone name matchedPhone => exact .inr rfl
  | findBoth phone name matchedPhone matchedName =>
      unfold AccountStage.next
      dsimp only
      split <;> exact .inl ⟨_, rfl⟩
  | mypageFind userId =>
      unfold AccountStage.next
      dsimp only
      split <;> exact .inl ⟨_, rfl⟩
  | loginFind phone password | phoneCount phone | replied reply => exact .inl ⟨_, rfl⟩

@[simp] theorem statements_replied (count : Nat) :
    (AccountStage.replied reply).statements c gap count users = (.replied reply, users) := by
  induction count with
  | zero => rfl
  | succ count ih => exact ih

theorem statements_succ {other : AccountStage} (h : stage.next c gap users = (other, next))
    (count : Nat) :
    stage.statements c gap (count + 1) users = other.statements c gap count next := by
  simp only [AccountStage.statements, h]

/-- A statement that answers is the last one. -/
theorem statements_of_isReply (h : (stage.next c gap users).1.IsReply) (count : Nat) :
    stage.statements c gap (count + 1) users = stage.next c gap users := by
  obtain ⟨reply, hreply⟩ := h
  have hnext : stage.next c gap users = (.replied reply, (stage.next c gap users).2) :=
    Prod.ext hreply rfl
  rw [statements_succ hnext, statements_replied, ← hnext]

theorem serve_signup (name phone password : String) :
    (AccountStage.signupCheck name phone password).serve c gap users =
      if users.rows.any (·.hasPhone c phone) then (.replied phoneTaken, users)
      else (AccountStage.signupInsert name phone password).next c gap users := by
  by_cases htaken : users.rows.any (·.hasPhone c phone)
  · have hnext : (AccountStage.signupCheck name phone password).next c gap users =
        (.replied phoneTaken, users) := if_pos htaken
    rw [if_pos htaken, AccountStage.serve, statements_succ hnext, statements_replied]
  · have hnext : (AccountStage.signupCheck name phone password).next c gap users =
        (.signupInsert name phone password, users) := if_neg htaken
    have hreply : ((AccountStage.signupInsert name phone password).next c gap users).1.IsReply :=
      written_isReply _ _
    rw [if_neg htaken, AccountStage.serve, statements_succ hnext, statements_of_isReply hreply]

theorem serve_reset (phone name password : String) :
    (AccountStage.resetCheck phone name password).serve c gap users =
      if users.rows.any (·.isNamed c phone name) then
        (AccountStage.resetUpdate phone name password).next c gap users
      else (.replied userNotFound, users) := by
  by_cases hfound : users.rows.any (·.isNamed c phone name)
  · have hnext : (AccountStage.resetCheck phone name password).next c gap users =
        (.resetUpdate phone name password, users) := if_pos hfound
    have hreply : ((AccountStage.resetUpdate phone name password).next c gap users).1.IsReply :=
      written_isReply _ _
    rw [if_pos hfound, AccountStage.serve, statements_succ hnext, statements_of_isReply hreply]
  · have hnext : (AccountStage.resetCheck phone name password).next c gap users =
        (.replied userNotFound, users) := if_neg hfound
    rw [if_neg hfound, AccountStage.serve, statements_succ hnext, statements_replied]

theorem serve_change (userId : Int) (currentPassword newPassword : String) :
    (AccountStage.changeCheck userId currentPassword newPassword).serve c gap users =
      match users.find userId with
      | none => (.replied userNotFound, users)
      | some row =>
          if row.passwordHash ≠ c.sha256 currentPassword then
            (.replied (.message 401 "현재 비밀번호가 틀립니다."), users)
          else (AccountStage.changeUpdate userId currentPassword newPassword).next c gap users := by
  rw [AccountStage.serve]
  cases hfind : users.find userId with
  | none =>
      have hnext : (AccountStage.changeCheck userId currentPassword newPassword).next c gap users =
          (.replied userNotFound, users) := by simp only [AccountStage.next, hfind]
      rw [statements_succ hnext, statements_replied]
  | some row =>
      by_cases hwrong : row.passwordHash ≠ c.sha256 currentPassword
      · have hnext : (AccountStage.changeCheck userId currentPassword newPassword).next c gap
            users = (.replied (.message 401 "현재 비밀번호가 틀립니다."), users) := by
          unfold AccountStage.next
          simp only [hfind, if_pos hwrong]
        rw [statements_succ hnext, statements_replied]
        exact (if_pos hwrong).symm
      · have hnext : (AccountStage.changeCheck userId currentPassword newPassword).next c gap
            users = (.changeUpdate userId currentPassword newPassword, users) := by
          unfold AccountStage.next
          simp only [hfind, if_neg hwrong]
        have hreply : ((AccountStage.changeUpdate userId currentPassword newPassword).next c gap
            users).1.IsReply := written_isReply _ _
        rw [statements_succ hnext, statements_of_isReply hreply]
        exact (if_neg hwrong).symm

theorem serve_edit (userId : Int) (name phone : String) :
    (AccountStage.editCheck userId name phone).serve c gap users =
      match users.find userId with
      | none => (.replied userNotFound, users)
      | some _ =>
          if users.rows.any (fun row => row.hasPhone c phone && row.userId ≠ userId) then
            (.replied phoneTaken, users)
          else (AccountStage.editUpdate userId name phone).next c gap users := by
  rw [AccountStage.serve]
  cases hfind : users.find userId with
  | none =>
      have hnext : (AccountStage.editCheck userId name phone).next c gap users =
          (.replied userNotFound, users) := by simp only [AccountStage.next, hfind]
      rw [statements_succ hnext, statements_replied]
  | some row =>
      have hfirst : (AccountStage.editCheck userId name phone).next c gap users =
          (.editOther userId name phone, users) := by simp only [AccountStage.next, hfind]
      rw [statements_succ hfirst]
      by_cases hother : users.rows.any (fun row => row.hasPhone c phone && row.userId ≠ userId)
      · have hnext : (AccountStage.editOther userId name phone).next c gap users =
            (.replied phoneTaken, users) := if_pos hother
        rw [statements_succ hnext, statements_replied]
        exact (if_pos hother).symm
      · have hnext : (AccountStage.editOther userId name phone).next c gap users =
            (.editUpdate userId name phone, users) := if_neg hother
        have hreply : ((AccountStage.editUpdate userId name phone).next c gap users).1.IsReply :=
          written_isReply _ _
        rw [statements_succ hnext, statements_of_isReply hreply]
        exact (if_neg hother).symm

theorem serve_find (phone name : String) :
    (AccountStage.findByPhone phone name).serve c gap users =
      (AccountStage.findBoth phone name (users.rows.any (·.hasPhone c phone))
        (users.rows.any (·.hasName c name))).next c gap users := rfl

/-- A message with another status is not the answer of a write. -/
theorem written_ne_message {text other : String} {status : Nat}
    {result : Option (Table (userIx c))}
    (hnext : stage.next c gap users = written c text users result) (hstatus : status ≠ 200) :
    (.replied (.message status other), users) ≠ stage.next c gap users := by
  rw [hnext]
  intro h
  cases result with
  | none => cases congrArg Prod.fst h
  | some next =>
      injection h with hreply _
      injection hreply with hmessage
      injection hmessage with hsame _
      exact hstatus hsame

/-- The statement that answers a request answers as the whole request would, and has the
same effect, exactly if nothing has been disturbed. -/
theorem serve_opening_iff (h : stage.next c gap users = (.replied reply, next)) :
    stage.opening.serve c gap users = (.replied reply, next) ↔ stage.Undisturbed c users := by
  cases stage with
  | signupCheck _ _ _ | resetCheck _ _ _ | changeCheck _ _ _ | editCheck _ _ _ | loginFind _ _
  | phoneCount _ | findByPhone _ _ | mypageFind _ | replied _ =>
      have hreply := statements_of_isReply ⟨reply, congrArg Prod.fst h⟩ 2
      exact iff_of_true (hreply.trans h) trivial
  | findByName phone name matchedPhone => cases h
  | signupInsert name phone password =>
      rw [AccountStage.opening, serve_signup, AccountStage.Undisturbed, ← h]
      split
      next htaken =>
        exact iff_of_false (written_ne_message rfl (by decide)) (by simp only [htaken]; simp)
      next hfree => exact iff_of_true rfl (by simpa using hfree)
  | resetUpdate phone name password =>
      rw [AccountStage.opening, serve_reset, AccountStage.Undisturbed, ← h]
      split
      next hfound => exact iff_of_true rfl hfound
      next hgone => exact iff_of_false (written_ne_message rfl (by decide)) hgone
  | changeUpdate userId currentPassword newPassword =>
      rw [AccountStage.opening, serve_change, AccountStage.Undisturbed, ← h]
      cases hfind : users.find userId with
      | none => exact iff_of_false (written_ne_message rfl (by decide)) (by simp)
      | some row =>
          by_cases hwrong : row.passwordHash ≠ c.sha256 currentPassword
          · simp only [if_pos hwrong]
            exact iff_of_false (written_ne_message rfl (by decide)) (by simpa using hwrong)
          · simp only [if_neg hwrong]
            exact iff_of_true trivial (by simpa using hwrong)
  | editOther userId name phone =>
      rw [AccountStage.opening, serve_edit, AccountStage.Undisturbed]
      unfold AccountStage.next at h
      dsimp only at h
      split at h
      next hother =>
        cases h
        cases hfind : users.find userId with
        | none => simp [userNotFound, phoneTaken, AccountReply.message]
        | some row => exact iff_of_true (if_pos hother) rfl
      next => cases h
  | editUpdate userId name phone =>
      rw [AccountStage.opening, serve_edit, AccountStage.Undisturbed, ← h]
      cases hfind : users.find userId with
      | none => exact iff_of_false (written_ne_message rfl (by decide)) (by simp)
      | some row =>
          by_cases hother :
              users.rows.any (fun row => row.hasPhone c phone && row.userId ≠ userId) = true
          · simp only [if_pos hother]
            refine iff_of_false (written_ne_message rfl (by decide)) fun hquiet => ?_
            exact absurd (hother.symm.trans hquiet.2) (by decide)
          · simp only [if_neg hother]
            exact iff_of_true trivial ⟨rfl, Bool.eq_false_of_not_eq_true hother⟩
  | findBoth phone name matchedPhone matchedName =>
      rw [AccountStage.opening, serve_find, AccountStage.Undisturbed, ← h]
      unfold AccountStage.next
      dsimp only
      cases hfind : users.rows.find? (·.isNamed c phone name) with
      | some row =>
          have hany : users.rows.any (·.isNamed c phone name) = true :=
            List.any_eq_true.mpr ⟨row, List.mem_of_find?_eq_some hfind, List.find?_some hfind⟩
          simp [hany]
      | none =>
          have hany : users.rows.any (·.isNamed c phone name) = false := by
            simpa [List.any_eq_false] using List.find?_eq_none.mp hfind
          simp only [hany, notMatched, Prod.mk.injEq, AccountStage.replied.injEq,
            AccountReply.json.injEq, Json.obj.injEq, List.cons.injEq, Json.bool.injEq, true_and,
            and_true, Bool.false_eq_true, false_or]
          tauto

end Stages

/-! ## Requests in progress -/

/-- An accepted request is in a stage of its own, or has been answered. -/
structure AccountTask where
  request : AccountRequest
  stage : AccountStage
  opened : stage.IsReply ∨ stage.opening = request.opening

theorem AccountRequest.opening_opening (request : AccountRequest) :
    request.opening.opening = request.opening := by
  have hpassword : ∀ password stage, (∀ text, (stage text).opening = stage text) →
      (withPassword password stage).opening = withPassword password stage := by
    intro password stage hstage
    unfold withPassword
    split
    · exact hstage _
    · rfl
  cases request with
  | signup payload | resetPassword payload | login payload =>
      simp only [AccountRequest.opening, authSignup, authResetPassword, authLogin]
      split
      · split
        · rfl
        · exact hpassword _ _ fun _ => rfl
      · rfl
  | changePassword payload =>
      simp only [AccountRequest.opening, authChangePassword]
      split
      · rfl
      · split
        · rfl
        · rfl
        · refine hpassword _ _ fun currentPassword => hpassword _ _ fun newPassword => ?_
          split <;> rfl
  | edit payload =>
      simp only [AccountRequest.opening, authEditUser]
      split
      · split
        · rfl
        · split <;> rfl
      · rfl
  | checkPhone payload | findPassword payload =>
      simp only [AccountRequest.opening, checkPhoneDuplicate, findPasswordUser]
      split
      · split <;> rfl
      · rfl
  | mypage userId =>
      simp only [AccountRequest.opening, getMypage]
      split
      · rfl
      · split
        · rfl
        · split <;> rfl

def AccountTask.accept (request : AccountRequest) : AccountTask :=
  ⟨request, request.opening, .inr request.opening_opening⟩

def AccountTask.fail (task : AccountTask) : AccountTask :=
  ⟨task.request, .replied .raised, .inl ⟨_, rfl⟩⟩

/-- An answered request. -/
structure AccountEvent where
  request : AccountRequest
  gap : Nat
  reply : AccountReply

/-- The table, the requests in progress, the answers that statements have given, and for
each user the password that was last set. -/
structure AccountState (c : AccountConfig) where
  users : Table (userIx c)
  tasks : Tasks AccountTask
  log : List AccountEvent
  passwords : Int → Option String

inductive AccountStep where
  | arrive (id : Nat) (request : AccountRequest)
  | statement (id gap : Nat)
  /-- a statement raises and is not executed -/
  | fault (id : Nat)

section Machine

variable (c : AccountConfig)

theorem AccountTask.opened_next (task : AccountTask) (gap : Nat) (users : Table (userIx c)) :
    (task.stage.next c gap users).1.IsReply ∨
      (task.stage.next c gap users).1.opening = task.request.opening := by
  rcases task.opened with ⟨reply, hreply⟩ | hopened
  · rw [hreply]
    exact .inl ⟨reply, rfl⟩
  · rw [← hopened]
    exact next_opening gap users task.stage

def AccountTask.advance (gap : Nat) (users : Table (userIx c)) (task : AccountTask) :
    AccountTask :=
  ⟨task.request, (task.stage.next c gap users).1, task.opened_next c gap users⟩

/-- The answer of a statement. -/
def AccountTask.answer (gap : Nat) (users : Table (userIx c)) (task : AccountTask) :
    Option AccountEvent :=
  match (task.stage.next c gap users).1 with
  | .replied reply => some ⟨task.request, gap, reply⟩
  | _ => none

/-- The users whose password a statement sets, and the password. -/
def AccountStage.sets (gap : Nat) (users : Table (userIx c)) : AccountStage → List (Int × String)
  | .signupInsert name phone password =>
      match insertUser c gap name phone password users with
      | some _ => [(users.nextId gap, password)]
      | none => []
  | .resetUpdate phone name password =>
      (users.rows.filter (·.isNamed c phone name)).map fun row => (row.userId, password)
  | .changeUpdate userId _ newPassword =>
      (users.rows.filter (·.userId = userId)).map fun row => (row.userId, newPassword)
  | _ => []

def recordPasswords (sets : List (Int × String)) (passwords : Int → Option String) (userId : Int) :
    Option String :=
  ((sets.find? fun entry => entry.1 = userId).map Prod.snd).or (passwords userId)

def accountStep (s : AccountState c) : AccountStep → Option (AccountState c)
  | .arrive id request =>
      match s.tasks id with
      | none => some { s with tasks := s.tasks.set id (some (.accept request)) }
      | some _ => none
  | .statement id gap =>
      match s.tasks id with
      | some task =>
          match task.stage with
          | .replied _ => none
          | stage => some {
              users := (stage.next c gap s.users).2
              tasks := s.tasks.set id (some (task.advance c gap s.users))
              log := s.log ++ (task.answer c gap s.users).toList
              passwords := recordPasswords (stage.sets c gap s.users) s.passwords }
      | none => none
  | .fault id =>
      match s.tasks id with
      | some task =>
          match task.stage with
          | .replied _ => none
          | _ => some { s with tasks := s.tasks.set id (some task.fail) }
      | none => none

def accountMachine : Machine (AccountState c) AccountStep := ⟨accountStep c⟩

/-- No request is in progress. -/
def AccountState.initial (users : Table (userIx c)) (passwords : Int → Option String) :
    AccountState c := ⟨users, .empty, [], passwords⟩

/-- The event is what its request would do on its own. -/
def AccountEvent.Serves (users : Table (userIx c)) (event : AccountEvent)
    (next : Table (userIx c)) : Prop :=
  event.request.opening.serve c event.gap users = (.replied event.reply, next)

/-- A statement that answers finds what the request has found before. -/
def AnswersUndisturbed (s : AccountState c) : AccountStep → Prop
  | .statement id gap =>
      match s.tasks id with
      | some task => (task.answer c gap s.users).isSome = true → task.stage.Undisturbed c s.users
      | none => True
  | .arrive _ _ | .fault _ => True

instance (s : AccountState c) : ∀ a, Decidable (AnswersUndisturbed c s a)
  | .statement id gap =>
      match h : s.tasks id with
      | some task => decidable_of_iff ((task.answer c gap s.users).isSome = true →
          task.stage.Undisturbed c s.users) (by simp [AnswersUndisturbed, h])
      | none => isTrue (by simp [AnswersUndisturbed, h])
  | .arrive _ _ | .fault _ => isTrue trivial

end Machine

section Runs

variable {c : AccountConfig} {s next : AccountState c}

theorem statement_cases {id gap : Nat} (h : accountStep c s (.statement id gap) = some next) :
    ∃ task, s.tasks id = some task ∧ ¬ task.stage.IsReply ∧
      next = { users := (task.stage.next c gap s.users).2
               tasks := s.tasks.set id (some (task.advance c gap s.users))
               log := s.log ++ (task.answer c gap s.users).toList
               passwords := recordPasswords (task.stage.sets c gap s.users) s.passwords } := by
  simp only [accountStep] at h
  split at h
  next task htask =>
    split at h
    next => cases h
    next hpending =>
      refine ⟨task, htask, ?_, (Option.some.inj h).symm⟩
      rintro ⟨reply, hreply⟩
      exact hpending reply hreply
  next => cases h

/-- Only statements that answer write. -/
theorem next_users {gap : Nat} {users : Table (userIx c)} {stage : AccountStage}
    (h : ¬ (stage.next c gap users).1.IsReply) : (stage.next c gap users).2 = users := by
  cases stage with
  | signupCheck _ _ _ | resetCheck _ _ _ | editOther _ _ _ | editCheck _ _ _ | mypageFind _
  | findBoth _ _ _ _ =>
      unfold AccountStage.next
      dsimp only
      split <;> rfl
  | changeCheck userId currentPassword newPassword =>
      unfold AccountStage.next
      dsimp only
      split
      · rfl
      · split <;> rfl
  | signupInsert _ _ _ | resetUpdate _ _ _ | changeUpdate _ _ _ | editUpdate _ _ _ =>
      exact absurd (written_isReply _ _) h
  | loginFind _ _ | phoneCount _ | findByPhone _ _ | findByName _ _ _ | replied _ => rfl

theorem answer_eq_none {task : AccountTask} {gap : Nat} {users : Table (userIx c)}
    (h : ¬ (task.stage.next c gap users).1.IsReply) : task.answer c gap users = none := by
  unfold AccountTask.answer
  split
  next reply hreply => exact absurd ⟨reply, hreply⟩ h
  next => rfl

/-- Every step leaves the table and the log, or logs what it has served. -/
theorem accountStep_logs {a : AccountStep} (h : accountStep c s a = some next) :
    Machine.Logs AccountState.users AccountState.log (AccountEvent.Serves c)
      (AnswersUndisturbed c) s a next := by
  cases a with
  | arrive id request =>
      simp only [accountStep] at h
      split at h
      next =>
        cases h
        exact .inl ⟨rfl, rfl, trivial⟩
      next => cases h
  | fault id =>
      simp only [accountStep] at h
      split at h
      next task _ =>
        split at h
        next => cases h
        next =>
          cases h
          exact .inl ⟨rfl, rfl, trivial⟩
      next => cases h
  | statement id gap =>
      obtain ⟨task, htask, hpending, rfl⟩ := statement_cases h
      simp only [Machine.Logs, AnswersUndisturbed, htask]
      by_cases hreply : (task.stage.next c gap s.users).1.IsReply
      · obtain ⟨reply, hreply⟩ := hreply
        have hanswer : task.answer c gap s.users = some ⟨task.request, gap, reply⟩ := by
          simp only [AccountTask.answer, hreply]
        have hopening := task.opened.resolve_left hpending
        have hnext : task.stage.next c gap s.users =
            (.replied reply, (task.stage.next c gap s.users).2) := Prod.ext hreply rfl
        refine .inr ⟨⟨task.request, gap, reply⟩, by rw [hanswer]; rfl, ?_⟩
        rw [AccountEvent.Serves, ← hopening, serve_opening_iff hnext, hanswer]
        exact (imp_iff_right rfl).symm
      · rw [answer_eq_none hreply]
        exact .inl ⟨next_users hreply, List.append_nil _, by simp⟩

theorem serves_unique (users : Table (userIx c)) (event : AccountEvent)
    (next other : Table (userIx c)) (h : event.Serves c users next)
    (h' : event.Serves c users other) : next = other :=
  congrArg Prod.snd (h.symm.trans h')

/-- The digests of two passwords; the texts are ASCII. -/
def twoPasswords : AccountConfig where
  sortKey text := text
  sha256 text :=
    if text = "first" then "a7937b64b8caa58f03721bb6bacf5c78cb235febe0e70b1b84cd99541461a08e"
    else if text = "second" then "16367aacb67a4a017c8da8ab95682ccb390863780f7114dda0a0e0c55644c7c4"
    else text

def signupKim : AccountRequest :=
  .signup (.obj [("name", .str " kim"), ("phone", .str "010"), ("password", .str "first")])

/-- Somebody signs up while the phone is looked up once more. -/
def signupThenCheck : List AccountStep :=
  [.arrive 0 signupKim, .statement 0 0, .arrive 1 (.checkPhone (.obj [("phone", .str "010")])),
    .statement 0 0, .statement 1 0]

/-- The name is edited between the check of a reset and its UPDATE, which then finds no
row and still answers with success. -/
example :
    ¬ (accountMachine twoPasswords).Along (AnswersUndisturbed _) (.initial _ .empty fun _ => none)
      [.arrive 0 signupKim, .statement 0 0, .statement 0 0,
        .arrive 1 (.resetPassword (.obj [("name", .str "kim"), ("phone", .str "010"),
          ("password", .str "second")])),
        .arrive 2 (.edit (.obj [("user_id", .int 1), ("name", .str "lee"),
          ("phone", .str "010")])),
        .statement 1 0, .statement 2 0, .statement 2 0, .statement 2 0, .statement 1 0] := by
  decide +kernel

/-! ## Who can log in -/

/-- Every user has the hash of the password that was last set. -/
def PasswordsKnown (users : Table (userIx c)) (passwords : Int → Option String) : Prop :=
  ∀ row ∈ users.rows, ∃ password, passwords row.userId = some password ∧
    row.passwordHash = c.sha256 password

theorem recordPasswords_map {rows : List User} {password : String}
    {passwords : Int → Option String} {userId : Int} :
    recordPasswords (rows.map fun row => (row.userId, password)) passwords userId =
      if ∃ row ∈ rows, row.userId = userId then some password else passwords userId := by
  unfold recordPasswords
  induction rows with
  | nil => simp
  | cons first rest ih =>
      by_cases hfirst : first.userId = userId
      · simp [hfirst]
      · simpa [hfirst] using ih

theorem PasswordsKnown.password_set {users written : Table (userIx c)}
    {passwords : Int → Option String} (hknown : PasswordsKnown users passwords)
    {p : User → Bool} {password : String} (h : setPassword c p password users = some written) :
    PasswordsKnown written
      (recordPasswords ((users.rows.filter p).map fun row => (row.userId, password))
        passwords) := by
  intro row hrow
  rw [Table.update_eq_some h] at hrow
  obtain ⟨old, hold, rfl⟩ := List.mem_map.mp hrow
  rw [recordPasswords_map]
  by_cases hp : p old = true
  · rw [if_pos hp, if_pos ⟨old, List.mem_filter.mpr ⟨hold, hp⟩, rfl⟩]
    exact ⟨password, rfl, rfl⟩
  · have hnot : ¬ ∃ row ∈ users.rows.filter p, row.userId = old.userId := by
      rintro ⟨other, hother, hsame⟩
      obtain ⟨hmem, hpother⟩ := List.mem_filter.mp hother
      rw [users.eq_of_pk_eq hmem hold hsame] at hpother
      exact hp hpother
    rw [if_neg hp, if_neg hnot]
    exact hknown old hold

/-- An UPDATE of the hashes keeps the phones, so it raises no duplicate-key error. -/
theorem setPassword_ne_none (p : User → Bool) (password : String) (users : Table (userIx c)) :
    setPassword c p password users ≠ none :=
  Table.update_ne_none fun _ => .inr rfl

theorem PasswordsKnown.user_inserted {users written : Table (userIx c)}
    {passwords : Int → Option String} (hknown : PasswordsKnown users passwords) {gap : Nat}
    {name phone password : String} (h : insertUser c gap name phone password users = some written) :
    PasswordsKnown written
      (recordPasswords [(users.nextId gap, password)] passwords) := by
  unfold insertUser at h
  split at h
  next =>
    obtain ⟨⟨id, _⟩, hinsert, rfl⟩ := Option.map_eq_some_iff.mp h
    obtain ⟨rfl, hrows⟩ := Table.insert_eq_some hinsert
    intro row hrow
    rw [hrows] at hrow
    rcases List.mem_append.mp hrow with hold | hnew
    · have hlt := users.pk_lt_nextId gap hold
      have hother : users.nextId gap ≠ row.userId := ne_of_gt hlt
      simpa [recordPasswords, hother] using hknown row hold
    · rw [List.mem_singleton.mp hnew]
      exact ⟨password, by simp [recordPasswords], rfl⟩
  next => cases h

theorem PasswordsKnown.contact_set {users written : Table (userIx c)}
    {passwords : Int → Option String} (hknown : PasswordsKnown users passwords) {userId : Int}
    {name phone : String} (h : setContact c userId name phone users = some written) :
    PasswordsKnown written passwords := by
  unfold setContact at h
  split at h
  next =>
    intro row hrow
    rw [Table.update_eq_some h] at hrow
    obtain ⟨old, hold, rfl⟩ := List.mem_map.mp hrow
    -- the id and the hash of a row stay
    split
    · exact hknown old hold
    · exact hknown old hold
  next =>
    split at h
    · cases h
    · cases h
      exact hknown

/-- A statement sets the passwords that it is said to set. -/
theorem PasswordsKnown.statement {users : Table (userIx c)} {passwords : Int → Option String}
    (hknown : PasswordsKnown users passwords) (gap : Nat) (stage : AccountStage) :
    PasswordsKnown (stage.next c gap users).2
      (recordPasswords (stage.sets c gap users) passwords) := by
  cases stage with
  | signupInsert name phone password =>
      unfold AccountStage.next
      simp only [AccountStage.sets]
      cases hinsert : insertUser c gap name phone password users with
      | none => exact hknown
      | some written => exact hknown.user_inserted hinsert
  | resetUpdate phone name password =>
      unfold AccountStage.next
      simp only [AccountStage.sets]
      cases hset : setPassword c (·.isNamed c phone name) password users with
      | none => exact absurd hset (setPassword_ne_none _ _ _)
      | some written => exact hknown.password_set hset
  | changeUpdate userId currentPassword newPassword =>
      unfold AccountStage.next
      simp only [AccountStage.sets]
      cases hset : setPassword c (fun row => row.userId = userId) newPassword users with
      | none => exact absurd hset (setPassword_ne_none _ _ _)
      | some written => exact hknown.password_set hset
  | editUpdate userId name phone =>
      unfold AccountStage.next
      simp only [AccountStage.sets]
      cases hset : setContact c userId name phone users with
      | none => exact hknown
      | some written => exact hknown.contact_set hset
  | signupCheck _ _ _ | resetCheck _ _ _ | editOther _ _ _ | editCheck _ _ _ | mypageFind _
  | findBoth _ _ _ _ =>
      unfold AccountStage.next
      dsimp only
      split <;> exact hknown
  | changeCheck userId currentPassword newPassword =>
      unfold AccountStage.next
      dsimp only
      split
      · exact hknown
      · split <;> exact hknown
  | loginFind _ _ | phoneCount _ | findByPhone _ _ | findByName _ _ _ | replied _ => exact hknown

theorem PasswordsKnown.step {a : AccountStep} (hknown : PasswordsKnown s.users s.passwords)
    (h : accountStep c s a = some next) : PasswordsKnown next.users next.passwords := by
  cases a with
  | arrive id request =>
      simp only [accountStep] at h
      split at h
      next => cases h; exact hknown
      next => cases h
  | fault id =>
      simp only [accountStep] at h
      split at h
      next =>
        split at h
        next => cases h
        next => cases h; exact hknown
      next => cases h
  | statement id gap =>
      obtain ⟨task, _, _, rfl⟩ := statement_cases h
      exact hknown.statement gap task.stage

theorem loginReply_eq_loggedIn {password : String} {user : Option User} {row : User} :
    loginReply c password user = loggedIn row ↔
      ∃ other, user = some other ∧ other.profile = row.profile ∧
        other.passwordHash = c.sha256 password := by
  cases user with
  | none => simp [loginReply, loggedIn, AccountReply.message]
  | some other =>
      by_cases hhash : other.passwordHash = c.sha256 password
      · simp [loginReply, loggedIn, hhash]
      · simp [loginReply, loggedIn, AccountReply.message, hhash]

/-- The user of the sign-up. -/
def kim : User :=
  ⟨1, "010", "a7937b64b8caa58f03721bb6bacf5c78cb235febe0e70b1b84cd99541461a08e", "kim",
    by decide, by decide⟩

end Runs

end Ticketing
