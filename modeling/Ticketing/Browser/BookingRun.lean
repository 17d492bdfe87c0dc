import Ticketing.Browser.BookingModal

/-!
# What a booking modal posts and reports

Every run of a modal, with commits that end at any time. What is posted is a selection
that the hall allows, and it is the one that the second panel shows. A modal posts once
and reports the seats it has posted, exactly as long as nobody goes back to the seats
while a commit is under way; the button that leads back is not disabled then.
-/

namespace Ticketing

open Foundation JavaScript Python

/-! ## What a step can do -/

/-- The part of a modal that decides what is posted and reported. -/
@[ext] structure ModalCore where
  currentStep : BookingPanel
  selectedSeats : List String
  summary : SeatSummary
  confirm : ConfirmPanel
  submitDisabled : Bool
  commits : List BookingCommit
  booked : List (List String)

def BookingModal.core (m : BookingModal) : ModalCore :=
  ⟨m.currentStep, m.selectedSeats, m.summary, m.confirm, m.submitDisabled, m.commits, m.booked⟩

/-- A commit in another phase. -/
def BookingCommit.become (phase : CommitPhase) (commit : BookingCommit) : BookingCommit :=
  { commit with phase := phase }

inductive ModalMove (options : BookingOptions) (m : BookingModal) : ModalStep → ModalCore → Prop
  | idle {a : ModalStep} (ha : a ≠ .reselect) : ModalMove options m a m.core
  | pick {row col : Int} {selectedSeats : List String} (hstep : m.currentStep = .seats)
      (hkey : options.hall.IsSeatKey (createSeatKey row col))
      (hfree : createSeatKey row col ∉ options.hall.reservedSeats)
      (htoggle : toggleSeat options.hall (createSeatKey row col) m.selectedSeats =
        some selectedSeats) :
      ModalMove options m (.seat row col) { m.core with
        selectedSeats := selectedSeats
        summary := summaryOf options.hall selectedSeats
        submitDisabled := selectedSeats.length = 0 }
  | confirm {browser : Browser} (hstep : m.currentStep = .seats) (hsome : m.selectedSeats ≠ []) :
      ModalMove options m (.submit browser) { m.core with
        currentStep := .confirm
        submitDisabled := false
        confirm := confirmPanelOf options m.selectedSeats }
  | post {browser : Browser} (hstep : m.currentStep = .confirm)
      (henabled : m.submitDisabled = false) (huser : modalUserId browser ≠ "") :
      ModalMove options m (.submit browser) { m.core with
        submitDisabled := true
        commits := m.commits ++ [⟨modalUserId browser, m.selectedSeats, .committing⟩] }
  | reselect (hstep : m.currentStep = .confirm) :
      ModalMove options m .reselect { m.core with
        currentStep := .seats
        submitDisabled := m.selectedSeats.length = 0 }
  | poll {a : ModalStep} {index : Nat} {commit : BookingCommit} {bookingRef : String}
      (ha : a ≠ .reselect) (hcommit : m.commits[index]? = some commit)
      (hphase : commit.inFlight = true) :
      ModalMove options m a { m.core with
        commits := m.commits.modify index (BookingCommit.become (.polling bookingRef)) }
  | settle {a : ModalStep} {index : Nat} {commit : BookingCommit} {booked : Bool}
      (ha : a ≠ .reselect) (hcommit : m.commits[index]? = some commit)
      (hphase : commit.inFlight = true) :
      ModalMove options m a { m.core with
        currentStep := .result
        submitDisabled := false
        commits := m.commits.modify index (BookingCommit.become (.settled booked))
        booked := if booked then m.booked ++ [m.selectedSeats] else m.booked }

section Moves

variable {options : BookingOptions} {m next : BookingModal}

theorem core_setStep (step : BookingPanel) :
    (setStep options step m).core = { m.core with
      currentStep := step
      submitDisabled := if step = .result then false else m.selectedSeats.length = 0
      confirm := if step = .confirm then confirmPanelOf options m.selectedSeats
        else m.confirm } := by
  cases step <;> rfl

theorem core_showResult (notice : BookingNotice) :
    (showResult options notice m).core =
      { m.core with currentStep := .result, submitDisabled := false } := rfl

theorem core_settle (index : Nat) (result : Value) (raised : Option String) :
    (settle options index result raised m).core = { m.core with
      currentStep := .result
      submitDisabled := false
      commits := m.commits.modify index (BookingCommit.become (.settled (succeeded result)))
      booked := if succeeded result then m.booked ++ [m.selectedSeats] else m.booked } := by
  unfold settle
  cases hresult : succeeded result with
  | false => rfl
  | true => cases raised <;> rfl

theorem isSeatKey_createSeatKey {hall : ConcertHall} {row col : Int} (hrow : 1 ≤ row)
    (hrows : row ≤ hall.seatRows) (hcol : 1 ≤ col) (hcols : col ≤ hall.seatCols) :
    hall.IsSeatKey (createSeatKey row col) :=
  ⟨row, col, hrow, hrows, hcol, hcols, rfl⟩

theorem clickSeat_move {row col : Int} (hstep : m.currentStep = .seats)
    (hkey : options.hall.IsSeatKey (createSeatKey row col)) :
    ModalMove options m (.seat row col) (clickSeat options (createSeatKey row col) m).core := by
  unfold clickSeat
  split
  next => exact .idle (by simp)
  next hfree =>
    split
    next => exact .idle (by simp)
    next selectedSeats htoggle =>
      have hmove := ModalMove.pick hstep hkey hfree htoggle
      simpa [select, BookingModal.core, hstep, summaryOf] using hmove

theorem clickSubmit_move {browser : Browser} (henabled : m.submitDisabled = false) :
    ModalMove options m (.submit browser) (clickSubmit options browser m).core := by
  unfold clickSubmit
  split
  next hstep =>
    split
    next => exact .idle (by simp)
    next hsome =>
      split
      next => exact .idle (by simp)
      next =>
        have hmove := @ModalMove.confirm options m browser hstep fun hnil => hsome (by simp [hnil])
        simpa [core_setStep, hsome] using hmove
  next hstep =>
    split
    next => exact .idle (by simp)
    next huser => exact .post hstep henabled huser
  next => exact .idle (by simp)

theorem answered_move {index : Nat} {value : Value} {raised : Option String}
    {commit : BookingCommit} (hcommit : m.commits[index]? = some commit)
    (h : answered options index value raised commit.phase m = some next) :
    ModalMove options m (.answer index value raised) next.core := by
  have hsettle : ModalMove options m (.answer index value raised)
      (settle options index value raised m).core ∨ commit.inFlight = false := by
    cases hflight : commit.inFlight with
    | false => exact .inr rfl
    | true =>
        rw [core_settle]
        exact .inl (.settle (by simp) hcommit hflight)
  unfold answered at h
  cases hphase : commit.phase with
  | committing =>
      have hflight : commit.inFlight = true := by simp [BookingCommit.inFlight, hphase]
      rw [hphase] at h
      dsimp only at h
      split at h
      next bookingRef _ =>
        obtain rfl := Option.some.inj h
        exact .poll (by simp) hcommit hflight
      next =>
        obtain rfl := Option.some.inj h
        exact hsettle.resolve_right (by simp [hflight])
  | polling bookingRef =>
      rw [hphase] at h
      obtain rfl := Option.some.inj h
      exact hsettle.resolve_right (by simp [BookingCommit.inFlight, hphase])
  | settled booked =>
      rw [hphase] at h
      cases h

theorem failed_move {index : Nat} {error : RequestError} {commit : BookingCommit}
    (hcommit : m.commits[index]? = some commit)
    (h : failed options index error commit.phase m = some next) :
    ModalMove options m (.fail index error) next.core := by
  have hsettle (hflight : commit.inFlight = true) : ModalMove options m (.fail index error)
      (showResult options (noticeOfError options.kind error)
        (setPhase index (.settled false) m)).core :=
    .settle (by simp) hcommit hflight
  unfold failed at h
  cases hphase : commit.phase with
  | committing | polling _ =>
      rw [hphase] at h
      obtain rfl := Option.some.inj h
      exact hsettle (by simp [BookingCommit.inFlight, hphase])
  | settled booked =>
      rw [hphase] at h
      cases h

theorem modalStep_move {a : ModalStep} (h : modalStep options m a = some next) :
    ModalMove options m a next.core := by
  unfold modalStep at h
  obtain ⟨_, h⟩ := Option.ite_none_left_eq_some.mp h
  cases a with
  | seat row col =>
      obtain ⟨⟨_, hstep, hrow, hrows, hcol, hcols⟩, hnext⟩ := Option.ite_none_right_eq_some.mp h
      obtain rfl := Option.some.inj hnext
      exact clickSeat_move hstep (isSeatKey_createSeatKey hrow hrows hcol hcols)
  | submit browser =>
      obtain ⟨⟨_, henabled⟩, hnext⟩ := Option.ite_none_right_eq_some.mp h
      obtain rfl := Option.some.inj hnext
      exact clickSubmit_move henabled
  | reselect =>
      obtain ⟨⟨_, hstep⟩, hnext⟩ := Option.ite_none_right_eq_some.mp h
      obtain rfl := Option.some.inj hnext
      exact .reselect hstep
  | close control =>
      obtain ⟨_, hnext⟩ := Option.ite_none_right_eq_some.mp h
      obtain rfl := Option.some.inj hnext
      exact .idle (by simp)
  | key escape =>
      obtain ⟨_, hnext⟩ := Option.ite_none_right_eq_some.mp h
      obtain rfl := Option.some.inj hnext
      cases escape <;> exact .idle (by simp)
  | answer index value raised =>
      obtain ⟨commit, hcommit, hanswered⟩ := Option.bind_eq_some_iff.mp h
      exact answered_move hcommit hanswered
  | fail index error =>
      obtain ⟨commit, hcommit, hfailed⟩ := Option.bind_eq_some_iff.mp h
      exact failed_move hcommit hfailed

end Moves

/-! ## What is posted -/

/-- Seats that the hall allows to select, at least one, and a user. -/
structure BookingCommit.Allowed (hall : ConcertHall) (commit : BookingCommit) : Prop where
  selection : hall.Selection commit.seats
  nonempty : commit.seats ≠ []
  user : ∃ browser, commit.userId = modalUserId browser ∧ modalUserId browser ≠ ""

structure ModalCore.Sound (options : BookingOptions) (c : ModalCore) : Prop where
  selection : options.hall.Selection c.selectedSeats
  summary : c.summary = summaryOf options.hall c.selectedSeats
  confirming : c.currentStep = .confirm →
    c.selectedSeats ≠ [] ∧ c.confirm = confirmPanelOf options c.selectedSeats
  allowed : ∀ commit ∈ c.commits, commit.Allowed options.hall

section Posted

variable {options : BookingOptions} {m next : BookingModal} {a : ModalStep}

theorem ConcertHall.Selection.toggle {hall : ConcertHall} {seatKey : String}
    {selectedSeats toggled : List String} (h : hall.Selection selectedSeats)
    (hkey : hall.IsSeatKey seatKey) (hfree : seatKey ∉ hall.reservedSeats)
    (htoggle : toggleSeat hall seatKey selectedSeats = some toggled) : hall.Selection toggled := by
  unfold toggleSeat at htoggle
  split at htoggle
  next =>
    obtain rfl := Option.some.inj htoggle
    exact h.erase
  next hnew =>
    obtain ⟨hroom, htoggle⟩ := Option.ite_none_left_eq_some.mp htoggle
    obtain rfl := Option.some.inj htoggle
    exact h.add hkey hfree hnew (not_le.mp hroom)

/-- Another phase of a commit changes nothing that was posted. -/
theorem allowed_modify {hall : ConcertHall} {commits : List BookingCommit} {index : Nat}
    {phase : CommitPhase} (h : ∀ commit ∈ commits, commit.Allowed hall) :
    ∀ commit ∈ commits.modify index (BookingCommit.become phase), commit.Allowed hall := by
  intro commit hcommit
  obtain ⟨place, hplace⟩ := List.mem_iff_getElem?.mp hcommit
  rw [List.getElem?_modify] at hplace
  obtain ⟨before, hbefore, rfl⟩ := Option.map_eq_some_iff.mp hplace
  have hallowed := h before (List.mem_of_getElem? hbefore)
  split
  · exact ⟨hallowed.selection, hallowed.nonempty, hallowed.user⟩
  · exact hallowed

theorem ModalCore.Sound.move (hsound : m.core.Sound options) {core : ModalCore}
    (hmove : ModalMove options m a core) : core.Sound options := by
  cases hmove with
  | idle _ => exact hsound
  | pick hstep hkey hfree htoggle =>
      refine ⟨hsound.selection.toggle hkey hfree htoggle, rfl, ?_, hsound.allowed⟩
      intro hconfirm
      exact absurd (hstep.symm.trans hconfirm) (by simp)
  | confirm hstep hsome =>
      exact ⟨hsound.selection, hsound.summary, fun _ => ⟨hsome, rfl⟩, hsound.allowed⟩
  | post hstep henabled huser =>
      refine ⟨hsound.selection, hsound.summary, hsound.confirming, ?_⟩
      refine List.forall_mem_append.mpr ⟨hsound.allowed, List.forall_mem_singleton.mpr ?_⟩
      exact ⟨hsound.selection, (hsound.confirming hstep).1, _, rfl, huser⟩
  | reselect hstep => exact ⟨hsound.selection, hsound.summary, by simp, hsound.allowed⟩
  | poll _ _ _ =>
      exact ⟨hsound.selection, hsound.summary, hsound.confirming, allowed_modify hsound.allowed⟩
  | settle _ _ _ =>
      exact ⟨hsound.selection, hsound.summary, by simp, allowed_modify hsound.allowed⟩

theorem openBookingModal_sound : (openBookingModal options).core.Sound options :=
  ⟨selection_nil, rfl, by simp [openBookingModal, core_setStep],
    fun _ hcommit => absurd hcommit List.not_mem_nil⟩

theorem modalMachine_sound {steps : List ModalStep}
    (hrun : (modalMachine options).run (openBookingModal options) steps = some m) :
    m.core.Sound options :=
  have hstep : ∀ m a next, m.core.Sound options → (modalMachine options).step m a = some next →
      next.core.Sound options := fun _ _ _ hsound h => hsound.move (modalStep_move h)
  Machine.run_invariant hstep openBookingModal_sound hrun

/-- Whatever has happened in a modal before: a step posts nothing, or it posts one
commit behind those before, of seats that the hall allows, with a user, and the second
panel is shown with just these seats. -/
theorem posted_as_confirmed {steps : List ModalStep}
    (hrun : (modalMachine options).run (openBookingModal options) steps = some m)
    (hstep : (modalMachine options).step m a = some next) :
    next.commits.map BookingCommit.seats = m.commits.map BookingCommit.seats ∨
      ∃ commit, next.commits = m.commits ++ [commit] ∧ commit.Allowed options.hall ∧
        m.currentStep = .confirm ∧ m.confirm = confirmPanelOf options commit.seats := by
  have hsound := modalMachine_sound hrun
  have hmove : ModalMove options m a next.core := modalStep_move hstep
  have hsame (index : Nat) (phase : CommitPhase) :
      (m.commits.modify index (BookingCommit.become phase)).map BookingCommit.seats =
        m.commits.map BookingCommit.seats := by
    apply List.ext_getElem?
    intro place
    rw [List.getElem?_map, List.getElem?_map, List.getElem?_modify]
    cases m.commits[place]? with
    | none => rfl
    | some commit => by_cases hplace : index = place <;> simp [hplace, BookingCommit.become]
  have hcommits : next.commits = next.core.commits := rfl
  generalize next.core = core at hmove hcommits
  rw [hcommits]
  cases hmove with
  | idle _ => exact .inl rfl
  | pick _ _ _ _ => exact .inl rfl
  | confirm _ _ => exact .inl rfl
  | reselect _ => exact .inl rfl
  | poll _ _ _ => exact .inl (hsame _ _)
  | settle _ _ _ => exact .inl (hsame _ _)
  | post hconfirm henabled huser =>
      obtain ⟨hsome, hpanel⟩ := hsound.confirming hconfirm
      exact .inr ⟨_, rfl, ⟨hsound.selection, hsome, _, rfl, huser⟩, hconfirm, hpanel⟩

end Posted

/-! ## One commit -/

/-- Nothing has been posted, or one commit has: while it is under way its seats are
selected and confirmed, the button waits, and nothing has been reported; afterwards the
result is shown, and its seats have been reported if they are booked. -/
inductive ModalCore.OneCommit (c : ModalCore) : Prop
  | none (hcommits : c.commits = []) (hbooked : c.booked = [])
  | inFlight {commit : BookingCommit} (hcommits : c.commits = [commit])
      (hflight : commit.inFlight = true) (hstep : c.currentStep = .confirm)
      (hwaits : c.submitDisabled = true) (hseats : commit.seats = c.selectedSeats)
      (hbooked : c.booked = [])
  | settled {commit : BookingCommit} {booked : Bool} (hcommits : c.commits = [commit])
      (hphase : commit.phase = .settled booked) (hstep : c.currentStep = .result)
      (hbooked : c.booked = if booked then [commit.seats] else [])

/-- Nobody goes back to the seats while a commit is under way. -/
def WaitsForCommit (m : BookingModal) : ModalStep → Prop
  | .reselect => ∀ commit ∈ m.commits, commit.inFlight = false
  | .seat _ _ | .submit _ | .close _ | .key _ | .answer _ _ _ | .fail _ _ => True

section OneCommit

variable {options : BookingOptions} {m next : BookingModal} {a : ModalStep}

theorem waitsForCommit_of_ne (ha : a ≠ .reselect) : WaitsForCommit m a := by
  cases a with
  | reselect => exact absurd rfl ha
  | seat _ _ | submit _ | close _ | key _ | answer _ _ _ | fail _ _ => trivial

/-- With a commit under way it is the only one. -/
theorem ModalCore.OneCommit.of_inFlight {c : ModalCore} (hone : c.OneCommit) {index : Nat}
    {commit : BookingCommit} (hcommit : c.commits[index]? = some commit)
    (hflight : commit.inFlight = true) :
    index = 0 ∧ c.commits = [commit] ∧ c.currentStep = .confirm ∧ c.submitDisabled = true ∧
      commit.seats = c.selectedSeats ∧ c.booked = [] := by
  have hzero {other : BookingCommit} (hcommits : c.commits = [other]) :
      index = 0 ∧ other = commit := by
    rw [hcommits] at hcommit
    cases index with
    | zero => exact ⟨rfl, by simpa using hcommit⟩
    | succ index => simp at hcommit
  cases hone with
  | none hcommits hbooked => simp [hcommits] at hcommit
  | inFlight hcommits _ hstep hwaits hseats hbooked =>
      obtain ⟨rfl, rfl⟩ := hzero hcommits
      exact ⟨rfl, hcommits, hstep, hwaits, hseats, hbooked⟩
  | settled hcommits hphase _ _ =>
      obtain ⟨rfl, rfl⟩ := hzero hcommits
      simp [BookingCommit.inFlight, hphase] at hflight

/-- A step keeps to one commit exactly if it waits for what is under way. -/
theorem oneCommit_move_iff (hone : m.core.OneCommit) {core : ModalCore}
    (hmove : ModalMove options m a core) : core.OneCommit ↔ WaitsForCommit m a := by
  cases hmove with
  | idle ha => exact iff_of_true hone (waitsForCommit_of_ne ha)
  | pick hstep hkey hfree htoggle =>
      refine iff_of_true ?_ trivial
      cases hone with
      | none hcommits hbooked => exact .none hcommits hbooked
      | inFlight _ _ hconfirm _ _ _ => exact absurd (hstep.symm.trans hconfirm) (by simp)
      | settled _ _ hresult _ => exact absurd (hstep.symm.trans hresult) (by simp)
  | confirm hstep hsome =>
      refine iff_of_true ?_ trivial
      cases hone with
      | none hcommits hbooked => exact .none hcommits hbooked
      | inFlight _ _ hconfirm _ _ _ => exact absurd (hstep.symm.trans hconfirm) (by simp)
      | settled _ _ hresult _ => exact absurd (hstep.symm.trans hresult) (by simp)
  | post hstep henabled huser =>
      refine iff_of_true ?_ trivial
      cases hone with
      | none hcommits hbooked =>
          exact .inFlight (congrArg (· ++ [_]) hcommits) rfl hstep rfl rfl hbooked
      | inFlight _ _ _ hwaits _ _ => exact absurd (henabled.symm.trans hwaits) (by simp)
      | settled _ _ hresult _ => exact absurd (hstep.symm.trans hresult) (by simp)
  | reselect hstep =>
      constructor
      · intro hnext commit hcommit
        -- behind the click the modal is at the seats
        cases hnext with
        | none hcommits _ => simp [show m.commits = [] from hcommits] at hcommit
        | inFlight _ _ hconfirm _ _ _ => cases hconfirm
        | settled _ _ hresult _ => cases hresult
      · intro hwaits
        cases hone with
        | none hcommits hbooked => exact .none hcommits hbooked
        | @inFlight commit hcommits hflight _ _ _ _ =>
            have hmem : commit ∈ m.core.commits := by simp [hcommits]
            exact absurd (hflight.symm.trans (hwaits commit hmem)) (by simp)
        | settled _ _ hresult _ => exact absurd (hstep.symm.trans hresult) (by simp)
  | poll ha hcommit hflight =>
      refine iff_of_true ?_ (waitsForCommit_of_ne ha)
      obtain ⟨rfl, hcommits, hstep, hwaits, hseats, hbooked⟩ := hone.of_inFlight hcommit hflight
      exact .inFlight (congrArg (List.modify · 0 _) hcommits) rfl hstep hwaits hseats hbooked
  | settle ha hcommit hflight =>
      refine iff_of_true ?_ (waitsForCommit_of_ne ha)
      obtain ⟨rfl, hcommits, hstep, hwaits, hseats, hbooked⟩ := hone.of_inFlight hcommit hflight
      refine .settled (congrArg (List.modify · 0 _) hcommits) rfl rfl ?_
      change (if _ then m.core.booked ++ [m.core.selectedSeats] else m.core.booked) = _
      rw [hbooked, ← hseats]
      rfl

theorem openBookingModal_oneCommit : (openBookingModal options).core.OneCommit :=
  .none rfl rfl

/-- In every state of a run the modal has posted one commit at most, waits for it with
its seats on display, and has reported just these if they are booked: exactly if nobody
goes back to the seats while a commit is under way. -/
theorem one_commit_iff {steps : List ModalStep}
    (hrun : (modalMachine options).run (openBookingModal options) steps = some m) :
    (modalMachine options).Along WaitsForCommit (openBookingModal options) steps ↔
      ∀ before after middle, steps = before ++ after →
        (modalMachine options).run (openBookingModal options) before = some middle →
          middle.core.OneCommit := by
  have hstep : ∀ m a next, m.core.OneCommit → (modalMachine options).step m a = some next →
      (next.core.OneCommit ↔ WaitsForCommit m a) :=
    fun m a next hone h => oneCommit_move_iff hone (modalStep_move h)
  exact Machine.along_iff_invariant hstep openBookingModal_oneCommit hrun

end OneCommit

/-! ## Back to the seats too early -/

/-- One row of three seats. -/
def smallOptions : BookingOptions :=
  ⟨.concert, .ofShow (.object [("seat_rows", .number 1), ("seat_cols", .number 3),
    ("remain_count", .number 3), ("price", .number 1000)]) (.array [.string "1-3"]), 5⟩

/-- User 7. -/
def someBrowser : Browser := ⟨none, some "7", none, 0, []⟩

/-- The first seat is posted. -/
def postFirstSeat : List ModalStep := [.seat 1 1, .submit someBrowser, .submit someBrowser]

def bookedResult : Value := .object [("ok", .bool true), ("code", .string "OK")]

theorem posted_as_confirmed_first : ∃ m next,
    (modalMachine smallOptions).run (openBookingModal smallOptions)
        [.seat 1 1, .submit someBrowser] = some m ∧
      (modalMachine smallOptions).step m (.submit someBrowser) = some next ∧
      ∃ commit, next.commits = m.commits ++ [commit] ∧ commit.seats = ["1-1"] ∧
        m.confirm = confirmPanelOf smallOptions commit.seats := by
  obtain ⟨m, hrun, hcommits⟩ : ∃ m, (modalMachine smallOptions).run
      (openBookingModal smallOptions) [.seat 1 1, .submit someBrowser] = some m ∧
        m.commits = [] := ⟨_, rfl, rfl⟩
  obtain ⟨next, hstep, hposted⟩ : ∃ next,
      (modalMachine smallOptions).step m (.submit someBrowser) = some next ∧
        next.commits.map BookingCommit.seats = [["1-1"]] := by
    obtain rfl := Option.some.inj hrun
    exact ⟨_, rfl, rfl⟩
  rcases posted_as_confirmed hrun hstep with hsame | ⟨commit, hcommit, _, _, hpanel⟩
  · rw [hposted, hcommits] at hsame
    cases hsame
  · rw [hcommit, hcommits] at hposted
    have hseats : commit.seats = ["1-1"] := by simpa using hposted
    exact ⟨m, next, hrun, hstep, commit, hcommit, hseats, hpanel⟩

/-- The user goes back while the first seat is under way, and takes the second seat in
its place. Then the first one is booked, and the second one is reported. -/
theorem one_commit_iff_reselect : ∃ m,
    (modalMachine smallOptions).run (openBookingModal smallOptions)
        (postFirstSeat ++ [.reselect, .seat 1 1, .seat 1 2, .answer 0 bookedResult none]) =
          some m ∧
      m.commits = [⟨"7", ["1-1"], .settled true⟩] ∧ m.booked = [["1-2"]] ∧
      ¬ (modalMachine smallOptions).Along WaitsForCommit (openBookingModal smallOptions)
        (postFirstSeat ++ [.reselect, .seat 1 1, .seat 1 2, .answer 0 bookedResult none]) := by
  obtain ⟨m, hrun, hcommits, hbooked⟩ : ∃ m,
      (modalMachine smallOptions).run (openBookingModal smallOptions)
          (postFirstSeat ++ [.reselect, .seat 1 1, .seat 1 2, .answer 0 bookedResult none]) =
            some m ∧
        m.commits = [⟨"7", ["1-1"], .settled true⟩] ∧ m.booked = [["1-2"]] := ⟨_, rfl, rfl, rfl⟩
  refine ⟨m, hrun, hcommits, hbooked, fun halong => ?_⟩
  have hone := (one_commit_iff hrun).mp halong _ [] m (List.append_nil _).symm hrun
  cases hone with
  | none hnil _ => simp [BookingModal.core, hcommits] at hnil
  | inFlight hsingle hflight _ _ _ _ =>
      obtain rfl := List.singleton_inj.mp (hcommits.symm.trans hsingle)
      cases hflight
  | settled hsingle hphase _ hreported =>
      obtain rfl := List.singleton_inj.mp (hcommits.symm.trans hsingle)
      obtain rfl := CommitPhase.settled.inj hphase
      exact absurd (hbooked.symm.trans hreported) (by decide)

end Ticketing
