import Ticketing.User.HistoryRun

/-!
# What the page of all bookings shows

Requests overlap, refunds and the worker write in between, and the page is left and opened
again. What is shown has been an answer all the same, and a refund that is asked for is of a
booking that is there.
-/

namespace Ticketing

open Foundation Python

/-! ## Rows and bookings -/

section Rows

variable {world : BookingWorld} {user : Int} {row : BookingRow}

/-- Every row of the UNION is one of a booking of the user. -/
theorem booking_of_row (h : row ∈ world.tables.unionRows user) :
    ∃ b ∈ row.kind.bookings world.db, b.bookingId = row.bookingId ∧ b.userId = user ∧
      b.bookStatus = row.bookStatus := by
  rcases List.mem_append.mp h with hmovie | hconcert
  · obtain ⟨b, hb, hrow⟩ := List.mem_flatMap.mp hmovie
    obtain ⟨hmem, howner⟩ := List.mem_filter.mp hb
    obtain ⟨hkind, hid, hstatus⟩ := mem_movieRows hrow
    rw [hkind]
    rw [world.movies] at hmem
    exact ⟨b, hmem, hid.symm, of_decide_eq_true howner, hstatus.symm⟩
  · obtain ⟨b, hb, hrow⟩ := List.mem_flatMap.mp hconcert
    obtain ⟨hmem, howner⟩ := List.mem_filter.mp hb
    obtain ⟨hkind, hid, hstatus⟩ := mem_concertRows hrow
    rw [hkind]
    rw [world.concerts] at hmem
    exact ⟨b, hmem, hid.symm, of_decide_eq_true howner, hstatus.symm⟩

end Rows

section Answers

variable {userId : String} {user : Int} {s middle : HistoryState} {content : BookingsPage}
variable {world : BookingWorld}

theorem HistoryState.Serves.answers (h : s.Serves userId user content)
    (huser : userIdOf (some userId) = some user) :
    ∃ sorted, SortedBy BookingRow.sortKey (s.world.tables.unionRows user) sorted ∧
      content.Answers s.world.tables sorted user := by
  obtain ⟨sorted, page, hsorted, hone, hle, hcontent⟩ := h
  obtain ⟨other, hother, hanswers⟩ := getBookings_answers sorted huser hone hle
  obtain rfl := BookingsReply.page.inj (hcontent.symm.trans hother)
  exact ⟨sorted, hsorted, hanswers⟩

/-- Whatever is written later, an answer does not become untrue. -/
theorem HistoryState.Serves.truthful (h : middle.Serves userId user content)
    (huser : userIdOf (some userId) = some user) (hkept : middle.world.Kept world) :
    content.Truthful user world := by
  obtain ⟨sorted, hsorted, hanswers⟩ := h.answers huser
  refine ⟨hanswers.one_le_page, hanswers.page_le, ?_, fun entry hentry => ?_⟩
  · rw [hanswers.totalPages]
    exact pagesFor_mono hkept.totalCount_le
  · rw [hanswers.bookings] at hentry
    obtain ⟨row, hrow, rfl⟩ := List.mem_map.mp hentry
    have hlisted : row ∈ sorted := List.mem_of_mem_drop (List.mem_of_mem_take hrow)
    obtain ⟨b, hb, hid, howner, hstatus⟩ := booking_of_row (hsorted.perm.mem_iff.mp hlisted)
    obtain ⟨b', hb', hbecomes⟩ := hkept row.kind b hb
    refine ⟨b', hb', hbecomes.bookingId.trans hid, hbecomes.userId.trans howner, ?_⟩
    intro hcancelled
    exact hbecomes.isCancelled (by rw [hstatus]; exact hcancelled)

end Answers

/-! ## Runs -/

section Runs

variable {timeOf : DateTime → Option Int} {userId : String} {user : Int}
variable {start s next : HistoryState} {a : HistoryAction} {actions before : List HistoryAction}

/-- `get_bookings` has given this answer, to bookings that have been kept since. -/
def HistoryState.Given (timeOf : DateTime → Option Int) (userId : String) (user : Int)
    (start : HistoryState) (before : List HistoryAction) (s : HistoryState)
    (content : BookingsPage) : Prop :=
  (historyMachine timeOf userId).Once start before fun middle =>
    middle.world.Kept s.world ∧ middle.Serves userId user content

theorem HistoryState.loadBookings_rest (task : Nat) (page : Int) (refund : Bool) :
    (s.loadBookings timeOf userId task page refund).world = s.world ∧
      ∀ other, other ≠ task →
        (s.loadBookings timeOf userId task page refund).tasks other = s.tasks other := by
  unfold loadBookings renderBookingList showPages
  by_cases hmount : s.page.mount.isSome = true
  · simp only [hmount, if_true]
    split <;> exact ⟨rfl, fun _ hother => Function.update_of_ne hother _ _⟩
  · simp only [hmount, Bool.false_eq_true, if_false]
    split <;> exact ⟨rfl, fun _ hother => Function.update_of_ne hother _ _⟩

/-- Only the services and the refunds write to the database. -/
def HistoryAction.Writes (s : HistoryState) (world : BookingWorld) : HistoryAction → Prop
  | .write written => world = written
  | .execute _ env => ∃ payload, world = (s.world.refund env payload).2
  | _ => world = s.world

/-- A step writes what its action writes, and goes on with one task. -/
theorem historyStep_cases (hstep : historyStep timeOf userId s a = some next) :
    a.Writes s next.world ∧ ∃ task, ∀ other, other ≠ task → next.tasks other = s.tasks other := by
  have hupdate : ∀ {task other : Nat} {phase : HistoryTask}, other ≠ task →
      Function.update s.tasks task phase other = s.tasks other :=
    fun hother => Function.update_of_ne hother _ _
  -- what is shown at the end of a request changes neither
  have hended : ∀ {shown : HistoryState} {task : Nat} {refund : Bool},
      shown.tasks = s.tasks ∧ shown.world = s.world ∧
        shown.page.isRefunding = s.page.isRefunding →
      (shown.finish task refund).world = s.world ∧ ∃ who, ∀ other, other ≠ who →
        (shown.finish task refund).tasks other = s.tasks other := by
    rintro shown task refund ⟨htasks, hworld, _⟩
    exact ⟨hworld, task, fun other hother =>
      (Function.update_of_ne hother _ _).trans (congrFun htasks other)⟩
  cases a with
  | tick now =>
      obtain ⟨_, htick⟩ := Option.ite_none_right_eq_some.mp hstep
      obtain rfl := Option.some.inj htick
      exact ⟨rfl, 0, fun _ _ => rfl⟩
  | write world =>
      obtain rfl := Option.some.inj hstep
      exact ⟨rfl, 0, fun _ _ => rfl⟩
  | leavePage =>
      obtain rfl := Option.some.inj hstep
      exact ⟨rfl, 0, fun _ _ => rfl⟩
  | openPage task =>
      simp only [historyStep] at hstep
      split at hstep
      · obtain rfl := Option.some.inj hstep
        obtain ⟨hworld, htasks⟩ := HistoryState.loadBookings_rest task 1 false
        exact ⟨hworld, task, htasks⟩
      · cases hstep
  | clickPage task page =>
      simp only [historyStep] at hstep
      split at hstep
      · obtain ⟨_, hload⟩ := Option.ite_none_right_eq_some.mp hstep
        obtain rfl := Option.some.inj hload
        obtain ⟨hworld, htasks⟩ := HistoryState.loadBookings_rest task page false
        exact ⟨hworld, task, htasks⟩
      · cases hstep
  | clickRefund task kind bookingId =>
      simp only [historyStep] at hstep
      split at hstep
      · obtain ⟨_, hbegin⟩ := Option.ite_none_right_eq_some.mp hstep
        obtain rfl := Option.some.inj hbegin
        exact ⟨rfl, task, fun _ => hupdate⟩
      · cases hstep
  | serve task sorted | dropRefund task =>
      simp only [historyStep] at hstep
      split at hstep <;> cases hstep <;> exact ⟨rfl, task, fun _ => hupdate⟩
  | arrive task =>
      simp only [historyStep] at hstep
      split at hstep
      · obtain rfl := Option.some.inj hstep
        exact hended (HistoryState.showReply_rest _)
      · obtain rfl := Option.some.inj hstep
        exact hended (HistoryState.failLoad_rest _)
      · cases hstep
  | dropLoad task =>
      simp only [historyStep] at hstep
      split at hstep
      · obtain rfl := Option.some.inj hstep
        exact hended (HistoryState.failLoad_rest _)
      · obtain rfl := Option.some.inj hstep
        exact hended (HistoryState.failLoad_rest _)
      · cases hstep
  | execute task env =>
      simp only [historyStep] at hstep
      split at hstep
      · obtain rfl := Option.some.inj hstep
        exact ⟨⟨_, rfl⟩, task, fun _ => hupdate⟩
      · cases hstep
  | answer task =>
      simp only [historyStep] at hstep
      split at hstep
      · split at hstep
        · obtain rfl := Option.some.inj hstep
          obtain ⟨hworld, htasks⟩ := HistoryState.loadBookings_rest task s.page.currentPage true
          exact ⟨hworld, task, htasks⟩
        · obtain rfl := Option.some.inj hstep
          exact ⟨rfl, task, fun _ => hupdate⟩
      · cases hstep

theorem historyStep_kept (hpossible : a.Possible user s)
    (hstep : historyStep timeOf userId s a = some next) : s.world.Kept next.world := by
  have hwrites := (historyStep_cases hstep).1
  cases a with
  | write world =>
      obtain rfl : next.world = world := hwrites
      exact BookingWorld.Written.kept hpossible
  | execute task env =>
      obtain ⟨payload, hrefunded⟩ := hwrites
      rw [hrefunded]
      exact (BookingWorld.written_refund env payload s.world).kept
  | _ =>
      have hsame : next.world = s.world := hwrites
      rw [hsame]
      exact .refl _

theorem HistoryState.Sound.run (huser : userIdOf (some userId) = some user)
    (hinit : start.Sound timeOf (HistoryState.Given timeOf userId user start [] start) user)
    (halong : (historyMachine timeOf userId).Along (fun s a => a.Possible user s) start actions)
    (hrun : (historyMachine timeOf userId).run start actions = some s) :
    s.Sound timeOf (HistoryState.Given timeOf userId user start actions s) user := by
  have hstep : ∀ before s a next,
      (historyMachine timeOf userId).run start before = some s →
      s.Sound timeOf (HistoryState.Given timeOf userId user start before s) user →
      a.Possible user s → historyStep timeOf userId s a = some next →
      next.Sound timeOf (HistoryState.Given timeOf userId user start (before ++ [a]) next)
        user := by
    intro before s a next hbefore h hpossible hstep
    have hkept := historyStep_kept hpossible hstep
    have hnext : next.Sound timeOf (HistoryState.Given timeOf userId user start before s)
        user := by
      refine h.step huser (fun content hgiven => ?_) (fun content hserves => ?_) hpossible hstep
      · obtain ⟨_, _, middle, _, _, hmiddle, hserves⟩ := hgiven
        exact hserves.truthful huser hmiddle
      · exact Machine.once_of_run hbefore ⟨.refl _, hserves⟩
    refine hnext.imp fun content hgiven => ?_
    exact (hgiven.append [a]).imp fun middle hmiddle => ⟨hmiddle.1.trans hkept, hmiddle.2⟩
  exact Machine.run_invariant_past hstep hinit halong hrun

theorem HistoryState.sound_initial (timeOf : DateTime → Option Int)
    (answered : BookingsPage → Prop) (user now : Int) {world : BookingWorld}
    (hpositive : ∀ kind : BookingKind, ∀ b ∈ kind.bookings world.db, 0 < b.bookingId) :
    (HistoryState.initial now world).Sound timeOf answered user where
  page := {
    list := fun items hitems => by cases hitems
    pages := .inl rfl
    away := fun _ => ⟨rfl, rfl⟩
    one_le_current := le_rfl
    current_le := one_le_pagesFor _ }
  tasks := fun _ => trivial
  exclusive := ⟨none, rfl, fun task => by simp [initial, HistoryTask.isRefund]⟩
  positive := hpositive

end Runs

/-! ## What is shown -/

section Shown

variable {timeOf : DateTime → Option Int} {userId : String} {user now : Int}
variable {world : BookingWorld} {actions : List HistoryAction} {s : HistoryState}

end Shown

/-- Two bookings of user 7 for a concert. -/
def twoBookingsWorld : BookingWorld where
  db :=
    { users := [7]
      halls := .empty
      hallSeats := .empty
      schedules := .empty
      movies := .empty
      concertShows := .empty
      concerts := samePaymentTime.concerts }
  tables := samePaymentTime
  movies := rfl
  concerts := rfl

/-- The list comes in, and the first booking is to be refunded. -/
def refundFirst : List HistoryAction :=
  [.openPage 0, .serve 0 (samePaymentTime.unionRows 7), .arrive 0, .clickRefund 1 .concert 1]

theorem refundFirst_possible : (historyMachine (fun _ => none) "7").Along
    (fun s a => a.Possible 7 s) (.initial 0 twoBookingsWorld) refundFirst := by
  have hsorted : SortedBy BookingRow.sortKey (samePaymentTime.unionRows 7)
      (samePaymentTime.unionRows 7) := ⟨.refl _, by decide⟩
  exact .cons rfl trivial (.cons rfl hsorted (.cons rfl trivial (.cons rfl trivial trivial)))

theorem twoBookingsWorld_positive (kind : BookingKind) :
    ∀ b ∈ kind.bookings twoBookingsWorld.db, 0 < b.bookingId := by
  cases kind <;> decide

section Refund

variable {timeOf : DateTime → Option Int} {userId : String} {user now bookingId : Int}
variable {kind : BookingKind} {world : BookingWorld} {actions : List HistoryAction}
variable {s : HistoryState} {task : Nat}

theorem intOfStr_of_userIdOf (huser : userIdOf (some userId) = some user) :
    intOfStr userId.toList = some user := by
  simp only [userIdOf, Option.bind_eq_bind, Option.bind_some] at huser
  split at huser
  · cases huser
  · exact huser

/-- What the page posts is read as it is meant. -/
theorem refundBooking_refundPayload (huser : userIdOf (some userId) = some user)
    (hpos : 0 < user) (hid : 0 < bookingId) (env : Env) (db : Db) :
    refundBooking env (refundPayload userId kind bookingId) db =
      (.refund (refundOf kind env user bookingId db).1,
        (refundOf kind env user bookingId db).2) := by
  have hdata : payloadData (refundPayload userId kind bookingId) =
      refundPayload userId kind bookingId := rfl
  have huserId : ((refundPayload userId kind bookingId).get "user_id").toInt 0 = some user := by
    change some ((intOfStr userId.toList).getD 0) = some user
    rw [intOfStr_of_userIdOf huser, Option.getD_some]
  have hbookingId : ((refundPayload userId kind bookingId).get "booking_id").toInt 0 =
      some bookingId := rfl
  have hkind : bookingKindOf (refundPayload userId kind bookingId) = some kind := by
    cases kind <;> rfl
  have hvalid : ¬(user ≤ 0 ∨ bookingId ≤ 0) := by omega
  simp only [refundBooking, hdata, huserId, hbookingId, hkind, if_neg hvalid]

end Refund

end Ticketing
