import Ticketing.User.HistoryShown

/-!
# Reaching every page of the bookings

From any state the page can be opened, and the buttons of its bar lead to every page of the
list, two pages further with each click.
-/

namespace Ticketing

open Foundation Python

section Reach

variable {timeOf : DateTime → Option Int} {userId : String} {user now : Int}
variable {world : BookingWorld} {sorted : List BookingRow} {actions : List HistoryAction}
variable {s : HistoryState} {task bound n p q : Nat} {mount : Option Nat} {refund : Bool}

/-- The page shows page `n` of the bookings in the order `sorted`. -/
structure HistoryState.ShowsPage (timeOf : DateTime → Option Int) (user : Int)
    (sorted : List BookingRow) (n : Nat) (s : HistoryState) : Prop where
  mount : s.page.mount.isSome = true
  currentPage : s.page.currentPage = n
  area : s.page.area = .list (((pageOf 10 (n - 1) sorted).map
    (bookingEntry s.world.tables)).map (renderBookingItem timeOf s.now))
  pages : s.page.pages = renderPagination n (pagesFor (s.world.tables.totalCount user))

/-- What a visitor and the server do; the server has the rows in the order `sorted`. -/
def HistoryAction.Visits (sorted : List BookingRow) : HistoryAction → Prop
  | .openPage _ | .clickPage _ _ | .arrive _ => True
  | .serve _ rows => rows = sorted
  | _ => False

variable (sorted) in
/-- A page number that `int()` reads is answered with that page. -/
theorem getBookings_toString (huser : userIdOf (some userId) = some user) (hone : 1 ≤ n)
    (hshort : n < 10 ^ maxStrDigits) (tables : BookingTables) :
    getBookings tables sorted (some userId) (some (toString (n : Int))) (some "10") =
      .page ⟨(pageOf 10 (n - 1) sorted).map (bookingEntry tables), tables.totalCount user, n, 10,
        totalPages (tables.totalCount user) 10⟩ := by
  have hsize : pageSizeOf (some "10") = 10 := by decide
  have hlength : (Nat.toDigits 10 n).length ≤ maxStrDigits :=
    (Nat.length_toDigits_le_iff (by decide) (by decide)).mpr hshort
  have hnumber : pageNumber (some (toString (n : Int))) = n :=
    pageNumber_toString_of_short hone hlength
  simp only [getBookings, huser, hsize, hnumber, pageOf]

/-- A request that is answered before anything else comes in. -/
theorem HistoryState.run_serve_arrive (huser : userIdOf (some userId) = some user) (hone : 1 ≤ n)
    (hshort : n < 10 ^ maxStrDigits) (hmount : s.page.mount.isSome = true)
    (htask : s.tasks task = .loading n mount refund) :
    ∃ final, (historyMachine timeOf userId).run s [.serve task sorted, .arrive task] = some final ∧
      final.ShowsPage timeOf user sorted n ∧ final.world = s.world ∧ final.now = s.now ∧
        ∀ other, other ≠ task → final.tasks other = s.tasks other := by
  have hanswer := getBookings_toString sorted huser hone hshort s.world.tables
  generalize hcontent : (⟨_, _, n, 10, _⟩ : BookingsPage) = content at hanswer
  refine ⟨((s.move task (.loaded (.page content) mount refund)).showReply timeOf content).finish
    task refund, ?_, ?_, ?_, ?_, ?_⟩
  · simp only [historyMachine, Machine.run_cons_eq_some, historyStep, htask, hanswer,
      HistoryState.move, Function.update_self, Option.some.injEq, exists_eq_left', Machine.run_nil]
  · simp only [HistoryState.finish, HistoryState.showReply, HistoryState.renderBookingList,
      HistoryState.showPages, HistoryState.move, hmount, if_true]
    subst hcontent
    exact ⟨hmount, rfl, rfl, rfl⟩
  · simp only [HistoryState.finish, HistoryState.showReply, HistoryState.renderBookingList,
      HistoryState.showPages, HistoryState.move, hmount, if_true]
  · simp only [HistoryState.finish, HistoryState.showReply, HistoryState.renderBookingList,
      HistoryState.showPages, HistoryState.move, hmount, if_true]
  · intro other hother
    simp only [HistoryState.finish, HistoryState.showReply, HistoryState.renderBookingList,
      HistoryState.showPages, HistoryState.move, hmount, if_true, Function.update_of_ne hother]

variable (sorted task) in
/-- A page that is asked for is shown, if nothing else happens before it comes in. -/
theorem HistoryState.run_load (huser : userIdOf (some userId) = some user) (hone : 1 ≤ n)
    (hshort : n < 10 ^ maxStrDigits) (hmount : s.page.mount.isSome = true) :
    ∃ final, (historyMachine timeOf userId).run (s.loadBookings timeOf userId task n false)
        [.serve task sorted, .arrive task] = some final ∧
      final.ShowsPage timeOf user sorted n ∧ final.world = s.world ∧ final.now = s.now ∧
        ∀ other, other ≠ task → final.tasks other = s.tasks other := by
  have huserId : userId ≠ "" := by
    rintro rfl
    cases huser
  rw [HistoryState.loadBookings, if_neg huserId, if_pos hmount]
  obtain ⟨loading, hloading⟩ : ∃ loading, loading = HistoryState.move
    { s with page := { s.page with area := .loading } } task (.loading n s.page.mount false) :=
    ⟨_, rfl⟩
  have htask : loading.tasks task = .loading n s.page.mount false := by
    rw [hloading]
    exact Function.update_self task _ _
  obtain ⟨final, hrun, hshown, hworld, hnow, htasks⟩ := HistoryState.run_serve_arrive huser hone
    hshort (show loading.page.mount.isSome = true by rw [hloading]; exact hmount) htask
  subst hloading
  refine ⟨final, hrun, hshown, hworld, hnow, fun other hother => ?_⟩
  rw [htasks other hother]
  exact Function.update_of_ne hother _ _

/-- One click leads to any page that is at most two pages further. -/
theorem HistoryState.ShowsPage.click (h : s.ShowsPage timeOf user sorted p)
    (huser : userIdOf (some userId) = some user) (hone : 1 ≤ p) (hpq : p < q) (hle : q ≤ p + 2)
    (hlast : (q : Int) ≤ pagesFor (s.world.tables.totalCount user))
    (hshort : q < 10 ^ maxStrDigits) (hidle : s.tasks task = .idle) :
    ∃ final, (historyMachine timeOf userId).run s
        [.clickPage task q, .serve task sorted, .arrive task] = some final ∧
      final.ShowsPage timeOf user sorted q ∧ final.world = s.world ∧ final.now = s.now ∧
        ∀ other, other ≠ task → final.tasks other = s.tasks other := by
  have hshown : (q : Int) ∈ s.page.pages := by
    obtain ⟨_, _, _, hleft, hright⟩ :=
      pageWindow_spec (show (1 : Int) ≤ p by omega)
        (show (p : Int) ≤ pagesFor (s.world.tables.totalCount user) by omega)
    rw [h.pages, mem_renderPagination (by omega) (by omega)]
    omega
  have hclick : (historyMachine timeOf userId).step s (.clickPage task q) =
      some (s.loadBookings timeOf userId task q false) := by
    have hother : (q : Int) ≠ s.page.currentPage := by
      rw [h.currentPage]
      omega
    simp only [historyMachine, historyStep, hidle]
    exact if_pos ⟨h.mount, hshown, by omega, hother⟩
  obtain ⟨final, hrun, hfinal⟩ :=
    HistoryState.run_load sorted task huser (show 1 ≤ q by omega) hshort h.mount
  exact ⟨final, (Machine.run_cons_eq_some _).mpr ⟨_, hclick, hrun⟩, hfinal⟩

/-- Page after page, with a new request for each click. -/
theorem HistoryState.ShowsPage.reach (huser : userIdOf (some userId) = some user) (clicks : Nat)
    (h : s.ShowsPage timeOf user sorted p) (hone : 1 ≤ p) (hpq : p ≤ q)
    (hclicks : clicks = (q - p + 1) / 2)
    (hlast : (q : Int) ≤ pagesFor (s.world.tables.totalCount user))
    (hshort : q < 10 ^ maxStrDigits) (hidle : ∀ task, bound ≤ task → s.tasks task = .idle) :
    ∃ more final, (historyMachine timeOf userId).run s more = some final ∧
      (∀ a ∈ more, a.Visits sorted) ∧ more.length = 3 * clicks ∧
        final.ShowsPage timeOf user sorted q ∧ final.world = s.world ∧ final.now = s.now := by
  induction clicks generalizing s p bound with
  | zero =>
      obtain rfl : p = q := by omega
      exact ⟨[], s, rfl, by simp, rfl, h, rfl, rfl⟩
  | succ clicks ih =>
      obtain ⟨middle, hclick, hmiddle, hworld, hnow, htasks⟩ := h.click huser hone
        (show p < min q (p + 2) by omega) (by omega) (by omega) (by omega) (hidle bound le_rfl)
      have hunused : ∀ task, bound + 1 ≤ task → middle.tasks task = .idle := fun task htask => by
        rw [htasks task (by omega)]
        exact hidle task (by omega)
      obtain ⟨more, final, hrun, hvisits, hlength, hfinal, hworld', hnow'⟩ :=
        ih hmiddle (by omega) (by omega) (by omega) (by rw [hworld]; exact hlast) hunused
      refine ⟨_ ++ more, final, (Machine.run_append_eq_some _).mpr ⟨middle, hclick, hrun⟩,
        fun a ha => ?_, ?_, hfinal, hworld'.trans hworld, hnow'.trans hnow⟩
      · rcases List.mem_append.mp ha with hfirst | hrest
        · simp only [List.mem_cons, List.not_mem_nil, or_false] at hfirst
          rcases hfirst with rfl | rfl | rfl
          · trivial
          · rfl
          · trivial
        · exact hvisits a hrest
      · rw [List.length_append, hlength]
        simp only [List.length_cons, List.length_nil]
        omega

/-- Only finitely many calls have begun. -/
theorem exists_unused (hrun : (historyMachine timeOf userId).run (.initial now world) actions =
    some s) : ∃ bound, ∀ task, bound ≤ task → s.tasks task = .idle := by
  have hstep : ∀ (s : HistoryState) (a : HistoryAction) (next : HistoryState),
      (∃ bound, ∀ task, bound ≤ task → s.tasks task = .idle) →
      (historyMachine timeOf userId).step s a = some next →
        ∃ bound, ∀ task, bound ≤ task → next.tasks task = .idle := by
    rintro s a next ⟨bound, hidle⟩ hnext
    obtain ⟨_, task, htasks⟩ := historyStep_cases hnext
    refine ⟨max bound (task + 1), fun other hother => ?_⟩
    rw [htasks other (by omega)]
    exact hidle other (by omega)
  exact (Machine.run_invariant hstep ⟨0, fun _ _ => rfl⟩ hrun :)

/-- Visiting writes nothing. -/
theorem along_of_visits (hsorted : SortedBy BookingRow.sortKey (s.world.tables.unionRows user)
      sorted) (hvisits : ∀ a ∈ actions, a.Visits sorted) :
    (historyMachine timeOf userId).Along (fun s a => a.Possible user s) s actions := by
  induction actions generalizing s with
  | nil => trivial
  | cons a rest ih =>
      obtain ⟨ha, hrest⟩ := List.forall_mem_cons.mp hvisits
      refine ⟨?_, fun next hnext => ih ?_ hrest⟩
      · cases a with
        | serve task rows =>
            obtain rfl : rows = sorted := ha
            exact hsorted
        | write world => exact ha.elim
        | _ => trivial
      · have hwrites := (historyStep_cases hnext).1
        have hsame : next.world = s.world := by
          cases a with
          | write world => exact ha.elim
          | execute task env => exact ha.elim
          | _ => exact hwrites
        rwa [hsame]

/-- From every state that the page gets into, whatever requests are under way, opening it and
clicking through its bar leads to every page of the list, with half as many clicks as pages. -/
theorem every_page_reachable (huser : userIdOf (some userId) = some user)
    (hrun : (historyMachine timeOf userId).run (.initial now world) actions = some s)
    (hsorted : SortedBy BookingRow.sortKey (s.world.tables.unionRows user) sorted)
    (hone : 1 ≤ q) (hlast : (q : Int) ≤ pagesFor (s.world.tables.totalCount user))
    (hshort : q < 10 ^ maxStrDigits) :
    ∃ more final, (historyMachine timeOf userId).run s more = some final ∧
      (historyMachine timeOf userId).Along (fun s a => a.Possible user s) s more ∧
      (∀ a ∈ more, a.Visits sorted) ∧ more.length = 3 * (1 + q / 2) ∧
        final.ShowsPage timeOf user sorted q ∧ final.world = s.world := by
  obtain ⟨bound, hidle⟩ := exists_unused hrun
  obtain ⟨opened, hopened⟩ : ∃ opened, opened = { s with page := { s.page with
    mount := some s.page.mounts
    mounts := s.page.mounts + 1
    area := .loading
    pages := [] } } := ⟨_, rfl⟩
  have hopen : (historyMachine timeOf userId).step s (.openPage bound) =
      some (opened.loadBookings timeOf userId bound 1 false) := by
    simp only [historyMachine, historyStep, hidle bound le_rfl, hopened]
  have hmount : opened.page.mount.isSome = true := by
    rw [hopened]
    rfl
  obtain ⟨first, hfirst, hshown, hworld, _, htasks⟩ := HistoryState.run_load sorted bound huser
    (le_refl 1) (by omega) hmount
  have hsame : first.world = s.world := by rw [hworld, hopened]
  have hunused : ∀ task, bound + 1 ≤ task → first.tasks task = .idle := fun task htask => by
    rw [htasks task (by omega), hopened]
    exact hidle task (by omega)
  obtain ⟨more, final, hmore, hvisits, hlength, hfinal, hworld', _⟩ :=
    hshown.reach huser (q / 2) le_rfl hone (by omega) (by rw [hsame]; exact hlast) hshort hunused
  have hall : ∀ a ∈ [.openPage bound, .serve bound sorted, .arrive bound] ++ more,
      HistoryAction.Visits sorted a := by
    intro a ha
    rcases List.mem_append.mp ha with hbegin | hrest
    · simp only [List.mem_cons, List.not_mem_nil, or_false] at hbegin
      rcases hbegin with rfl | rfl | rfl
      · trivial
      · rfl
      · trivial
    · exact hvisits a hrest
  refine ⟨_, final, (Machine.run_append_eq_some _).mpr
    ⟨first, (Machine.run_cons_eq_some _).mpr ⟨_, hopen, hfirst⟩, hmore⟩,
    along_of_visits hsorted hall, hall, ?_, hfinal, hworld'.trans hsame⟩
  rw [List.length_append, hlength]
  simp only [List.length_cons, List.length_nil]
  omega

end Reach

/-- Eleven bookings of user 7, one more than fits on a page. -/
def elevenBookings : BookingTables :=
  { samePaymentTime with
    concerts :=
      { bookings := ⟨(List.range 11).map fun i => ⟨i, none, 7, 3, 1, .paid, Int.one_pos⟩,
          by decide, by decide⟩
        seats := .empty
        payments := .empty }
    fk_concert_booking_show := fun _ _ => rfl }

def elevenWorld : BookingWorld where
  db := { twoBookingsWorld.db with concerts := elevenBookings.concerts }
  tables := elevenBookings
  movies := rfl
  concerts := rfl

theorem every_page_reachable_second : ∃ more final,
    (historyMachine (fun _ => none) "7").run (.initial 0 elevenWorld) more = some final ∧
      more.length = 6 ∧
        final.ShowsPage (fun _ => none) 7 (elevenBookings.unionRows 7) 2 := by
  have hsorted : SortedBy BookingRow.sortKey (elevenBookings.unionRows 7)
      (elevenBookings.unionRows 7) := ⟨.refl _, by decide⟩
  have hshort : 2 < 10 ^ maxStrDigits :=
    Nat.lt_of_lt_of_le (show 2 < 10 by decide) (Nat.le_self_pow (by decide) 10)
  have hnone : (historyMachine (fun _ => none) "7").run (.initial 0 elevenWorld) [] =
      some (.initial 0 elevenWorld) := rfl
  have huser : userIdOf (some "7") = some 7 := by decide
  have hlast : ((2 : Nat) : Int) ≤ pagesFor (elevenBookings.totalCount 7) := by decide
  obtain ⟨more, final, hrun, _, _, hlength, hshown, _⟩ :=
    every_page_reachable huser hnone hsorted (show 1 ≤ 2 by decide) hlast hshort
  exact ⟨more, final, hrun, hlength, hshown⟩

end Ticketing
