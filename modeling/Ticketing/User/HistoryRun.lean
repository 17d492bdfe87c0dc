import Ticketing.User.HistoryWorld

/-!
# Runs of the page of all bookings

What is shown comes from one answer of the server. The bookings on it are the user's, every
page of the bar has bookings, and one refund is under way at a time, of a booking that is
there.
-/

namespace Ticketing

open Foundation Python

/-! ## The bar of pages -/

section Bar

variable {page totalPages n : Int}

/-- The window has five pages, or all, and reaches two pages to either side where there are
such pages. -/
theorem pageWindow_spec (hpage : 1 ≤ page) (hle : page ≤ totalPages) :
    1 ≤ (pageWindow page totalPages).1 ∧ (pageWindow page totalPages).2 ≤ totalPages ∧
      (pageWindow page totalPages).2 + 1 - (pageWindow page totalPages).1 = min 5 totalPages ∧
        (pageWindow page totalPages).1 ≤ max 1 (page - 2) ∧
          min totalPages (page + 2) ≤ (pageWindow page totalPages).2 := by
  simp only [pageWindow]
  split <;> refine ⟨?_, ?_, ?_, ?_, ?_⟩ <;> dsimp only <;> omega

/-- The arrows lead to pages of the window. -/
theorem mem_renderPagination (hpage : 1 ≤ page) (hle : page ≤ totalPages) :
    n ∈ renderPagination page totalPages ↔ 2 ≤ totalPages ∧
      (pageWindow page totalPages).1 ≤ n ∧ n ≤ (pageWindow page totalPages).2 := by
  obtain ⟨hlow, hhigh, _, hleft, hright⟩ := pageWindow_spec hpage hle
  unfold renderPagination
  split
  next => simp only [List.not_mem_nil, false_iff]; omega
  next htotal =>
    simp only [List.mem_append, List.mem_map, List.mem_range]
    constructor
    · rintro ((hprev | ⟨i, hi, rfl⟩) | hnext)
      · split at hprev
        · rw [List.mem_singleton.mp hprev]
          omega
        · exact absurd hprev List.not_mem_nil
      · omega
      · split at hnext
        · rw [List.mem_singleton.mp hnext]
          omega
        · exact absurd hnext List.not_mem_nil
    · rintro ⟨_, hfirst, hlast⟩
      refine .inl (.inr ⟨(n - (pageWindow page totalPages).1).toNat, by omega, by omega⟩)

end Bar

/-! ## Pages that the server has -/

/-- `page_size` is always 10. -/
def pagesFor (total : Nat) : Int := totalPages total 10

theorem one_le_pagesFor (total : Nat) : 1 ≤ pagesFor total := by
  unfold pagesFor totalPages
  split <;> omega

theorem pagesFor_mono {total later : Nat} (h : total ≤ later) :
    pagesFor total ≤ pagesFor later := by
  unfold pagesFor totalPages
  split <;> split <;> omega

theorem toList_toString_natCast (n : Nat) : (toString (n : Int)).toList = Nat.toDigits 10 n := by
  rw [show toString (n : Int) = toString n from rfl, Nat.toString_eq_ofList_toDigits,
    String.toList_ofList]

theorem pageNumber_toString_of_short {n : Nat} (h : 1 ≤ n)
    (hshort : (Nat.toDigits 10 n).length ≤ maxStrDigits) :
    pageNumber (some (toString (n : Int))) = n := by
  simp only [pageNumber, Option.getD_some, toList_toString_natCast, intOfStr_toDigits hshort]
  omega

/-- A page number is read as it is, unless its text is too long for `int()`. -/
theorem pageNumber_toString {n : Int} (h : 1 ≤ n) :
    (pageNumber (some (toString n)) : Int) = n ∨ pageNumber (some (toString n)) = 1 := by
  obtain ⟨m, rfl⟩ := Int.eq_ofNat_of_zero_le (show 0 ≤ n by omega)
  rcases le_or_gt (Nat.toDigits 10 m).length maxStrDigits with hshort | hlong
  · exact .inl (congrArg Int.ofNat (pageNumber_toString_of_short (by omega) hshort))
  · refine .inr ?_
    simp only [pageNumber, Option.getD_some, toList_toString_natCast,
      intOfStr_toDigits_long hlong]

section Reply

variable {tables : BookingTables} {sorted : List BookingRow} {userId : String} {user page : Int}
variable {content : BookingsPage}

/-- What a request of the page is answered with. -/
structure BookingsPage.Answers (content : BookingsPage) (tables : BookingTables)
    (sorted : List BookingRow) (user : Int) : Prop where
  one_le_page : 1 ≤ content.page
  page_le : (content.page : Int) ≤ content.totalPages
  totalPages : (content.totalPages : Int) = pagesFor (tables.totalCount user)
  bookings : content.bookings =
    (pageOf 10 (content.page - 1) sorted).map (bookingEntry tables)

variable (sorted) in
theorem getBookings_answers (huser : userIdOf (some userId) = some user) (hpage : 1 ≤ page)
    (hle : page ≤ pagesFor (tables.totalCount user)) :
    ∃ content, getBookings tables sorted (some userId) (some (toString page)) (some "10") =
      .page content ∧ content.Answers tables sorted user := by
  have hsize : pageSizeOf (some "10") = 10 := by decide
  simp only [getBookings, huser, hsize]
  refine ⟨_, rfl, ?_, ?_, rfl, rfl⟩
  · rcases pageNumber_toString hpage with hsame | hone
    · dsimp only
      omega
    · exact hone.ge
  · change (pageNumber (some (toString page)) : Int) ≤ pagesFor (tables.totalCount user)
    have hlow := one_le_pagesFor (tables.totalCount user)
    rcases pageNumber_toString hpage with hsame | hone <;> omega

/-- A page that there is has bookings, if there are any. -/
theorem BookingsPage.Answers.ne_nil (h : content.Answers tables sorted user)
    (hsorted : SortedBy BookingRow.sortKey (tables.unionRows user) sorted)
    (hpos : 0 < tables.totalCount user) : content.bookings ≠ [] := by
  have hlength : sorted.length = tables.totalCount user :=
    hsorted.perm.length_eq.trans unionRows_length
  have hone := h.one_le_page
  have hle := h.page_le
  have htotal := h.totalPages
  simp only [pagesFor, Ticketing.totalPages, if_pos hpos] at htotal
  rw [h.bookings, pageOf, ne_eq, List.map_eq_nil_iff, ← List.length_eq_zero_iff, List.length_take,
    List.length_drop, hlength]
  omega

end Reply

/-! ## What the page holds -/

/-- What is shown comes from one of the answers. -/
structure HistoryPage.Shows (timeOf : DateTime → Option Int) (answered : BookingsPage → Prop)
    (total : Nat) (page : HistoryPage) : Prop where
  list : ∀ items, page.area = .list items → ∃ content now, answered content ∧
    items = content.bookings.map (renderBookingItem timeOf now) ∧
      page.currentPage = content.page ∧
        (page.pages = [] ∨ page.pages = renderPagination content.page content.totalPages)
  pages : page.pages = [] ∨ ∃ content, answered content ∧ page.currentPage = content.page ∧
    page.pages = renderPagination content.page content.totalPages
  away : page.mount = none → page.pages = [] ∧ page.area = .loading
  one_le_current : 1 ≤ page.currentPage
  current_le : page.currentPage ≤ pagesFor total

section Shows

variable {timeOf : DateTime → Option Int} {answered : BookingsPage → Prop} {total : Nat}
variable {page : HistoryPage} {s : HistoryState} {content : BookingsPage}

/-- A list or a bar may be taken away. -/
theorem HistoryPage.Shows.withdraw (h : page.Shows timeOf answered total) {area : ListArea}
    {pages : List Int} {mount : Option Nat} {mounts : Nat} {isRefunding : Bool}
    (harea : area = .loading ∨ area = .failed ∧ mount ≠ none ∨ area = page.area)
    (hpages : pages = [] ∨ pages = page.pages) (hmount : mount = page.mount ∨ pages = [] ∧
      area = .loading) :
    HistoryPage.Shows timeOf answered total ⟨mount, mounts, area, pages, page.currentPage,
      isRefunding⟩ where
  list := by
    rintro items rfl
    rcases harea with hloading | ⟨hfailed, _⟩ | hsame
    · cases hloading
    · cases hfailed
    · obtain ⟨content, now, hanswered, hitems, hcurrent, hbar⟩ := h.list items hsame.symm
      refine ⟨content, now, hanswered, hitems, hcurrent, ?_⟩
      rcases hpages with rfl | rfl
      · exact .inl rfl
      · exact hbar
  pages := by
    rcases hpages with rfl | rfl
    · exact .inl rfl
    · exact h.pages
  away := by
    intro hnone
    change mount = none at hnone
    rcases hmount with rfl | hloading
    · obtain ⟨hbar, hloading⟩ := h.away hnone
      refine ⟨?_, ?_⟩
      · rcases hpages with rfl | rfl
        · rfl
        · exact hbar
      · rcases harea with rfl | ⟨_, hmounted⟩ | rfl
        · rfl
        · exact absurd hnone hmounted
        · exact hloading
    · exact hloading
  one_le_current := h.one_le_current
  current_le := h.current_le

theorem HistoryState.shows_showReply (h : s.page.Shows timeOf answered total)
    (hanswered : answered content) (hone : 1 ≤ content.page)
    (hle : (content.page : Int) ≤ pagesFor total) :
    (s.showReply timeOf content).page.Shows timeOf answered total := by
  unfold showReply renderBookingList showPages
  cases hmount : s.page.mount with
  | none =>
      obtain ⟨hpages, harea⟩ := h.away hmount
      dsimp only
      simp only [hmount, Option.isSome_none, Bool.false_eq_true, if_false]
      refine ⟨fun items hitems => ?_, .inl hpages, fun _ => ⟨hpages, harea⟩, ?_, hle⟩
      · rw [harea] at hitems
        cases hitems
      · dsimp only
        omega
  | some mount =>
      dsimp only
      simp only [hmount, Option.isSome_some, if_true]
      refine ⟨fun items hitems => ?_, .inr ⟨content, hanswered, rfl, rfl⟩, fun hnone => ?_, ?_,
        hle⟩
      · obtain rfl := ListArea.list.inj hitems
        exact ⟨content, s.now, hanswered, rfl, rfl, .inr rfl⟩
      · exact absurd hnone (by simp)
      · dsimp only
        omega

theorem HistoryState.shows_failLoad (h : s.page.Shows timeOf answered total)
    (mount : Option Nat) : (s.failLoad mount).page.Shows timeOf answered total := by
  unfold failLoad showPages
  dsimp only
  split
  next hmounted =>
    refine h.withdraw ?_ (.inl rfl) (.inl rfl)
    split
    · exact .inr (.inl ⟨rfl, by rintro hnone; simp [hnone] at hmounted⟩)
    · exact .inr (.inr rfl)
  next hmounted =>
    refine h.withdraw ?_ (.inr rfl) (.inl rfl)
    rw [if_neg (by rintro ⟨hsome, rfl⟩; exact hmounted hsome)]
    exact .inr (.inr rfl)

end Shows

/-! ## One step -/

/-- What is under way asks for pages that there are and refunds bookings that there are. -/
def HistoryTask.Fits (answered : BookingsPage → Prop) (user : Int) (world : BookingWorld) :
    HistoryTask → Prop
  | .loading page _ _ => 1 ≤ page ∧ page ≤ pagesFor (world.tables.totalCount user)
  | .loaded (.page content) _ _ => answered content
  | .refunding kind bookingId =>
      ∃ b ∈ kind.bookings world.db, b.bookingId = bookingId ∧ b.userId = user
  | .idle | .loaded .invalid _ _ | .refunded _ | .finished => True

/-- At most one refund is under way, and the script knows of it. -/
def HistoryState.Exclusive (s : HistoryState) : Prop :=
  ∃ who : Option Nat, s.page.isRefunding = who.isSome ∧
    ∀ task, (s.tasks task).isRefund = true ↔ who = some task

structure HistoryState.Sound (timeOf : DateTime → Option Int) (answered : BookingsPage → Prop)
    (user : Int) (s : HistoryState) : Prop where
  page : s.page.Shows timeOf answered (s.world.tables.totalCount user)
  tasks : ∀ task, (s.tasks task).Fits answered user s.world
  exclusive : s.Exclusive
  positive : ∀ kind : BookingKind, ∀ b ∈ kind.bookings s.world.db, 0 < b.bookingId

/-- What of an answer stays true: its pages are still there, its bookings are still the
user's, and those that it shows as cancelled are. -/
structure BookingsPage.Truthful (content : BookingsPage) (user : Int) (world : BookingWorld) :
    Prop where
  one_le_page : 1 ≤ content.page
  page_le : (content.page : Int) ≤ content.totalPages
  totalPages_le : (content.totalPages : Int) ≤ pagesFor (world.tables.totalCount user)
  entries : ∀ entry ∈ content.bookings, ∃ b ∈ entry.kind.bookings world.db,
    b.bookingId = entry.bookingId ∧ b.userId = user ∧
      (entry.bookStatus.isCancelled = true → b.bookStatus.isCancelled = true)

@[simp] theorem renderBookingItem_entry (timeOf : DateTime → Option Int) (now : Int)
    (b : BookingEntry) : (renderBookingItem timeOf now b).entry = b := by
  unfold renderBookingItem
  dsimp only
  split
  · rfl
  · split <;> rfl

/-- An item that the page shows is a booking of the user that is in the database, and one
without a button because it is cancelled there. -/
def HistoryItem.Stands (item : HistoryItem) (user : Int) (world : BookingWorld) : Prop :=
  ∃ b ∈ item.entry.kind.bookings world.db, b.bookingId = item.entry.bookingId ∧ b.userId = user ∧
    (item.state = .cancelled → b.bookStatus.isCancelled = true)

theorem renderBookingItem_cancelled {timeOf : DateTime → Option Int} {now : Int}
    {entry : BookingEntry} (h : (renderBookingItem timeOf now entry).state = .cancelled) :
    entry.bookStatus.isCancelled = true := by
  unfold renderBookingItem at h
  dsimp only at h
  split at h
  next hcancelled => exact hcancelled
  next =>
    split at h <;> cases h

section Truthful

variable {timeOf : DateTime → Option Int} {answered : BookingsPage → Prop} {user n : Int}
variable {page : HistoryPage} {world : BookingWorld} {items : List HistoryItem} {item : HistoryItem}

/-- Every page of the bar is there. -/
theorem HistoryPage.Shows.bar_page
    (h : page.Shows timeOf answered (world.tables.totalCount user))
    (htruthful : ∀ content, answered content → content.Truthful user world)
    (hn : n ∈ page.pages) : 1 ≤ n ∧ n ≤ pagesFor (world.tables.totalCount user) ∧
      2 ≤ pagesFor (world.tables.totalCount user) := by
  rcases h.pages with hnone | ⟨content, hanswered, _, hbar⟩
  · exact absurd (hnone ▸ hn) List.not_mem_nil
  · have hcontent := htruthful content hanswered
    have hone : (1 : Int) ≤ content.page := Int.ofNat_le.mpr hcontent.one_le_page
    rw [hbar, mem_renderPagination hone hcontent.page_le] at hn
    obtain ⟨htwo, hfirst, hlast⟩ := hn
    obtain ⟨hlow, hhigh, _⟩ := pageWindow_spec hone hcontent.page_le
    have htotal := hcontent.totalPages_le
    exact ⟨hlow.trans hfirst, (hlast.trans hhigh).trans htotal, htwo.trans htotal⟩

theorem HistoryPage.Shows.stands (h : page.Shows timeOf answered (world.tables.totalCount user))
    (htruthful : ∀ content, answered content → content.Truthful user world)
    (harea : page.area = .list items) (hitem : item ∈ items) : item.Stands user world := by
  obtain ⟨content, rendered, hanswered, rfl, _⟩ := h.list items harea
  obtain ⟨entry, hentry, rfl⟩ := List.mem_map.mp hitem
  obtain ⟨b, hb, hid, howner, hcancelled⟩ := (htruthful content hanswered).entries entry hentry
  rw [HistoryItem.Stands, renderBookingItem_entry]
  exact ⟨b, hb, hid, howner, fun hstate => hcancelled (renderBookingItem_cancelled hstate)⟩

end Truthful

namespace HistoryState

section Exclusive

variable {s : HistoryState} {task : Nat} {phase : HistoryTask} {refund : Bool}

theorem Exclusive.move (h : s.Exclusive) (hphase : phase.isRefund = (s.tasks task).isRefund) :
    (s.move task phase).Exclusive := by
  obtain ⟨who, hwho, hall⟩ := h
  refine ⟨who, hwho, fun other => ?_⟩
  simp only [HistoryState.move, Function.update_apply]
  split
  next hother =>
    rw [hphase, hother]
    exact hall task
  next => exact hall other

theorem Exclusive.begin (h : s.Exclusive) (hnone : s.page.isRefunding = false)
    (hphase : phase.isRefund = true) :
    (HistoryState.move { s with page := { s.page with isRefunding := true } } task
      phase).Exclusive := by
  obtain ⟨who, hwho, hall⟩ := h
  obtain rfl : who = none := by simpa [hnone] using hwho
  refine ⟨some task, rfl, fun other => ?_⟩
  simp only [HistoryState.move, Function.update_apply]
  split
  next hother => simp [hother, hphase]
  next hother =>
    rw [hall other]
    simpa using Ne.symm hother

theorem Exclusive.finish (h : s.Exclusive) (hrefund : (s.tasks task).isRefund = refund) :
    (s.finish task refund).Exclusive := by
  obtain ⟨who, hwho, hall⟩ := h
  cases refund with
  | false =>
      refine ⟨who, hwho, fun other => ?_⟩
      simp only [HistoryState.finish, Function.update_apply]
      split
      next hother =>
        rw [← hall other, hother, hrefund]
        rfl
      next => exact hall other
  | true =>
      have htask := (hall task).mp hrefund
      refine ⟨none, rfl, fun other => ?_⟩
      simp only [HistoryState.finish, Function.update_apply]
      split
      next => simp [HistoryTask.isRefund]
      next hother =>
        rw [hall other, htask]
        simpa using Ne.symm hother

end Exclusive

section Sound

variable {timeOf : DateTime → Option Int} {answered : BookingsPage → Prop} {user : Int}
variable {userId : String} {s : HistoryState} {task : Nat} {phase : HistoryTask} {refund : Bool}

theorem fits_update (h : ∀ other, (s.tasks other).Fits answered user s.world)
    (hphase : phase.Fits answered user s.world) :
    ∀ other, (Function.update s.tasks task phase other).Fits answered user s.world := by
  intro other
  rw [Function.update_apply]
  split
  · exact hphase
  · exact h other

theorem Sound.finish (h : s.Sound timeOf answered user)
    (hrefund : (s.tasks task).isRefund = refund) :
    (s.finish task refund).Sound timeOf answered user where
  page := h.page.withdraw (.inr (.inr rfl)) (.inr rfl) (.inl rfl)
  tasks := fits_update h.tasks trivial
  exclusive := h.exclusive.finish hrefund
  positive := h.positive

theorem Sound.load (h : s.Sound timeOf answered user) (huserId : userId ≠ "") {page : Int}
    (hrefund : (s.tasks task).isRefund = refund) (hone : 1 ≤ page)
    (hle : page ≤ pagesFor (s.world.tables.totalCount user)) :
    (s.loadBookings timeOf userId task page refund).Sound timeOf answered user := by
  rw [loadBookings, if_neg huserId]
  exact {
    page := by
      refine h.page.withdraw ?_ (.inr rfl) (.inl rfl)
      split
      · exact .inl rfl
      · exact .inr (.inr rfl)
    tasks := fits_update h.tasks ⟨hone, hle⟩
    exclusive := Exclusive.move (s := { s with page := { s.page with
      area := if s.page.mount.isSome then .loading else s.page.area } }) h.exclusive hrefund.symm
    positive := h.positive }

theorem showReply_rest (content : BookingsPage) :
    (s.showReply timeOf content).tasks = s.tasks ∧ (s.showReply timeOf content).world = s.world ∧
      (s.showReply timeOf content).page.isRefunding = s.page.isRefunding := by
  unfold showReply renderBookingList showPages
  by_cases hmount : s.page.mount.isSome = true
  · simp only [hmount, if_true, and_self]
  · simp only [hmount, Bool.false_eq_true, if_false, and_self]

theorem failLoad_rest (mount : Option Nat) :
    (s.failLoad mount).tasks = s.tasks ∧ (s.failLoad mount).world = s.world ∧
      (s.failLoad mount).page.isRefunding = s.page.isRefunding := by
  unfold failLoad showPages
  dsimp only
  split <;> exact ⟨rfl, rfl, rfl⟩

/-- Only what is shown changes. -/
theorem Sound.show {next : HistoryState} (h : s.Sound timeOf answered user)
    (hpage : next.page.Shows timeOf answered (s.world.tables.totalCount user))
    (hrest : next.tasks = s.tasks ∧ next.world = s.world ∧
      next.page.isRefunding = s.page.isRefunding) : next.Sound timeOf answered user := by
  obtain ⟨htasks, hworld, hrefunding⟩ := hrest
  refine ⟨hworld ▸ hpage, ?_, ?_, ?_⟩
  · rw [htasks, hworld]
    exact h.tasks
  · rw [Exclusive, htasks, hrefunding]
    exact h.exclusive
  · rw [hworld]
    exact h.positive

theorem Sound.imp {answered' : BookingsPage → Prop} (h : s.Sound timeOf answered user)
    (himp : ∀ content, answered content → answered' content) : s.Sound timeOf answered' user where
  page := {
    list := fun items hitems => by
      obtain ⟨content, now, hanswered, hrest⟩ := h.page.list items hitems
      exact ⟨content, now, himp content hanswered, hrest⟩
    pages := h.page.pages.imp_right fun ⟨content, hanswered, hrest⟩ =>
      ⟨content, himp content hanswered, hrest⟩
    away := h.page.away
    one_le_current := h.page.one_le_current
    current_le := h.page.current_le }
  tasks := fun task => by
    have hfits := h.tasks task
    cases hphase : s.tasks task with
    | loaded reply mount refund =>
        rw [hphase] at hfits
        cases reply with
        | page content => exact himp content hfits
        | invalid => trivial
    | idle | loading page mount refund | refunding kind bookingId | refunded answer | finished =>
        rw [hphase] at hfits
        exact hfits
  exclusive := h.exclusive
  positive := h.positive

theorem Sound.write {world : BookingWorld} (h : s.Sound timeOf answered user)
    (hwritten : s.world.Written world) :
    HistoryState.Sound timeOf answered user { s with world := world } where
  page := { h.page with
    current_le := h.page.current_le.trans (pagesFor_mono hwritten.kept.totalCount_le) }
  tasks := fun task => by
    have hfits := h.tasks task
    have hpages : pagesFor (s.world.tables.totalCount user) ≤
        pagesFor (world.tables.totalCount user) :=
      pagesFor_mono hwritten.kept.totalCount_le
    cases hphase : s.tasks task with
    | loading page mount refund =>
        rw [hphase] at hfits
        exact ⟨hfits.1, hfits.2.trans hpages⟩
    | loaded reply mount refund =>
        rw [hphase] at hfits
        cases reply with
        | page content => exact hfits
        | invalid => trivial
    | refunding kind bookingId =>
        rw [hphase] at hfits
        obtain ⟨b, hb, hid, huser⟩ := hfits
        obtain ⟨b', hb', hbecomes⟩ := hwritten.kept kind b hb
        exact ⟨b', hb', hbecomes.bookingId.trans hid, hbecomes.userId.trans huser⟩
    | idle | refunded answer | finished => trivial
  exclusive := h.exclusive
  positive := fun kind => by
    cases kind with
    | movie => exact hwritten.movies.positive (h.positive .movie)
    | concert => exact hwritten.concerts.positive (h.positive .concert)

theorem Sound.leave (h : s.Sound timeOf answered user) (mount : Option Nat) (mounts : Nat) :
    HistoryState.Sound timeOf answered user { s with page := { s.page with
      mount := mount
      mounts := mounts
      area := .loading
      pages := [] } } :=
  ⟨h.page.withdraw (.inl rfl) (.inl rfl) (.inr ⟨rfl, rfl⟩), h.tasks, h.exclusive, h.positive⟩

/-- A click on the button of an item that is shown. -/
theorem Sound.askRefund {items : List HistoryItem} {item : HistoryItem}
    (h : s.Sound timeOf answered user)
    (htruthful : ∀ content, answered content → content.Truthful user s.world)
    (hnone : s.page.isRefunding = false) (harea : s.page.area = .list items)
    (hitem : item ∈ items) :
    (HistoryState.move
      { s with page := { s.page with area := .list items, isRefunding := true } } task
      (.refunding item.entry.kind item.entry.bookingId)).Sound timeOf answered user := by
  obtain ⟨b, hb, hid, howner, _⟩ := h.page.stands htruthful harea hitem
  exact ⟨h.page.withdraw (.inr (.inr harea.symm)) (.inr rfl) (.inl rfl),
    fits_update h.tasks ⟨b, hb, hid, howner⟩, h.exclusive.begin hnone rfl, h.positive⟩

/-- The list comes in. -/
theorem Sound.arrive {content : BookingsPage} (h : s.Sound timeOf answered user)
    (htruthful : ∀ content, answered content → content.Truthful user s.world)
    (hanswered : answered content) (hrefund : (s.tasks task).isRefund = refund) :
    ((s.showReply timeOf content).finish task refund).Sound timeOf answered user := by
  have hcontent := htruthful content hanswered
  have hshown := h.show (shows_showReply h.page hanswered hcontent.one_le_page
    (hcontent.page_le.trans hcontent.totalPages_le)) (showReply_rest content)
  exact hshown.finish (by rw [(showReply_rest content).1, hrefund])

/-- The list does not come in. -/
theorem Sound.fail (h : s.Sound timeOf answered user) (mount : Option Nat)
    (hrefund : (s.tasks task).isRefund = refund) :
    ((s.failLoad mount).finish task refund).Sound timeOf answered user := by
  have hshown := h.show (shows_failLoad h.page mount) (failLoad_rest mount)
  exact hshown.finish (by rw [(failLoad_rest mount).1, hrefund])

/-- The server handles the refund. -/
theorem Sound.execute {kind : BookingKind} {bookingId : Int} (h : s.Sound timeOf answered user)
    (htask : s.tasks task = .refunding kind bookingId) (env : Env) (payload : Json) :
    (HistoryState.move { s with world := (s.world.refund env payload).2 } task
      (.refunded (s.world.refund env payload).1)).Sound timeOf answered user := by
  have hwritten := h.write (BookingWorld.written_refund env payload s.world)
  have hsame : true = (s.tasks task).isRefund := by
    rw [htask]
    rfl
  exact ⟨hwritten.page, fits_update hwritten.tasks trivial, hwritten.exclusive.move hsame,
    hwritten.positive⟩

end Sound

end HistoryState

/-- What `get_bookings` may answer with to a request of the page. -/
def HistoryState.Serves (userId : String) (user : Int) (s : HistoryState)
    (content : BookingsPage) : Prop :=
  ∃ (sorted : List BookingRow) (page : Int),
    SortedBy BookingRow.sortKey (s.world.tables.unionRows user) sorted ∧
      1 ≤ page ∧ page ≤ pagesFor (s.world.tables.totalCount user) ∧
        getBookings s.world.tables sorted (some userId) (some (toString page)) (some "10") =
          .page content

/-- What happens in front of the page: the services write, and the server sorts. -/
def HistoryAction.Possible (user : Int) (s : HistoryState) : HistoryAction → Prop
  | .write world => s.world.Written world
  | .serve _ sorted => SortedBy BookingRow.sortKey (s.world.tables.unionRows user) sorted
  | _ => True

section Step

variable {timeOf : DateTime → Option Int} {answered : BookingsPage → Prop} {user : Int}
variable {userId : String} {s next : HistoryState} {a : HistoryAction}

/-- Every action keeps the page sound, if the answers are those of the server. -/
theorem HistoryState.Sound.step (h : s.Sound timeOf answered user)
    (huser : userIdOf (some userId) = some user)
    (htruthful : ∀ content, answered content → content.Truthful user s.world)
    (hserve : ∀ content, s.Serves userId user content → answered content)
    (hpossible : a.Possible user s) (hstep : historyStep timeOf userId s a = some next) :
    next.Sound timeOf answered user := by
  have huserId : userId ≠ "" := by
    rintro rfl
    cases huser
  cases a with
  | tick now =>
      obtain ⟨_, htick⟩ := Option.ite_none_right_eq_some.mp hstep
      obtain rfl := Option.some.inj htick
      exact ⟨h.page, h.tasks, h.exclusive, h.positive⟩
  | write world =>
      obtain rfl := Option.some.inj hstep
      exact h.write hpossible
  | openPage task =>
      cases hphase : s.tasks task with
      | idle =>
          simp only [historyStep, hphase] at hstep
          obtain rfl := Option.some.inj hstep
          exact (h.leave (some s.page.mounts) (s.page.mounts + 1)).load huserId
            (by rw [hphase]; rfl) le_rfl (one_le_pagesFor _)
      | _ => simp [historyStep, hphase] at hstep
  | leavePage =>
      obtain rfl := Option.some.inj hstep
      exact h.leave none s.page.mounts
  | clickPage task page =>
      cases hphase : s.tasks task with
      | idle =>
          simp only [historyStep, hphase] at hstep
          obtain ⟨⟨_, hpage, _⟩, hload⟩ := Option.ite_none_right_eq_some.mp hstep
          obtain rfl := Option.some.inj hload
          obtain ⟨hone, hlast, _⟩ := h.page.bar_page htruthful hpage
          exact h.load huserId (by rw [hphase]; rfl) hone hlast
      | _ => simp [historyStep, hphase] at hstep
  | clickRefund task kind bookingId =>
      cases hphase : s.tasks task with
      | idle =>
          cases harea : s.page.area with
          | list items =>
              simp only [historyStep, hphase, harea] at hstep
              obtain ⟨⟨_, hnone, _, hitem⟩, hbegin⟩ := Option.ite_none_right_eq_some.mp hstep
              obtain rfl := Option.some.inj hbegin
              obtain ⟨item, hmem, hshown⟩ := List.any_eq_true.mp hitem
              obtain ⟨_, rfl, rfl⟩ := of_decide_eq_true hshown
              exact h.askRefund htruthful hnone harea hmem
          | loading | failed => simp [historyStep, hphase, harea] at hstep
      | _ => simp [historyStep, hphase] at hstep
  | serve task sorted =>
      cases hphase : s.tasks task with
      | loading page mount refund =>
          simp only [historyStep, hphase] at hstep
          obtain rfl := Option.some.inj hstep
          have hfits := h.tasks task
          rw [hphase] at hfits
          obtain ⟨content, hcontent, _⟩ :=
            getBookings_answers sorted huser hfits.1 hfits.2
          rw [hcontent]
          exact ⟨h.page, HistoryState.fits_update h.tasks
              (hserve content ⟨sorted, page, hpossible, hfits.1, hfits.2, hcontent⟩),
            h.exclusive.move (by rw [hphase]; rfl), h.positive⟩
      | _ => simp [historyStep, hphase] at hstep
  | arrive task =>
      cases hphase : s.tasks task with
      | loaded reply mount refund =>
          cases reply with
          | page content =>
              simp only [historyStep, hphase] at hstep
              obtain rfl := Option.some.inj hstep
              have hanswered := h.tasks task
              rw [hphase] at hanswered
              exact h.arrive htruthful hanswered (by rw [hphase]; rfl)
          | invalid =>
              simp only [historyStep, hphase] at hstep
              obtain rfl := Option.some.inj hstep
              exact h.fail mount (by rw [hphase]; rfl)
      | _ => simp [historyStep, hphase] at hstep
  | dropLoad task =>
      cases hphase : s.tasks task with
      | loading page mount refund | loaded reply mount refund =>
          simp only [historyStep, hphase] at hstep
          obtain rfl := Option.some.inj hstep
          exact h.fail mount (by rw [hphase]; rfl)
      | _ => simp [historyStep, hphase] at hstep
  | execute task env =>
      cases hphase : s.tasks task with
      | refunding kind bookingId =>
          simp only [historyStep, hphase] at hstep
          obtain rfl := Option.some.inj hstep
          exact h.execute hphase env (refundPayload userId kind bookingId)
      | _ => simp [historyStep, hphase] at hstep
  | answer task =>
      cases hphase : s.tasks task with
      | refunded answer =>
          simp only [historyStep, hphase] at hstep
          split at hstep
          · obtain rfl := Option.some.inj hstep
            exact h.load huserId (by rw [hphase]; rfl) h.page.one_le_current h.page.current_le
          · obtain rfl := Option.some.inj hstep
            exact h.finish (by rw [hphase]; rfl)
      | _ => simp [historyStep, hphase] at hstep
  | dropRefund task =>
      cases hphase : s.tasks task with
      | refunding kind bookingId | refunded answer =>
          simp only [historyStep, hphase] at hstep
          obtain rfl := Option.some.inj hstep
          exact h.finish (by rw [hphase]; rfl)
      | _ => simp [historyStep, hphase] at hstep

end Step

end Ticketing
