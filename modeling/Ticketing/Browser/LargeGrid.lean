import Ticketing.Browser.BookingRun

/-!
# Both grids let the same seats be selected

The modal of a small hall shows every seat, that of a large one a row and a page at a
time. With the pagers every seat comes into view, and so the selections that can be made
are the same in both: any distinct seats that are not reserved, as many as remain.
-/

namespace Ticketing

open Foundation JavaScript Python

/-! ## The pagers -/

/-- The pager buttons are disabled at the ends of their pages. -/
structure ConcertHall.Buttons (hall : ConcertHall) (g : LargeGrid) : Prop where
  rowPrev : g.rowPrevDisabled = decide (g.activeRowPage ≤ 1)
  rowNext : g.rowNextDisabled = decide (hall.rowPager.count ≤ g.activeRowPage)
  prev : g.prevDisabled = decide (g.activeColPage ≤ 1)
  next : g.nextDisabled = decide (hall.seatPager.count ≤ g.activeColPage)

section Paging

variable {hall : ConcertHall} {g next : LargeGrid} {selected : List String} {row col : Int}

theorem ConcertHall.Buttons.drawRows (h : hall.Buttons g) (page : Int) :
    hall.Buttons (renderRowButtons hall { g with activeRowPage := page }) :=
  ⟨rfl, rfl, h.prev, h.next⟩

theorem ConcertHall.Buttons.drawSeats (h : hall.Buttons g) (page : Int) :
    hall.Buttons (renderRowPage hall { g with activeColPage := page }) :=
  ⟨h.rowPrev, h.rowNext, rfl, rfl⟩

theorem handleSeatClick_buttons (h : hall.Buttons g) (index : Nat) (button : SeatButton) :
    hall.Buttons (handleSeatClick hall index button g) := by
  unfold handleSeatClick
  split
  next => exact h
  next =>
    split
    next => exact ⟨h.rowPrev, h.rowNext, h.prev, h.next⟩
    next => split <;> exact ⟨h.rowPrev, h.rowNext, h.prev, h.next⟩

theorem openLargeGrid_buttons : hall.Buttons (openLargeGrid hall) := ⟨rfl, rfl, rfl, rfl⟩

/-- A grid that can be paged, with these seats selected. -/
structure ConcertHall.Paging (hall : ConcertHall) (selected : List String) (g : LargeGrid) :
    Prop where
  shown : hall.Shown g
  buttons : hall.Buttons g
  selected_eq : g.selectedSeats = selected

/-- The pager of the row buttons comes to every page. -/
theorem ConcertHall.Paging.exists_rowPage (h : hall.Paging selected g) {page : Int}
    (hpage : hall.rowPager.IsPage page) :
    ∃ clicks next, (gridMachine hall).run g clicks = some next ∧ hall.Paging selected next ∧
      next.activeRowPage = page := by
  apply Machine.exists_run_to (hall.Paging selected) LargeGrid.activeRowPage .rowNext .rowPrev
    _ _ h hpage.1 hpage.2
  · intro g h hbelow
    have henabled : g.rowNextDisabled = false := by simpa [h.buttons.rowNext] using hbelow
    refine ⟨_, by simp [gridMachine, gridStep, henabled]; rfl, ⟨h.shown.renderRowButtons _,
      h.buttons.drawRows _, h.selected_eq⟩, ?_⟩
    have hone := h.shown.rows.page.1
    have hnext : hall.rowPager.IsPage (g.activeRowPage + 1) := ⟨by omega, by omega⟩
    exact hnext.clamp_eq
  · intro g h habove
    have henabled : g.rowPrevDisabled = false := by simpa [h.buttons.rowPrev] using habove
    refine ⟨_, by simp [gridMachine, gridStep, henabled]; rfl, ⟨h.shown.renderRowButtons _,
      h.buttons.drawRows _, h.selected_eq⟩, ?_⟩
    have hcount := h.shown.rows.page.2
    have hprev : hall.rowPager.IsPage (g.activeRowPage - 1) := ⟨by omega, by omega⟩
    exact hprev.clamp_eq

/-- The pager of the seats comes to every page of the row. -/
theorem ConcertHall.Paging.exists_seatPage (h : hall.Paging selected g) {page : Int}
    (hpage : hall.seatPager.IsPage page) :
    ∃ clicks next, (gridMachine hall).run g clicks = some next ∧
      (hall.Paging selected next ∧ next.activeRow = g.activeRow) ∧ next.activeColPage = page := by
  apply Machine.exists_run_to
    (fun next => hall.Paging selected next ∧ next.activeRow = g.activeRow)
    LargeGrid.activeColPage .next .prev _ _ ⟨h, rfl⟩ hpage.1 hpage.2
  · rintro g ⟨h, hrow⟩ hbelow
    have henabled : g.nextDisabled = false := by simpa [h.buttons.next] using hbelow
    refine ⟨_, by simp [gridMachine, gridStep, henabled]; rfl, ⟨⟨h.shown.renderRowPage _,
      h.buttons.drawSeats _, h.selected_eq⟩, hrow⟩, ?_⟩
    have hone := h.shown.seats.page.1
    have hnext : hall.seatPager.IsPage (g.activeColPage + 1) := ⟨by omega, by omega⟩
    exact hnext.clamp_eq
  · rintro g ⟨h, hrow⟩ habove
    have henabled : g.prevDisabled = false := by simpa [h.buttons.prev] using habove
    refine ⟨_, by simp [gridMachine, gridStep, henabled]; rfl, ⟨⟨h.shown.renderRowPage _,
      h.buttons.drawSeats _, h.selected_eq⟩, hrow⟩, ?_⟩
    have hcount := h.shown.seats.page.2
    have hprev : hall.seatPager.IsPage (g.activeColPage - 1) := ⟨by omega, by omega⟩
    exact hprev.clamp_eq

/-- The button of a row is on its page. -/
theorem ConcertHall.Paging.exists_row (h : hall.Paging selected g) (hrow : 1 ≤ row)
    (hrows : row ≤ hall.seatRows) :
    ∃ clicks next, (gridMachine hall).run g clicks = some next ∧ hall.Paging selected next ∧
      next.activeRow = row := by
  have hpage : hall.rowPager.IsPage (ceilDiv row hall.rowPager.size) :=
    Pager.isPage_ceilDiv hrow hrows
  obtain ⟨clicks, middle, hrun, hmiddle, hactive⟩ := h.exists_rowPage hpage
  have hmem : row ∈ middle.rowButtons.map RowButton.row := by
    rw [hmiddle.shown.rows.rows, hactive]
    exact (Pager.mem_items_iff hpage).mpr ⟨hrow, hrows, rfl⟩
  obtain ⟨button, hbutton, rfl⟩ := List.mem_map.mp hmem
  obtain ⟨index, hindex⟩ := List.mem_iff_getElem?.mp hbutton
  have hclick : (gridMachine hall).step middle (.row index) = some (renderRowPage hall
      (renderRowButtons hall { middle with activeRow := button.row, activeColPage := 1 })) := by
    simp [gridMachine, gridStep, hindex]
  refine ⟨clicks ++ [.row index], _, Machine.run_concat_eq_some _ |>.mpr ⟨middle, hrun, hclick⟩,
    ⟨gridStep_shown (.row index) hmiddle.shown hclick, ⟨rfl, rfl, rfl, rfl⟩, hmiddle.selected_eq⟩, rfl⟩

/-- Every seat of the hall comes into view. -/
theorem ConcertHall.Paging.exists_seat (h : hall.Paging selected g) (hrow : 1 ≤ row)
    (hrows : row ≤ hall.seatRows) (hcol : 1 ≤ col) (hcols : col ≤ hall.seatCols) :
    ∃ (clicks : List GridClick) (next : LargeGrid) (index : Nat),
      (gridMachine hall).run g clicks = some next ∧ hall.Paging selected next ∧
      next.seats[index]? = some (seatButton hall selected row col) := by
  obtain ⟨toRow, middle, hrun, hmiddle, rfl⟩ := h.exists_row hrow hrows
  have hpage : hall.seatPager.IsPage (ceilDiv col hall.seatPager.size) :=
    Pager.isPage_ceilDiv hcol hcols
  obtain ⟨toPage, next, hrun', ⟨hnext, hsame⟩, hactive⟩ := hmiddle.exists_seatPage hpage
  have hmem : col ∈ hall.seatPager.items next.activeColPage := by
    rw [hactive]
    exact (Pager.mem_items_iff hpage).mpr ⟨hcol, hcols, rfl⟩
  obtain ⟨index, hindex⟩ := List.mem_iff_getElem?.mp hmem
  refine ⟨toRow ++ toPage, next, index, Machine.run_append_eq_some _ |>.mpr ⟨middle, hrun, hrun'⟩,
    hnext, ?_⟩
  rw [hnext.shown.seats.seats, List.getElem?_map, hindex, hnext.selected_eq, hsame]
  rfl

end Paging

/-! ## Both modals -/

/-- Only seats are clicked. -/
def SeatClicks (steps : List ModalStep) : Prop := ∀ a ∈ steps, ∃ row col, a = .seat row col

section Selections

variable {options : BookingOptions} {hall : ConcertHall} {selected : List String}
  {seatKey : String}

/-- The seats selected before the last one. -/
theorem ConcertHall.Selection.init (h : hall.Selection (selected ++ [seatKey])) :
    hall.Selection selected ∧ seatKey ∉ selected ∧
      ¬ max 1 hall.remainCount ≤ selected.length := by
  have hlength := h.length_le
  rw [List.length_append, List.length_singleton, Nat.cast_add, Nat.cast_one] at hlength
  refine ⟨⟨h.nodup.of_append_left, ?_, ?_, by omega⟩, ?_, by omega⟩
  · exact fun other hother => h.isSeatKey other (List.mem_append_left _ hother)
  · exact fun other hother => h.not_reserved other (List.mem_append_left _ hother)
  · intro hmem
    exact (List.nodup_append.mp h.nodup).2.2 seatKey hmem seatKey (by simp) rfl

/-- In the large grid. -/
theorem exists_gridClicks (h : hall.Selection selected) :
    ∃ clicks g, (gridMachine hall).run (openLargeGrid hall) clicks = some g ∧
      hall.Paging selected g := by
  induction selected using List.reverseRecOn with
  | nil => exact ⟨[], _, rfl, openLargeGrid_shown, openLargeGrid_buttons, rfl⟩
  | append_singleton selected seatKey ih =>
      obtain ⟨hinit, hnew, hroom⟩ := h.init
      obtain ⟨clicks, g, hrun, hpaging⟩ := ih hinit
      obtain ⟨row, col, hrow, hrows, hcol, hcols, rfl⟩ := h.isSeatKey seatKey (by simp)
      obtain ⟨toSeat, middle, index, hmiddle, hshown, hbutton⟩ :=
        hpaging.exists_seat hrow hrows hcol hcols
      have hclick : (gridMachine hall).step middle (.seat index) =
          some (handleSeatClick hall index (seatButton hall selected row col) middle) := by
        simp [gridMachine, gridStep, hbutton]
      have hselected : (handleSeatClick hall index (seatButton hall selected row col)
          middle).selectedSeats = selected ++ [createSeatKey row col] := by
        have hfree := h.not_reserved _ (List.mem_append_right _ (List.mem_singleton_self _))
        simp only [handleSeatClick, seatButton, hfree, hshown.selected_eq, hnew, hroom,
          decide_false, Bool.false_eq_true, if_false]
        rfl
      refine ⟨clicks ++ (toSeat ++ [.seat index]), _, ?_,
        gridStep_shown (.seat index) hshown.shown hclick,
        handleSeatClick_buttons hshown.buttons _ _, hselected⟩
      exact Machine.run_append_eq_some _ |>.mpr
        ⟨g, hrun, Machine.run_concat_eq_some _ |>.mpr ⟨middle, hmiddle, hclick⟩⟩

/-- In the modal that shows every seat. -/
theorem exists_seatClicks (h : options.hall.Selection selected) :
    ∃ steps m, SeatClicks steps ∧
      (modalMachine options).run (openBookingModal options) steps = some m ∧
      m.selectedSeats = selected ∧ m.isOpen = true ∧ m.reloaded = false ∧
      m.currentStep = .seats := by
  induction selected using List.reverseRecOn with
  | nil => exact ⟨[], _, by simp [SeatClicks], rfl, rfl, rfl, rfl, rfl⟩
  | append_singleton selected seatKey ih =>
      obtain ⟨hinit, hnew, hroom⟩ := h.init
      obtain ⟨steps, m, hclicks, hrun, rfl, hopen, hstay, hstep⟩ := ih hinit
      obtain ⟨row, col, hrow, hrows, hcol, hcols, rfl⟩ := h.isSeatKey seatKey (by simp)
      have hfree := h.not_reserved _ (List.mem_append_right _ (List.mem_singleton_self _))
      have hclick : (modalMachine options).step m (.seat row col) =
          some (select options (m.selectedSeats ++ [createSeatKey row col]) m) := by
        simp [modalMachine, modalStep, hopen, hstay, hstep, hrow, hrows, hcol, hcols, clickSeat,
          hfree, toggleSeat, hnew, hroom]
      refine ⟨steps ++ [.seat row col], select options _ m, ?_,
        Machine.run_concat_eq_some _ |>.mpr ⟨m, hrun, hclick⟩, rfl, hopen, hstay, hstep⟩
      exact List.forall_mem_append.mpr
        ⟨hclicks, List.forall_mem_singleton.mpr ⟨row, col, rfl⟩⟩

end Selections

end Ticketing
