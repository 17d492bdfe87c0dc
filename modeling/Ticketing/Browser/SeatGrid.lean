import Ticketing.Browser.Dataset
import Ticketing.Foundation.Machine
import Ticketing.Foundation.Pager

/-!
# The seat grid of a large concert hall

A hall with more than 1500 seats is not drawn as a whole. The booking modal shows one
row of it, on pages of 80 seats, and buttons for the rows, on pages of 20. The
handlers move page numbers without a check, and what is drawn afterwards clamps them.
The buttons are made anew each time, while the selection stays.
-/

namespace Ticketing

open Foundation JavaScript Python

/-! ## `openConcertBookingModal` -/

/-- What the modal reads of a show. -/
structure ConcertHall where
  seatRows : Int
  seatCols : Int
  remainCount : Int
  price : Int
  reservedSeats : List String
  rows_pos : 1 ≤ seatRows
  cols_pos : 1 ≤ seatCols

def ConcertHall.ofShow (concertShow reservedSeats : Value) : ConcertHall where
  seatRows := max 1 (orInt (toInt (concertShow.get "seat_rows")) 5)
  seatCols := max 1 (orInt (toInt (concertShow.get "seat_cols")) 10)
  remainCount := max 0 (toInt ((concertShow.get "remain_count").orElse (.number 0)))
  price := max 0 (toInt ((concertShow.get "price").orElse (.number 0)))
  reservedSeats :=
    match reservedSeats with
    | .array items => items.map Value.toText
    | _ => []
  rows_pos := le_max_left _ _
  cols_pos := le_max_left _ _

def createSeatKey (row col : Int) : String := toString row ++ "-" ++ toString col

def getRowLabel (row : Int) : String :=
  if row = 1 then "A열" else if row = 2 then "B열" else if row = 3 then "C열" else s!"{row}열"

/-- The row and the column are numbers in the grid, and texts in the summary. -/
def createSeatLabel (row col : Value) : String :=
  getRowLabel (toInt row) ++ " " ++ col.toText ++ "번"

def groupThousands : List Char → List Char
  | first :: second :: third :: fourth :: rest =>
      first :: second :: third :: ',' :: groupThousands (fourth :: rest)
  | short => short

/-- `value.toLocaleString('ko-KR')`. -/
def toLocaleString (value : Int) : String :=
  (if value < 0 then "-" else "") ++
    String.ofList (groupThousands (Nat.toDigits 10 value.natAbs).reverse).reverse

/-! ## What is shown -/

structure RowButton where
  row : Int
  text : String
  isActive : Bool
deriving DecidableEq, Repr

structure SeatButton where
  /-- the number on it -/
  col : Int
  seatKey : String
  ariaLabel : String
  disabled : Bool
  isSelected : Bool
deriving DecidableEq, Repr

structure SeatSummary where
  selectedValue : String
  selectedCount : String
  selectedPrice : String
  remain : String
  submitDisabled : Bool
deriving DecidableEq, Repr

/-- The variables of `renderLargeGrid`, the selection, and the document. -/
structure LargeGrid where
  activeRow : Int
  activeColPage : Int
  activeRowPage : Int
  rowButtons : List RowButton
  rowPrevDisabled : Bool
  rowNextDisabled : Bool
  rowLabel : String
  /-- of the grid template -/
  visibleColumns : Int
  seats : List SeatButton
  pageInfo : String
  prevDisabled : Bool
  nextDisabled : Bool
  selectedSeats : List String
  summary : SeatSummary
  alerts : List String
deriving DecidableEq, Repr

/-- `createSeatLabel` of the parts of a key. -/
def labelOfKey (seatKey : String) : String :=
  let parts := (seatKey.toList.splitOn '-').map String.ofList
  createSeatLabel ((parts[0]?).elim .undefined .string) ((parts[1]?).elim .undefined .string)

/-- In the first step, in which the grid can be seen. -/
def summaryOf (hall : ConcertHall) (selectedSeats : List String) : SeatSummary where
  selectedValue :=
    if selectedSeats = [] then "없음" else joinStr ", " (selectedSeats.map labelOfKey)
  selectedCount := toString selectedSeats.length ++ "명"
  selectedPrice := toLocaleString (selectedSeats.length * hall.price) ++ "원"
  remain := toString (max 0 (hall.remainCount - selectedSeats.length))
  submitDisabled := selectedSeats.length = 0

def updateSummary (hall : ConcertHall) (g : LargeGrid) : LargeGrid :=
  { g with summary := summaryOf hall g.selectedSeats }

/-! ## Drawing -/

def colsPerPage : Int := 80

def rowButtonsPerPage : Int := 20

def renderRowButtons (hall : ConcertHall) (g : LargeGrid) : LargeGrid :=
  let totalRowPages := max 1 (ceilDiv hall.seatRows rowButtonsPerPage)
  let activeRowPage := min (max g.activeRowPage 1) totalRowPages
  let startRow := (activeRowPage - 1) * rowButtonsPerPage + 1
  let endRow := min hall.seatRows (startRow + rowButtonsPerPage - 1)
  { g with
    activeRowPage := activeRowPage
    rowButtons := (countUp startRow endRow).map fun row =>
      { row := row, text := getRowLabel row, isActive := row = g.activeRow }
    rowPrevDisabled := activeRowPage ≤ 1
    rowNextDisabled := totalRowPages ≤ activeRowPage }

def seatButton (hall : ConcertHall) (selectedSeats : List String) (row col : Int) : SeatButton where
  col := col
  seatKey := createSeatKey row col
  ariaLabel := createSeatLabel (.number row) (.number col)
  disabled := createSeatKey row col ∈ hall.reservedSeats
  isSelected := createSeatKey row col ∈ selectedSeats

def renderRowPage (hall : ConcertHall) (g : LargeGrid) : LargeGrid :=
  let totalSeatPages := max 1 (ceilDiv hall.seatCols colsPerPage)
  let activeColPage := min (max g.activeColPage 1) totalSeatPages
  let startCol := (activeColPage - 1) * colsPerPage + 1
  let endCol := min hall.seatCols (startCol + colsPerPage - 1)
  { g with
    activeColPage := activeColPage
    rowLabel := getRowLabel g.activeRow
    visibleColumns := min (endCol - startCol + 1) 10
    seats := (countUp startCol endCol).map (seatButton hall g.selectedSeats g.activeRow)
    pageInfo := "선택: " ++ getRowLabel g.activeRow ++ " / 좌석 " ++ toString startCol ++ "~" ++
      toString endCol ++ " (페이지 " ++ toString activeColPage ++ "/" ++
      toString totalSeatPages ++ ")"
    prevDisabled := activeColPage ≤ 1
    nextDisabled := totalSeatPages ≤ activeColPage }

/-- The markup, before anything is drawn into it. -/
def emptyGrid (hall : ConcertHall) : LargeGrid where
  activeRow := 1
  activeColPage := 1
  activeRowPage := 1
  rowButtons := []
  rowPrevDisabled := false
  rowNextDisabled := false
  rowLabel := "A열"
  visibleColumns := min colsPerPage 10
  seats := []
  pageInfo := ""
  prevDisabled := false
  nextDisabled := false
  selectedSeats := []
  summary := ⟨"없음", "0명", "0원", toString hall.remainCount, false⟩
  alerts := []

def renderLargeGrid (hall : ConcertHall) : LargeGrid :=
  renderRowPage hall (renderRowButtons hall (emptyGrid hall))

/-- The modal as it opens. -/
def openLargeGrid (hall : ConcertHall) : LargeGrid := updateSummary hall (renderLargeGrid hall)

/-! ## Handlers -/

/-- The class of one of the buttons. -/
def markSeat (index : Nat) (isSelected : Bool) (g : LargeGrid) : LargeGrid :=
  { g with seats := g.seats.modify index fun button => { button with isSelected := isSelected } }

def handleSeatClick (hall : ConcertHall) (index : Nat) (button : SeatButton) (g : LargeGrid) :
    LargeGrid :=
  if button.disabled then g
  else if button.seatKey ∈ g.selectedSeats then
    updateSummary hall (markSeat index false
      { g with selectedSeats := g.selectedSeats.erase button.seatKey })
  else if max 1 hall.remainCount ≤ g.selectedSeats.length then
    { g with alerts := g.alerts ++ ["선택 가능한 좌석 수를 초과했습니다."] }
  else
    updateSummary hall (markSeat index true
      { g with selectedSeats := g.selectedSeats ++ [button.seatKey] })

/-- The button beside the input, which holds `value`. -/
def jumpTo (hall : ConcertHall) (value : String) (g : LargeGrid) : LargeGrid :=
  let targetCol := toInt (.string value)
  if targetCol ≤ 0 ∨ hall.seatCols < targetCol then
    { g with alerts := g.alerts ++ ["좌석 번호가 올바르지 않습니다."] }
  else renderRowPage hall { g with activeColPage := ceilDiv targetCol colsPerPage }

/-- Clicks on the buttons; rows and seats by their place among those that are shown. -/
inductive GridClick where
  | rowPrev
  | rowNext
  | row (index : Nat)
  | prev
  | next
  | jump (value : String)
  | seat (index : Nat)
deriving DecidableEq, Repr

/-- A pager button that is disabled gets no click. -/
def gridStep (hall : ConcertHall) (g : LargeGrid) : GridClick → Option LargeGrid
  | .rowPrev =>
      if g.rowPrevDisabled then none
      else some (renderRowButtons hall { g with activeRowPage := g.activeRowPage - 1 })
  | .rowNext =>
      if g.rowNextDisabled then none
      else some (renderRowButtons hall { g with activeRowPage := g.activeRowPage + 1 })
  | .row index =>
      (g.rowButtons[index]?).map fun button =>
        renderRowPage hall (renderRowButtons hall
          { g with activeRow := button.row, activeColPage := 1 })
  | .prev =>
      if g.prevDisabled then none
      else some (renderRowPage hall { g with activeColPage := g.activeColPage - 1 })
  | .next =>
      if g.nextDisabled then none
      else some (renderRowPage hall { g with activeColPage := g.activeColPage + 1 })
  | .jump value => some (jumpTo hall value g)
  | .seat index => (g.seats[index]?).map fun button => handleSeatClick hall index button g

def gridMachine (hall : ConcertHall) : Machine LargeGrid GridClick := ⟨gridStep hall⟩

/-! ## What every click leaves -/

namespace ConcertHall

variable (hall : ConcertHall)

def rowPager : Pager := ⟨rowButtonsPerPage, hall.seatRows, by decide, hall.rows_pos⟩

def seatPager : Pager := ⟨colsPerPage, hall.seatCols, by decide, hall.cols_pos⟩

/-- The key of a seat of the hall. -/
def IsSeatKey (seatKey : String) : Prop :=
  ∃ row col, 1 ≤ row ∧ row ≤ hall.seatRows ∧ 1 ≤ col ∧ col ≤ hall.seatCols ∧
    seatKey = createSeatKey row col

/-- Distinct seats of the hall that are not reserved, and not too many. -/
structure Selection (selectedSeats : List String) : Prop where
  nodup : selectedSeats.Nodup
  isSeatKey : ∀ seatKey ∈ selectedSeats, hall.IsSeatKey seatKey
  not_reserved : ∀ seatKey ∈ selectedSeats, seatKey ∉ hall.reservedSeats
  length_le : (selectedSeats.length : Int) ≤ max 1 hall.remainCount

/-- The row buttons are those of the active page. -/
structure RowsShown (g : LargeGrid) : Prop where
  page : hall.rowPager.IsPage g.activeRowPage
  rows : g.rowButtons.map RowButton.row = hall.rowPager.items g.activeRowPage
  active : ∀ button ∈ g.rowButtons, button.isActive = decide (button.row = g.activeRow)

/-- The seat buttons are those of the active row and page, as they are drawn from the
reserved and the selected seats. -/
structure SeatsShown (g : LargeGrid) : Prop where
  one_le_row : 1 ≤ g.activeRow
  row_le : g.activeRow ≤ hall.seatRows
  page : hall.seatPager.IsPage g.activeColPage
  seats : g.seats = (hall.seatPager.items g.activeColPage).map
    (seatButton hall g.selectedSeats g.activeRow)

structure Shown (g : LargeGrid) : Prop where
  rows : hall.RowsShown g
  seats : hall.SeatsShown g
  selection : hall.Selection g.selectedSeats
  summary : g.summary = summaryOf hall g.selectedSeats

end ConcertHall

section Drawing

variable {hall : ConcertHall} {g : LargeGrid}

/-- Drawing the row buttons puts the page in range, wherever it has been moved. -/
theorem renderRowButtons_rowsShown : hall.RowsShown (renderRowButtons hall g) := by
  refine ⟨hall.rowPager.clamp_isPage g.activeRowPage, ?_, ?_⟩
  · change ((countUp _ _).map _).map RowButton.row = _
    rw [List.map_map]
    exact List.map_id _
  · intro button hbutton
    obtain ⟨row, _, rfl⟩ := List.mem_map.mp hbutton
    rfl

theorem renderRowPage_seatsShown (hone : 1 ≤ g.activeRow) (hrow : g.activeRow ≤ hall.seatRows) :
    hall.SeatsShown (renderRowPage hall g) :=
  ⟨hone, hrow, hall.seatPager.clamp_isPage g.activeColPage, rfl⟩

theorem ConcertHall.SeatsShown.map_col (h : hall.SeatsShown g) :
    g.seats.map SeatButton.col = hall.seatPager.items g.activeColPage := by
  rw [h.seats, List.map_map]
  exact List.map_id _

/-- The pages of a row, drawn one after the other, have each of its seats once. -/
theorem flatMap_renderRowPage (row : Int) :
    ((countUp 1 hall.seatPager.count).flatMap fun page =>
      (renderRowPage hall { g with activeRow := row, activeColPage := page }).seats.map
        SeatButton.col) = countUp 1 hall.seatCols := by
  have hpages : ∀ page ∈ countUp 1 hall.seatPager.count,
      (renderRowPage hall { g with activeRow := row, activeColPage := page }).seats.map
        SeatButton.col = hall.seatPager.items page := by
    intro page hpage
    obtain ⟨hone, hcount⟩ := mem_countUp.mp hpage
    have hclamp : hall.seatPager.clamp page = page := Pager.IsPage.clamp_eq ⟨hone, hcount⟩
    change ((hall.seatPager.items (hall.seatPager.clamp page)).map _).map SeatButton.col = _
    rw [List.map_map, hclamp]
    exact List.map_id _
  rw [List.flatMap_congr hpages]
  exact hall.seatPager.flatMap_pages

end Drawing

section Selecting

variable {hall : ConcertHall} {g next : LargeGrid} {selectedSeats : List String}
  {seatKey : String}

theorem createSeatKey_injective (row : Int) : Function.Injective (createSeatKey row) := by
  intro left right heq
  have hlists := congrArg String.toList heq
  rw [createSeatKey, createSeatKey, String.toList_append, @String.toList_append _ (toString right)]
    at hlists
  exact toString_int_injective (String.toList_injective (List.append_cancel_left hlists))

theorem selection_nil : hall.Selection [] := by
  refine ⟨List.nodup_nil, ?_, ?_, le_trans (by decide) (le_max_left 1 hall.remainCount)⟩ <;>
    exact fun seatKey hmem => absurd hmem List.not_mem_nil

theorem ConcertHall.Selection.erase (h : hall.Selection selectedSeats) :
    hall.Selection (selectedSeats.erase seatKey) := by
  refine ⟨h.nodup.erase seatKey, ?_, ?_, ?_⟩
  · exact fun other hother => h.isSeatKey other (List.mem_of_mem_erase hother)
  · exact fun other hother => h.not_reserved other (List.mem_of_mem_erase hother)
  · have hlength : (selectedSeats.erase seatKey).length ≤ selectedSeats.length :=
      List.length_erase_le
    exact le_trans (Int.ofNat_le.mpr hlength) h.length_le

theorem ConcertHall.Selection.add (h : hall.Selection selectedSeats)
    (hkey : hall.IsSeatKey seatKey) (hfree : seatKey ∉ hall.reservedSeats)
    (hnew : seatKey ∉ selectedSeats)
    (hroom : (selectedSeats.length : Int) < max 1 hall.remainCount) :
    hall.Selection (selectedSeats ++ [seatKey]) := by
  refine ⟨?_, ?_, ?_, ?_⟩
  · rw [List.nodup_append_comm]
    exact List.nodup_cons.mpr ⟨hnew, h.nodup⟩
  · exact List.forall_mem_append.mpr ⟨h.isSeatKey, List.forall_mem_singleton.mpr hkey⟩
  · exact List.forall_mem_append.mpr ⟨h.not_reserved, List.forall_mem_singleton.mpr hfree⟩
  · rw [List.length_append, List.length_singleton]
    push_cast
    omega

/-- Marking the one button whose seat has been selected or given back is as good as
drawing all of them again. -/
theorem modify_seatButton {cols : List Int} (hcols : cols.Nodup) {index : Nat} {row col : Int}
    (hindex : cols[index]? = some col) {selected selected' : List String}
    (hothers : ∀ other, other ≠ createSeatKey row col → (other ∈ selected' ↔ other ∈ selected)) :
    ((cols.map (seatButton hall selected row)).modify index fun button =>
        { button with isSelected := decide (createSeatKey row col ∈ selected') }) =
      cols.map (seatButton hall selected' row) := by
  apply List.ext_getElem?
  intro place
  rw [List.getElem?_modify, List.getElem?_map, List.getElem?_map]
  by_cases hplace : index = place
  · subst hplace
    rw [hindex]
    simp [seatButton]
  · simp only [if_neg hplace, id_map']
    cases hother : cols[place]? with
    | none => rfl
    | some other =>
        have hne : other ≠ col := by
          rintro rfl
          obtain ⟨hbound, _⟩ := List.getElem?_eq_some_iff.mp hindex
          exact hplace ((List.getElem?_inj hbound hcols).mp (hindex.trans hother.symm))
        have hsame := hothers (createSeatKey row other) ((createSeatKey_injective row).ne hne)
        simp [seatButton, hsame]

theorem ConcertHall.RowsShown.keep (h : hall.RowsShown g)
    (hpage : next.activeRowPage = g.activeRowPage) (hbuttons : next.rowButtons = g.rowButtons)
    (hrow : next.activeRow = g.activeRow) : hall.RowsShown next := by
  refine ⟨?_, ?_, ?_⟩
  · rw [hpage]
    exact h.page
  · rw [hpage, hbuttons]
    exact h.rows
  · rw [hbuttons, hrow]
    exact h.active

theorem ConcertHall.SeatsShown.keep (h : hall.SeatsShown g)
    (hpage : next.activeColPage = g.activeColPage) (hseats : next.seats = g.seats)
    (hrow : next.activeRow = g.activeRow) (hselected : next.selectedSeats = g.selectedSeats) :
    hall.SeatsShown next := by
  refine ⟨?_, ?_, ?_, ?_⟩
  · rw [hrow]
    exact h.one_le_row
  · rw [hrow]
    exact h.row_le
  · rw [hpage]
    exact h.page
  · rw [hseats, hpage, hselected, hrow]
    exact h.seats

/-- An alert changes nothing else. -/
theorem ConcertHall.Shown.alert (h : hall.Shown g) (text : String) :
    hall.Shown { g with alerts := g.alerts ++ [text] } :=
  ⟨h.rows.keep rfl rfl rfl, h.seats.keep rfl rfl rfl rfl, h.selection, h.summary⟩

/-- A click that changes the selection in one seat, and marks the button of this seat. -/
theorem ConcertHall.Shown.select (h : hall.Shown g) {index : Nat} {col : Int}
    (hindex : (hall.seatPager.items g.activeColPage)[index]? = some col)
    (hselection : hall.Selection selectedSeats)
    (hothers : ∀ other, other ≠ createSeatKey g.activeRow col →
      (other ∈ selectedSeats ↔ other ∈ g.selectedSeats)) :
    hall.Shown (updateSummary hall
      (markSeat index (createSeatKey g.activeRow col ∈ selectedSeats)
        { g with selectedSeats := selectedSeats })) := by
  refine ⟨h.rows.keep rfl rfl rfl, ⟨h.seats.one_le_row, h.seats.row_le, h.seats.page, ?_⟩,
    hselection, rfl⟩
  change g.seats.modify index _ = _
  rw [h.seats.seats]
  exact modify_seatButton (nodup_countUp _ _) hindex hothers

theorem handleSeatClick_shown (h : hall.Shown g) {index : Nat} {button : SeatButton}
    (hbutton : g.seats[index]? = some button) :
    hall.Shown (handleSeatClick hall index button g) := by
  rw [h.seats.seats, List.getElem?_map] at hbutton
  obtain ⟨col, hindex, rfl⟩ := Option.map_eq_some_iff.mp hbutton
  unfold handleSeatClick
  split
  next => exact h
  next henabled =>
    split
    next hselected =>
      have hgone : createSeatKey g.activeRow col ∉
          g.selectedSeats.erase (createSeatKey g.activeRow col) :=
        h.selection.nodup.not_mem_erase
      have hshown := h.select hindex h.selection.erase fun other hne =>
        List.mem_erase_of_ne hne
      rwa [decide_eq_false hgone] at hshown
    next hnew =>
      split
      next => exact h.alert _
      next hroom =>
        have hcol := mem_countUp.mp (List.mem_of_getElem? hindex)
        have hinterval := h.seats.page.interval
        have hkey : hall.IsSeatKey (createSeatKey g.activeRow col) :=
          ⟨g.activeRow, col, h.seats.one_le_row, h.seats.row_le, hinterval.1.trans hcol.1,
            hcol.2.trans hinterval.2.2, rfl⟩
        have hfree : createSeatKey g.activeRow col ∉ hall.reservedSeats := by
          simpa [seatButton] using henabled
        have hshown := h.select hindex (h.selection.add hkey hfree hnew (not_le.mp hroom))
          fun other hne => by simp [hne]
        have hadded : createSeatKey g.activeRow col ∈
            g.selectedSeats ++ [createSeatKey g.activeRow col] :=
          List.mem_append_right _ List.mem_cons_self
        rwa [decide_eq_true hadded] at hshown

end Selecting

section Runs

variable {hall : ConcertHall} {g next : LargeGrid}

theorem openLargeGrid_shown : hall.Shown (openLargeGrid hall) := by
  have hrows : hall.RowsShown (renderRowButtons hall (emptyGrid hall)) :=
    renderRowButtons_rowsShown
  have hseats : hall.SeatsShown (renderLargeGrid hall) :=
    renderRowPage_seatsShown le_rfl hall.rows_pos
  exact ⟨hrows.keep rfl rfl rfl, hseats.keep rfl rfl rfl rfl, selection_nil, rfl⟩

/-- Moving the page of the row buttons. -/
theorem ConcertHall.Shown.renderRowButtons (h : hall.Shown g) (page : Int) :
    hall.Shown (renderRowButtons hall { g with activeRowPage := page }) :=
  ⟨renderRowButtons_rowsShown, h.seats.keep rfl rfl rfl rfl, h.selection, h.summary⟩

/-- Moving the page of the seats. -/
theorem ConcertHall.Shown.renderRowPage (h : hall.Shown g) (page : Int) :
    hall.Shown (renderRowPage hall { g with activeColPage := page }) :=
  ⟨h.rows.keep rfl rfl rfl, renderRowPage_seatsShown h.seats.one_le_row h.seats.row_le,
    h.selection, h.summary⟩

/-- The row of a button that is shown is a row of the hall. -/
theorem ConcertHall.RowsShown.mem (h : hall.RowsShown g) {button : RowButton}
    (hbutton : button ∈ g.rowButtons) : 1 ≤ button.row ∧ button.row ≤ hall.seatRows := by
  have hmem : button.row ∈ g.rowButtons.map RowButton.row := List.mem_map_of_mem hbutton
  rw [h.rows] at hmem
  obtain ⟨hfirst, hlast⟩ := mem_countUp.mp hmem
  exact ⟨h.page.interval.1.trans hfirst, hlast.trans h.page.interval.2.2⟩

theorem jumpTo_shown (h : hall.Shown g) (value : String) : hall.Shown (jumpTo hall value g) := by
  unfold jumpTo
  dsimp only
  split
  next => exact h.alert _
  next => exact h.renderRowPage _

/-- A jump that raises no alert shows the seat. -/
theorem jumpTo_col (h : hall.Shown g) {value : String}
    (haccepted : (jumpTo hall value g).alerts = g.alerts) :
    toInt (.string value) ∈ (jumpTo hall value g).seats.map SeatButton.col := by
  have hshown := jumpTo_shown h value
  rw [hshown.seats.map_col, Pager.mem_items_iff hshown.seats.page]
  unfold jumpTo at haccepted ⊢
  dsimp only at haccepted ⊢
  split at haccepted
  next => simp at haccepted
  next hrange =>
    rw [not_or, not_le, not_lt] at hrange
    rw [if_neg (by omega)]
    refine ⟨hrange.1, hrange.2, ?_⟩
    exact (Pager.IsPage.clamp_eq (Pager.isPage_ceilDiv hrange.1 hrange.2)).symm

theorem gridStep_shown (a : GridClick) (h : hall.Shown g) (hstep : gridStep hall g a = some next) :
    hall.Shown next := by
  cases a with
  | rowPrev =>
      obtain ⟨_, hnext⟩ := Option.ite_none_left_eq_some.mp hstep
      obtain rfl := Option.some.inj hnext
      exact h.renderRowButtons _
  | rowNext =>
      obtain ⟨_, hnext⟩ := Option.ite_none_left_eq_some.mp hstep
      obtain rfl := Option.some.inj hnext
      exact h.renderRowButtons _
  | row index =>
      obtain ⟨button, hbutton, rfl⟩ := Option.map_eq_some_iff.mp hstep
      obtain ⟨hone, hrow⟩ := h.rows.mem (List.mem_of_getElem? hbutton)
      have hrows : hall.RowsShown
          (renderRowButtons hall { g with activeRow := button.row, activeColPage := 1 }) :=
        renderRowButtons_rowsShown
      exact ⟨hrows.keep rfl rfl rfl, renderRowPage_seatsShown hone hrow, h.selection, h.summary⟩
  | prev =>
      obtain ⟨_, hnext⟩ := Option.ite_none_left_eq_some.mp hstep
      obtain rfl := Option.some.inj hnext
      exact h.renderRowPage _
  | next =>
      obtain ⟨_, hnext⟩ := Option.ite_none_left_eq_some.mp hstep
      obtain rfl := Option.some.inj hnext
      exact h.renderRowPage _
  | jump value =>
      obtain rfl := Option.some.inj hstep
      exact jumpTo_shown h value
  | seat index =>
      obtain ⟨button, hbutton, rfl⟩ := Option.map_eq_some_iff.mp hstep
      exact handleSeatClick_shown h hbutton

theorem gridMachine_shown {clicks : List GridClick}
    (hrun : (gridMachine hall).run (openLargeGrid hall) clicks = some g) : hall.Shown g := by
  have hstep : ∀ s a next, hall.Shown s → (gridMachine hall).step s a = some next →
      hall.Shown next := fun _ a _ h hstep => gridStep_shown a h hstep
  exact Machine.run_invariant hstep openLargeGrid_shown hrun

/-- After any clicks the active row and both pages are in range, the seats shown are an
interval of the row that is not empty, the pages of every row have each of its seats
once, a jump without an alert shows its seat, and the selection is one of seats that
may be selected. -/
theorem gridMachine_run {clicks : List GridClick}
    (hrun : (gridMachine hall).run (openLargeGrid hall) clicks = some g) :
    (1 ≤ g.activeRow ∧ g.activeRow ≤ hall.seatRows) ∧
      hall.rowPager.IsPage g.activeRowPage ∧
      hall.seatPager.IsPage g.activeColPage ∧
      (∃ first last, 1 ≤ first ∧ first ≤ last ∧ last ≤ hall.seatCols ∧
        g.seats.map SeatButton.col = countUp first last) ∧
      (∀ row, ((countUp 1 hall.seatPager.count).flatMap fun page =>
        (renderRowPage hall { g with activeRow := row, activeColPage := page }).seats.map
          SeatButton.col) = countUp 1 hall.seatCols) ∧
      (∀ value next, gridStep hall g (.jump value) = some next → next.alerts = g.alerts →
        toInt (.string value) ∈ next.seats.map SeatButton.col) ∧
      hall.Selection g.selectedSeats := by
  have hshown := gridMachine_shown hrun
  obtain ⟨hfirst, hbetween, hlast⟩ := hshown.seats.page.interval
  refine ⟨⟨hshown.seats.one_le_row, hshown.seats.row_le⟩, hshown.rows.page, hshown.seats.page,
    ⟨_, _, hfirst, hbetween, hlast, hshown.seats.map_col⟩, flatMap_renderRowPage,
    fun value next hnext haccepted => ?_, hshown.selection⟩
  obtain rfl := Option.some.inj hnext
  exact jumpTo_col hshown haccepted

/-- A hall with 45 rows of 100 seats, one of which is reserved. -/
def arena : ConcertHall :=
  .ofShow (.object [("seat_rows", .number 45), ("seat_cols", .number 100),
    ("remain_count", .number 4499), ("price", .number 99000)]) (.array [.string "21-82"])

/-- Row 21, its second page, a free seat and the reserved one, and the first page. -/
theorem gridMachine_run_arena :
    ∃ g, (gridMachine arena).run (openLargeGrid arena)
        [.rowNext, .row 0, .jump "81", .seat 0, .seat 1, .prev] = some g ∧
      (g.activeRow, g.activeRowPage, g.activeColPage, g.selectedSeats) = (21, 2, 1, ["21-81"]) ∧
      arena.Selection g.selectedSeats := by
  have hrun : ((gridMachine arena).run (openLargeGrid arena)
      [.rowNext, .row 0, .jump "81", .seat 0, .seat 1, .prev]).map
        (fun g => (g.activeRow, g.activeRowPage, g.activeColPage, g.selectedSeats)) =
      some (21, 2, 1, ["21-81"]) := by decide +kernel
  obtain ⟨g, hg, hshown⟩ := Option.map_eq_some_iff.mp hrun
  obtain ⟨_, _, _, _, _, _, hselection⟩ := gridMachine_run hg
  exact ⟨g, hg, hshown, hselection⟩

end Runs

end Ticketing
