import Ticketing.User.Refund

/-!
# Which seats are occupied, and by whom

A ledger changes in two ways: a committed handler adds a paid booking with its
seats, and a committed refund cancels one booking. Here is what either does to
the ACTIVE rows of a showing, and the one invariant that both keep for every
showing: the owner of an ACTIVE row is a paid booking.
-/

namespace Ticketing

open Foundation

variable {Cell : Type} {ledger next : Ledger Cell}

namespace Ledger

/-- The seat rows of a showing, whatever their status. -/
def seatCount (ledger : Ledger Cell) (showingId : Int) : Nat :=
  ledger.seats.rows.countP fun row => row.showingId = showingId

/-- Every ACTIVE row of the showing belongs to a booking of the same showing
with `book_status` PAID. -/
def Owned (ledger : Ledger Cell) (showingId : Int) : Prop :=
  ∀ row ∈ ledger.activeSeats showingId,
    ∃ booking, ledger.bookings.find row.bookingId = some booking ∧
      booking.bookStatus = .paid ∧ booking.showingId = showingId

theorem active_iff_mem [DecidableEq Cell] {showingId : Int} {cell : Cell} :
    ledger.Active showingId cell ↔ cell ∈ (ledger.activeSeats showingId).map BookingSeat.cell := by
  simp only [Active, List.mem_map, mem_activeSeats]
  constructor
  · rintro ⟨row, hrow, hshowing, hcell, hstatus⟩
    exact ⟨row, ⟨hrow, hshowing, hstatus⟩, hcell⟩
  · rintro ⟨row, ⟨hrow, hshowing, hstatus⟩, hcell⟩
    exact ⟨row, hrow, hshowing, hcell, hstatus⟩

theorem active_iff_key [DecidableEq Cell] {showingId : Int} {cell : Cell} :
    ledger.Active showingId cell ↔
      ∃ row ∈ ledger.seats.rows, row.activeKey = some (showingId, cell) := by
  simp only [Active, BookingSeat.activeKey, Option.ite_none_right_eq_some, Option.some.injEq,
    Prod.mk.injEq]
  constructor
  · rintro ⟨row, hrow, hshowing, hcell, hstatus⟩
    exact ⟨row, hrow, hstatus, hshowing, hcell⟩
  · rintro ⟨row, hrow, hstatus, hshowing, hcell⟩
    exact ⟨row, hrow, hshowing, hcell, hstatus⟩

/-- The unique index: a seat is covered by at most one ACTIVE row. -/
theorem eq_of_mem_activeSeats {showingId : Int} {left right : BookingSeat Cell}
    (hleft : left ∈ ledger.activeSeats showingId) (hright : right ∈ ledger.activeSeats showingId)
    (hcell : left.cell = right.cell) : left = right :=
  List.inj_on_of_nodup_map (ledger.activeSeats_nodup showingId) hleft hright hcell

theorem length_activeSeats_le (ledger : Ledger Cell) (showingId : Int) :
    (ledger.activeSeats showingId).length ≤ ledger.seatCount showingId := by
  rw [activeSeats, seatCount, List.countP_eq_length_filter]
  apply List.Sublist.length_le
  apply List.monotone_filter_right
  intro row hrow
  simp only [decide_eq_true_eq] at hrow ⊢
  exact hrow.1

theorem SeatRows.map_cell {bookingId showingId : Int} {cells : List Cell}
    {rows : List (BookingSeat Cell)} (h : SeatRows bookingId showingId cells rows) :
    rows.map BookingSeat.cell = cells := by
  induction h with
  | nil => rfl
  | cons hrow _ ih =>
      obtain ⟨id, rfl⟩ := hrow
      rw [List.map_cons, ih]
      rfl

theorem SeatRows.mem {bookingId showingId : Int} {cells : List Cell}
    {rows : List (BookingSeat Cell)} (h : SeatRows bookingId showingId cells rows)
    {row : BookingSeat Cell} (hrow : row ∈ rows) :
    row.bookingId = bookingId ∧ row.showingId = showingId ∧ row.status = .active := by
  obtain ⟨cell, _, id, rfl⟩ := exists_mem_of_forall₂ h hrow
  exact ⟨rfl, rfl, rfl⟩

/-! ## After a booking -/

namespace Booked

variable {userId showingId bookingId : Int} {cells : List Cell}

theorem activeSeats_same (h : ledger.Booked next userId showingId cells bookingId) :
    ∃ rows, next.activeSeats showingId = ledger.activeSeats showingId ++ rows ∧
      rows.map BookingSeat.cell = cells ∧ ∀ row ∈ rows, row.bookingId = bookingId := by
  obtain ⟨rows, hseats, hrows⟩ := h.seats
  refine ⟨rows, ?_, hrows.map_cell, fun row hrow => (hrows.mem hrow).1⟩
  have hall : rows.filter (fun row => row.showingId = showingId ∧ row.status = .active) = rows :=
    List.filter_eq_self.mpr fun row hrow => by simpa using (hrows.mem hrow).2
  rw [activeSeats, hseats, List.filter_append, hall]
  rfl

theorem activeSeats_other (h : ledger.Booked next userId showingId cells bookingId)
    {other : Int} (hother : other ≠ showingId) :
    next.activeSeats other = ledger.activeSeats other := by
  obtain ⟨rows, hseats, hrows⟩ := h.seats
  have hnone : rows.filter (fun row => row.showingId = other ∧ row.status = .active) = [] := by
    refine List.filter_eq_nil_iff.mpr fun row hrow => ?_
    rw [(hrows.mem hrow).2.1]
    simp [hother.symm]
  rw [activeSeats, hseats, List.filter_append, hnone, List.append_nil]
  rfl

/-- The ACTIVE seats afterwards are those from before and the booked ones. -/
theorem active_iff [DecidableEq Cell] (h : ledger.Booked next userId showingId cells bookingId)
    {other : Int} {cell : Cell} :
    next.Active other cell ↔
      ledger.Active other cell ∨ other = showingId ∧ cell ∈ cells := by
  rw [active_iff_mem, active_iff_mem]
  by_cases hother : other = showingId
  · subst hother
    obtain ⟨rows, hactive, hcells, _⟩ := h.activeSeats_same
    rw [hactive, List.map_append, List.mem_append, hcells]
    simp
  · rw [h.activeSeats_other hother]
    simp [hother]

theorem seatCount_same (h : ledger.Booked next userId showingId cells bookingId) :
    next.seatCount showingId = ledger.seatCount showingId + cells.length := by
  obtain ⟨rows, hseats, hrows⟩ := h.seats
  have hall : rows.countP (fun row => row.showingId = showingId) = rows.length :=
    List.countP_eq_length.mpr fun row hrow => by simpa using (hrows.mem hrow).2.1
  rw [seatCount, hseats, List.countP_append, hall, hrows.length_eq]
  rfl

theorem seatCount_other (h : ledger.Booked next userId showingId cells bookingId)
    {other : Int} (hother : other ≠ showingId) :
    next.seatCount other = ledger.seatCount other := by
  obtain ⟨rows, hseats, hrows⟩ := h.seats
  have hnone : rows.countP (fun row => row.showingId = other) = 0 := by
    refine List.countP_eq_zero.mpr fun row hrow => ?_
    rw [(hrows.mem hrow).2.1]
    simp [hother.symm]
  rw [seatCount, hseats, List.countP_append, hnone]
  rfl

theorem find_same (h : ledger.Booked next userId showingId cells bookingId) :
    ∃ booking, next.bookings.find bookingId = some booking ∧ booking.bookStatus = .paid ∧
      booking.userId = userId ∧ booking.showingId = showingId := by
  obtain ⟨code, hreg, hrows⟩ := h.bookings
  exact ⟨⟨bookingId, code, userId, showingId, cells.length, .paid, hreg⟩,
    Table.find_eq_some.mpr ⟨by simp [hrows], rfl⟩, rfl, rfl, rfl⟩

/-- The bookings that were there stay as they are. -/
theorem find_old (h : ledger.Booked next userId showingId cells bookingId)
    {other : Int} {booking : Booking} (hfind : ledger.bookings.find other = some booking) :
    next.bookings.find other = some booking := by
  obtain ⟨code, hreg, hrows⟩ := h.bookings
  obtain ⟨hmem, hid⟩ := Table.find_eq_some.mp hfind
  exact Table.find_eq_some.mpr ⟨by rw [hrows]; exact List.mem_append_left _ hmem, hid⟩

theorem owned (h : ledger.Booked next userId showingId cells bookingId) {other : Int}
    (howned : ledger.Owned other) : next.Owned other := by
  intro row hrow
  by_cases hother : other = showingId
  · subst hother
    obtain ⟨rows, hactive, _, hbooking⟩ := h.activeSeats_same
    rw [hactive] at hrow
    rcases List.mem_append.mp hrow with hold | hnew
    · obtain ⟨booking, hfind, hpaid⟩ := howned row hold
      exact ⟨booking, h.find_old hfind, hpaid⟩
    · obtain ⟨booking, hfind, hpaid, _, hshowing⟩ := h.find_same
      rw [hbooking row hnew]
      exact ⟨booking, hfind, hpaid, hshowing⟩
  · rw [h.activeSeats_other hother] at hrow
    obtain ⟨booking, hfind, hpaid⟩ := howned row hrow
    exact ⟨booking, h.find_old hfind, hpaid⟩

end Booked

/-! ## After a refund -/

namespace Refunded

variable [DecidableEq Cell] {bookingId : Int}

/-- Exactly the ACTIVE rows of the booking are no longer ACTIVE. -/
theorem activeSeats_eq (h : ledger.Refunded next bookingId) (showingId : Int) :
    next.activeSeats showingId =
      (ledger.activeSeats showingId).filter fun row => row.bookingId ≠ bookingId := by
  rw [activeSeats, h.seats, activeSeats]
  -- row by row: it is cancelled, it is ACTIVE for the showing, or it is neither
  induction ledger.seats.rows with
  | nil => rfl
  | cons row rest ih =>
      rw [List.map_cons]
      by_cases hcancel : row.bookingId = bookingId ∧ row.status = .active
      · rw [if_pos hcancel, List.filter_cons_of_neg (by simp [BookingSeat.cancelled]), ih]
        by_cases hrow : row.showingId = showingId
        · rw [List.filter_cons_of_pos (by simp [hrow, hcancel.2]),
            List.filter_cons_of_neg (by simp [hcancel.1])]
        · rw [List.filter_cons_of_neg (by simp [hrow])]
      · rw [if_neg hcancel]
        by_cases hrow : row.showingId = showingId ∧ row.status = .active
        · have hne : row.bookingId ≠ bookingId := fun heq => hcancel ⟨heq, hrow.2⟩
          rw [List.filter_cons_of_pos (by simpa using hrow),
            List.filter_cons_of_pos (by simpa using hrow),
            List.filter_cons_of_pos (by simpa using hne), ih]
        · rw [List.filter_cons_of_neg (by simpa using hrow),
            List.filter_cons_of_neg (by simpa using hrow), ih]

theorem active_iff (h : ledger.Refunded next bookingId) {showingId : Int} {cell : Cell} :
    next.Active showingId cell ↔
      ∃ row ∈ ledger.activeSeats showingId, row.cell = cell ∧ row.bookingId ≠ bookingId := by
  rw [active_iff_mem, h.activeSeats_eq]
  simp only [List.mem_map, List.mem_filter, decide_eq_true_eq]
  constructor
  · rintro ⟨row, ⟨hrow, hother⟩, hcell⟩
    exact ⟨row, hrow, hcell, hother⟩
  · rintro ⟨row, hrow, hcell, hother⟩
    exact ⟨row, ⟨hrow, hother⟩, hcell⟩

theorem active_of_active (h : ledger.Refunded next bookingId) {showingId : Int} {cell : Cell}
    (hactive : next.Active showingId cell) : ledger.Active showingId cell := by
  obtain ⟨row, hrow, hcell, _⟩ := h.active_iff.mp hactive
  exact active_iff_mem.mpr (List.mem_map.mpr ⟨row, hrow, hcell⟩)

theorem seatCount_eq (h : ledger.Refunded next bookingId) (showingId : Int) :
    next.seatCount showingId = ledger.seatCount showingId := by
  rw [seatCount, h.seats, List.countP_map, seatCount]
  refine List.countP_congr fun row _ => ?_
  by_cases hcancel : row.bookingId = bookingId ∧ row.status = .active
  · simp [hcancel, BookingSeat.cancelled]
  · simp [hcancel]

theorem find_other (h : ledger.Refunded next bookingId) {other : Int} (hother : other ≠ bookingId)
    {booking : Booking} (hfind : ledger.bookings.find other = some booking) :
    next.bookings.find other = some booking := by
  obtain ⟨hmem, hid⟩ := Table.find_eq_some.mp hfind
  refine Table.find_eq_some.mpr ⟨?_, hid⟩
  rw [h.bookings]
  refine List.mem_map.mpr ⟨booking, hmem, if_neg ?_⟩
  exact fun heq => hother (hid.symm.trans heq)

theorem owned (h : ledger.Refunded next bookingId) {showingId : Int}
    (howned : ledger.Owned showingId) : next.Owned showingId := by
  intro row hrow
  rw [h.activeSeats_eq, List.mem_filter] at hrow
  obtain ⟨booking, hfind, hpaid⟩ := howned row hrow.1
  exact ⟨booking, h.find_other (by simpa using hrow.2) hfind, hpaid⟩

end Refunded

end Ledger

end Ticketing
