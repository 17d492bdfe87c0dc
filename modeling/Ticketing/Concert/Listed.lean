import Ticketing.Concert.BatchFetch

/-!
# Which cells a snapshot counts

A snapshot subtracts the number of reserved keys from the capacity of its show.
That is a count of cells as long as every key names a cell of the grid. The
database sees to this for sold seats; nobody does for the reserved set, which a
commit fills with whatever positions its payload names.
-/

namespace Ticketing

open Foundation Python

/-- What a snapshot of the show is to say, however Redis answers: it lists
different cells of the grid, subtracts their number from the capacity, and
reports CLOSED only for a show that is not OPEN or has every cell held or sold. -/
structure CountsGrid (concertShow : ConcertShow) (s : HoldState) (fails : Int → Bool) : Prop where
  listed : ∃ cells : List Seat, cells.Nodup ∧ (∀ cell ∈ cells, concertShow.HasSeat cell) ∧
    (buildShowSnapshot s.store fails s.db concertShow [concertShow.showId]).reservedSeats =
      cells.map Seat.key ∧
    (buildShowSnapshot s.store fails s.db concertShow [concertShow.showId]).remainCount =
      concertShow.totalCount - cells.length
  closed : (buildShowSnapshot s.store fails s.db concertShow [concertShow.showId]).status =
    .closed → concertShow.status ≠ .opened ∨ ∀ seat, concertShow.HasSeat seat →
      seat ∈ s.store.reserved concertShow.showId ∨
        s.db.concerts.Active concertShow.showId seat

/-- As many different cells of the grid as the show has are all of them. -/
theorem ConcertShow.mem_of_length {concertShow : ConcertShow} {cells : List Seat}
    (hnodup : cells.Nodup) (hgrid : ∀ cell ∈ cells, concertShow.HasSeat cell)
    (hlength : concertShow.totalCount ≤ cells.length) {seat : Seat}
    (hseat : concertShow.HasSeat seat) : seat ∈ cells := by
  by_contra hnew
  have hle := concertShow.length_le_totalCount (List.nodup_cons.mpr ⟨hnew, hnodup⟩)
    (List.forall_mem_cons.mpr ⟨hseat, hgrid⟩)
  rw [List.length_cons] at hle
  omega

/-- The reserved set has only cells of the grid. -/
def ReservedInGrid (concertShow : ConcertShow) (s : HoldState) : Prop :=
  ∀ seat ∈ s.store.reserved concertShow.showId, concertShow.HasSeat seat

section Snapshot

variable {concertShow : ConcertShow} {s : HoldState} {fails : Int → Bool}

/-- The cells that a snapshot lists, in their order. -/
theorem snapshot_cells (hgrid : GridInv concertShow s.db) (hsets : s.store.Sets)
    (hreserved : ReservedInGrid concertShow s) :
    ∃ cells : List Seat, cells.Nodup ∧ (∀ cell ∈ cells, concertShow.HasSeat cell) ∧
      (buildShowSnapshot s.store fails s.db concertShow [concertShow.showId]).reservedSeats =
        cells.map Seat.key ∧
      ∀ cell ∈ cells, cell ∈ s.store.reserved concertShow.showId ∨
        s.db.concerts.Active concertShow.showId cell := by
  have hsorted : ∀ seats : List Seat, seats.Nodup →
      (∀ seat ∈ seats, concertShow.HasSeat seat) →
      (∀ seat ∈ seats, seat ∈ s.store.reserved concertShow.showId ∨
        s.db.concerts.Active concertShow.showId seat) →
      ∃ cells : List Seat, cells.Nodup ∧ (∀ cell ∈ cells, concertShow.HasSeat cell) ∧
        sortedKeys seats = cells.map Seat.key ∧
        ∀ cell ∈ cells, cell ∈ s.store.reserved concertShow.showId ∨
          s.db.concerts.Active concertShow.showId cell := by
    intro seats hnodup hin htaken
    refine ⟨seats.insertionSort Seat.Precedes,
      (List.perm_insertionSort _ seats).nodup_iff.mpr hnodup, ?_, rfl, ?_⟩
    · exact fun cell hcell => hin cell ((List.mem_insertionSort _).mp hcell)
    · exact fun cell hcell => htaken cell ((List.mem_insertionSort _).mp hcell)
  change ∃ cells : List Seat, _ ∧ _ ∧
    (fetchReservedSeatKeysByShow s.store fails s.db [concertShow.showId]).ofShow
      concertShow.showId = _ ∧ _
  rw [fetch_single_ofShow]
  split
  next hanswer =>
    -- a list that is not empty is the reserved set itself
    have hset : s.store.reservedSeatsSnapshot fails concertShow.showId =
        s.store.reserved concertShow.showId := by
      unfold HasReserved HoldStore.reservedSeatsSnapshot at hanswer
      unfold HoldStore.reservedSeatsSnapshot
      split at hanswer
      next => exact absurd rfl hanswer
      next hok => rw [if_neg hok]
    rw [hset]
    exact hsorted _ (hsets _) hreserved fun seat hseat => .inl hseat
  next =>
    apply hsorted _ (s.db.concerts.activeSeats_nodup _)
    · intro seat hseat
      obtain ⟨row, hrow, rfl⟩ := List.mem_map.mp hseat
      exact hgrid.inGrid row hrow
    · exact fun seat hseat => .inr (Ledger.active_iff_mem.mpr hseat)

/-- Snapshots count cells exactly if the reserved set has only cells of the
grid. -/
theorem countsGrid_iff (hgrid : GridInv concertShow s.db) (hsets : s.store.Sets) :
    (∀ fails, CountsGrid concertShow s fails) ↔ ReservedInGrid concertShow s := by
  constructor
  · intro hcounts seat hseat
    obtain ⟨cells, _, hin, hlisted, _⟩ := (hcounts fun _ => false).listed
    have hkey : seat.key ∈ (buildShowSnapshot s.store (fun _ => false) s.db concertShow
        [concertShow.showId]).reservedSeats :=
      snapshot_mem_fetch (List.mem_singleton_self _) hseat
    rw [hlisted] at hkey
    obtain ⟨cell, hcell, heq⟩ := List.mem_map.mp hkey
    exact Seat.key_injective heq ▸ hin cell hcell
  · intro hreserved fails
    obtain ⟨cells, hnodup, hin, hlisted, htaken⟩ :=
      @snapshot_cells _ _ fails hgrid hsets hreserved
    have hle := concertShow.length_le_totalCount hnodup hin
    have hremain :
        (buildShowSnapshot s.store fails s.db concertShow [concertShow.showId]).remainCount =
          concertShow.totalCount - cells.length := by
      change max 0 (concertShow.totalCount - ((buildShowSnapshot s.store fails s.db concertShow
        [concertShow.showId]).reservedSeats.length : Int)) = _
      rw [hlisted, List.length_map]
      omega
    refine ⟨⟨cells, hnodup, hin, hlisted, hremain⟩, fun hclosed => ?_⟩
    change (if (buildShowSnapshot s.store fails s.db concertShow
      [concertShow.showId]).remainCount ≤ 0 then SaleStatus.closed else concertShow.status) =
        .closed at hclosed
    split at hclosed
    next hnone =>
      refine .inr fun seat hseat => htaken seat ?_
      exact ConcertShow.mem_of_length hnodup hin (by omega) hseat
    next => exact .inl (by simp [hclosed])

end Snapshot

/-! ## Every run -/

/-- If the step adds the seats of an order for the show to the reserved set,
they are cells of its grid. -/
def ReservesInGrid (concertShow : ConcertShow) (s : HoldState) : HoldStep → Prop
  | .reserve bookingRef =>
      ∀ order ∈ (s.stage bookingRef).toReserve, order.showId = concertShow.showId →
        ∀ seat ∈ order.seats, concertShow.HasSeat seat
  | _ => True

instance (concertShow : ConcertShow) (s : HoldState) :
    ∀ a, Decidable (ReservesInGrid concertShow s a)
  | .reserve _ => inferInstanceAs (Decidable (∀ order ∈ _, _))
  | .commit _ _ | .send _ | .probe _ | .release _ | .raise _ | .handle _ _ _ | .direct _ _ _
  | .refund _ _ _ | .setSale _ _ | .expireHold _ _ | .expireReserved _ => isTrue trivial

section Steps

variable {concertShow : ConcertShow} {s next : HoldState} {a : HoldStep}

theorem sets_step (hsets : s.store.Sets) (h : holdStep s a = some next) : next.store.Sets := by
  intro showId
  rcases reserved_cases h with hsame | ⟨_, order, _, _, hstore⟩ | ⟨_, order, own, _, _, hstore⟩ |
    ⟨expired, _, hstore⟩
  · rw [hsame]
    exact hsets showId
  · rw [hstore]
    change (if showId = order.showId then order.seats ∪ s.store.reserved order.showId
      else s.store.reserved showId).Nodup
    split
    next => exact (hsets _).union _
    next => exact hsets showId
  · rw [hstore]
    change (if showId = order.showId then (s.store.reserved order.showId).filter (· ∉ own)
      else s.store.reserved showId).Nodup
    split
    next => exact (hsets _).filter _
    next => exact hsets showId
  · rw [hstore]
    change (if showId = expired then [] else s.store.reserved showId).Nodup
    split
    next => exact List.nodup_nil
    next => exact hsets showId

/-- Only the second pipeline of a hold adds to the reserved set. -/
theorem reserved_subset (h : holdStep s a = some next)
    (hother : ∀ bookingRef, a ≠ .reserve bookingRef) {showId : Int} {seat : Seat}
    (hseat : seat ∈ next.store.reserved showId) :
    seat ∈ s.store.reserved showId := by
  rcases reserved_cases h with hsame | ⟨bookingRef, _, ha, _⟩ | ⟨_, _, _, _, _, hstore⟩ |
    ⟨_, _, hstore⟩
  · rwa [hsame] at hseat
  · exact absurd ha (hother bookingRef)
  · rw [hstore] at hseat
    exact (HoldStore.mem_drop.mp hseat).1
  · rw [hstore] at hseat
    exact (HoldStore.mem_expireReserved.mp hseat).2

/-- The reserved set stays in the grid exactly if the step adds only cells of the
grid. -/
theorem ReservedInGrid.step_iff (hreserved : ReservedInGrid concertShow s)
    (h : holdStep s a = some next) :
    ReservedInGrid concertShow next ↔ ReservesInGrid concertShow s a := by
  cases a with
  | reserve bookingRef =>
      obtain ⟨order, hstage, rfl⟩ := reserve_cases h
      unfold ReservedInGrid ReservesInGrid
      simp only [HoldStore.mem_reserve, hstage, OrderStage.toReserve, Option.mem_def,
        Option.some.injEq, forall_eq']
      constructor
      · intro hall hshow seat hseat
        exact hall seat (.inl ⟨hshow.symm, hseat⟩)
      · rintro hadded seat (⟨hshow, hseat⟩ | hold)
        · exact hadded hshow.symm seat hseat
        · exact hreserved seat hold
  | commit _ _ | send _ | probe _ | release _ | raise _ | handle _ _ _ | direct _ _ _
  | refund _ _ _ | setSale _ _ | expireHold _ _ | expireReserved _ =>
      refine ⟨fun _ => trivial, fun _ seat hseat => hreserved seat ?_⟩
      exact reserved_subset h (fun _ => by simp) hseat

end Steps

/-- In a run of requests, messages, refunds and expiries that starts with nothing
sold and nothing held, the snapshots of the show count cells of its grid all the
way exactly if no order adds a position outside the grid to the reserved set. -/
theorem snapshots_count_grid_iff {db : Db} {concertShow : ConcertShow} {steps : List HoldStep}
    {final : HoldState} (hstart : Unsold db concertShow)
    (hrun : holdMachine.run (.initial db) steps = some final) :
    (∀ before after middle, steps = before ++ after →
        holdMachine.run (.initial db) before = some middle →
          ∀ fails, CountsGrid concertShow middle fails) ↔
      holdMachine.Along (ReservesInGrid concertShow) (.initial db) steps := by
  have hsound : ∀ s a next, (GridInv concertShow s.db ∧ s.store.Sets) →
      holdMachine.step s a = some next → GridInv concertShow next.db ∧ next.store.Sets :=
    fun _ _ _ hinv h => ⟨hinv.1.holdStep h, sets_step hinv.2 h⟩
  have hinit : GridInv concertShow (HoldState.initial db).db ∧
      (HoldState.initial db).store.Sets := ⟨hstart.gridInv, fun _ => List.nodup_nil⟩
  have hstep : ∀ s a next,
      ((GridInv concertShow s.db ∧ s.store.Sets) ∧ ReservedInGrid concertShow s) →
        holdMachine.step s a = some next →
          ((GridInv concertShow next.db ∧ next.store.Sets) ∧ ReservedInGrid concertShow next ↔
            ReservesInGrid concertShow s a) := by
    rintro s a next ⟨hinv, hreserved⟩ h
    rw [and_iff_right (hsound s a next hinv h)]
    exact hreserved.step_iff h
  have hempty : ReservedInGrid concertShow (HoldState.initial db) := by
    intro seat hseat
    cases hseat
  rw [Machine.along_iff_invariant hstep ⟨hinit, hempty⟩ hrun]
  refine forall_congr' fun before => forall_congr' fun after => forall_congr' fun middle =>
    forall_congr' fun _ => forall_congr' fun hbefore => ?_
  have hmiddle := Machine.run_invariant hsound hinit hbefore
  rw [countsGrid_iff hmiddle.1 hmiddle.2, and_iff_right hmiddle]

/-! ## Two positions that the show does not have -/

/-- One order of positions 5-5 and 6-6 for the show with the cells 1-1 and 1-2. -/
def offGridOrder : List HoldStep := orderSteps "first" 1 [.str "5-5", .str "6-6"]

/-- The show is reported CLOSED, while nothing of its grid is held or sold. -/
theorem off_grid_closes :
    Unsold twoSeatDb twoSeatShow ∧
      ∃ final, holdMachine.run (.initial twoSeatDb) offGridOrder = some final ∧
        ¬ CountsGrid twoSeatShow final fun _ => false := by
  have hfinal : (holdMachine.run (.initial twoSeatDb) offGridOrder).map (fun s =>
      (decide ((buildShowSnapshot s.store (fun _ => false) s.db twoSeatShow [1]).status = .closed),
        s.store.reserved 1, (s.db.concerts.activeSeats 1).map BookingSeat.cell)) =
      some (true, [⟨5, 5, by decide, by decide⟩, ⟨6, 6, by decide, by decide⟩], []) := by
    decide +kernel
  obtain ⟨final, hrun, hfinal⟩ := Option.map_eq_some_iff.mp hfinal
  obtain ⟨hclosed, hfinal⟩ := Prod.mk.inj hfinal
  obtain ⟨hreserved, hactive⟩ := Prod.mk.inj hfinal
  refine ⟨twoSeatDb_unsold, final, hrun, fun hcounts => ?_⟩
  rcases hcounts.closed (of_decide_eq_true hclosed) with hother | hall
  · exact hother rfl
  · have hcorner : twoSeatShow.HasSeat cornerSeat := by decide
    rcases hall cornerSeat hcorner with hheld | hsold
    · change cornerSeat ∈ final.store.reserved 1 at hheld
      rw [hreserved] at hheld
      exact absurd hheld (by decide)
    · rw [Ledger.active_iff_mem] at hsold
      change cornerSeat ∈ (final.db.concerts.activeSeats 1).map BookingSeat.cell at hsold
      rw [hactive] at hsold
      cases hsold

theorem snapshots_count_grid_iff_oneOrder :
    ∃ final, holdMachine.run (.initial twoSeatDb) (orderSteps "first" 1 [.str "1-1"]) =
        some final ∧ ∀ fails, CountsGrid twoSeatShow final fails := by
  obtain ⟨final, hrun⟩ := Option.isSome_iff_exists.mp
    (show (holdMachine.run (.initial twoSeatDb) (orderSteps "first" 1 [.str "1-1"])).isSome =
      true by decide +kernel)
  refine ⟨final, hrun, ?_⟩
  exact (snapshots_count_grid_iff twoSeatDb_unsold hrun).mpr (by decide +kernel) _ [] final
    (List.append_nil _).symm hrun

end Ticketing
