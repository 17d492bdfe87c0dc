import Ticketing.Concert.ReadCache

/-!
# What a fresh snapshot shows as taken

A snapshot prefers the reserved set to the database, but the set is filled by
holds alone and expires as a whole. It shows every sold seat exactly as long as
the set is empty or has all of them, and the steps that can end this are three:
a booking outside the set, a hold that starts a new set, and the release of a
sold seat.
-/

namespace Ticketing

open Foundation Python

/-- However Redis answers and whichever other shows are fetched along: every
sold seat of the show is listed, and `remain_count` does not exceed what is
left. -/
def SnapshotSound (concertShow : ConcertShow) (s : HoldState) : Prop :=
  ∀ fails showIds, concertShow.showId ∈ showIds →
    (∀ row ∈ s.db.concerts.activeSeats concertShow.showId, row.cell.key ∈
      (buildShowSnapshot s.store fails s.db concertShow showIds).reservedSeats) ∧
    (buildShowSnapshot s.store fails s.db concertShow showIds).remainCount ≤
      concertShow.totalCount - (s.db.concerts.activeSeats concertShow.showId).length

/-- The reserved set is empty or has every sold seat. -/
def Covered (showId : Int) (s : HoldState) : Prop :=
  s.store.reserved showId = [] ∨
    ∀ seat, s.db.concerts.Active showId seat → seat ∈ s.store.reserved showId

theorem Covered.keep {showId : Int} {s next : HoldState} (hcovered : Covered showId s)
    (hreserved : next.store.reserved showId = s.store.reserved showId)
    (hactive : ∀ seat, next.db.concerts.Active showId seat → s.db.concerts.Active showId seat) :
    Covered showId next := by
  rw [Covered, hreserved]
  exact hcovered.imp_right fun hall seat h => hall seat (hactive seat h)

theorem forall_active {db : Db} {showId : Int} {p : Seat → Prop} :
    (∀ row ∈ db.concerts.activeSeats showId, p row.cell) ↔
      ∀ seat, db.concerts.Active showId seat → p seat := by
  simp only [Ledger.active_iff_mem, List.mem_map]
  constructor
  · rintro hrows seat ⟨row, hrow, rfl⟩
    exact hrows row hrow
  · intro hseats row hrow
    exact hseats row.cell ⟨row, hrow, rfl⟩

/-- The number of listed keys is at least the number of sold seats. -/
theorem length_activeSeats_le_of_listed {db : Db} {showId : Int} {keys : List String}
    (h : ∀ row ∈ db.concerts.activeSeats showId, row.cell.key ∈ keys) :
    (db.concerts.activeSeats showId).length ≤ keys.length := by
  have hnodup := List.Nodup.map Seat.key_injective (db.concerts.activeSeats_nodup showId)
  rw [← List.length_map (f := BookingSeat.cell), ← List.length_map (f := Seat.key)]
  apply (List.Nodup.subperm hnodup _).length_le
  intro key hkey
  obtain ⟨cell, hcell, rfl⟩ := List.mem_map.mp hkey
  obtain ⟨row, hrow, rfl⟩ := List.mem_map.mp hcell
  exact h row hrow

/-- Snapshots are sound exactly when the reserved set covers the sold seats. -/
theorem snapshotSound_iff_covered {concertShow : ConcertShow} {s : HoldState}
    (hgrid : GridInv concertShow s.db) :
    SnapshotSound concertShow s ↔ Covered concertShow.showId s := by
  constructor
  · intro hsound
    by_cases hempty : s.store.reserved concertShow.showId = []
    · exact .inl hempty
    · refine .inr (forall_active.mp fun row hrow => ?_)
      -- fetched alone, with Redis answering, the show is described by the set only
      have hlisted := (hsound (fun _ => false) [concertShow.showId] (by simp)).1 row hrow
      change row.cell.key ∈ SeatKeys.ofShow _ _ at hlisted
      rw [fetch_single rfl hempty] at hlisted
      obtain ⟨seat, hseat, hkey⟩ := mem_sortedKeys.mp hlisted
      exact Seat.key_injective hkey ▸ hseat
  · intro hcovered fails showIds hid
    have hlisted : ∀ row ∈ s.db.concerts.activeSeats concertShow.showId, row.cell.key ∈
        (buildShowSnapshot s.store fails s.db concertShow showIds).reservedSeats := by
      intro row hrow
      by_cases hempty : s.store.reservedSeatsSnapshot fails concertShow.showId = []
      · exact active_mem_fetch hid hempty hrow
      · apply snapshot_mem_fetch hid
        unfold HoldStore.reservedSeatsSnapshot at hempty ⊢
        split at hempty
        next => exact absurd rfl hempty
        next hanswers =>
          rw [if_neg hanswers]
          exact forall_active.mpr (hcovered.resolve_left hempty) row hrow
    refine ⟨hlisted, ?_⟩
    -- no more seats are sold than the grid has, so the bound at zero does no harm
    have hlength := length_activeSeats_le_of_listed hlisted
    have htotal := hgrid.length_le_totalCount
    change max 0 (concertShow.totalCount -
      (buildShowSnapshot s.store fails s.db concertShow showIds).reservedSeats.length) ≤ _
    omega

/-! ## Which steps keep it -/

/-- If the handler commits a booking for the show, its seats are in the reserved
set or the set is empty. -/
def BooksInside (showId : Int) (s : HoldState) (env : Env) (codes : Nat → String) (body : Json) :
    Prop :=
  (processConcertBooking env codes body s.db).1.isCommitted = true →
    ∀ request ∈ decodeRequest "show_id" body, showId = request.showingId →
      s.store.reserved showId = [] ∨ ∀ seat ∈ request.seats, seat ∈ s.store.reserved showId

instance (showId : Int) (s : HoldState) (env : Env) (codes : Nat → String) (body : Json) :
    Decidable (BooksInside showId s env codes body) :=
  inferInstanceAs (Decidable (_ → _))

/-- The steps after which the reserved set still covers the sold seats: bookings
inside it, holds that start it with all sold seats, and releases that empty it
or spare the sold seats. -/
def KeepsCovered (showId : Int) (s : HoldState) : HoldStep → Prop
  | .reserve bookingRef =>
      ∀ order ∈ (s.stage bookingRef).toReserve, order.showId = showId →
        s.store.reserved showId = [] →
          ∀ row ∈ s.db.concerts.activeSeats showId, row.cell ∈ order.seats
  | .release bookingRef =>
      ∀ pair ∈ (s.stage bookingRef).toDrop, pair.1.showId = showId →
        (∀ seat ∈ s.store.reserved showId, seat ∈ pair.2) ∨
          ∀ row ∈ s.db.concerts.activeSeats showId, row.cell ∉ pair.2
  | .handle bookingRef env codes =>
      ∀ order ∈ (s.stage bookingRef).message,
        BooksInside showId s env codes (order.body bookingRef)
  | .direct env codes body => BooksInside showId s env codes body
  | _ => True

instance (showId : Int) (s : HoldState) : ∀ a, Decidable (KeepsCovered showId s a)
  | .reserve _ => inferInstanceAs (Decidable (∀ order ∈ _, _))
  | .release _ => inferInstanceAs (Decidable (∀ pair ∈ _, _))
  | .handle _ _ _ => inferInstanceAs (Decidable (∀ order ∈ _, _))
  | .direct env codes body => inferInstanceAs (Decidable (BooksInside showId s env codes body))
  | .commit _ _ | .send _ | .probe _ | .raise _ | .refund _ _ _ | .setSale _ _ | .expireHold _ _
  | .expireReserved _ => isTrue trivial

section Steps

variable {showId : Int} {s : HoldState}

theorem Covered.book_iff (hcovered : Covered showId s) {next : HoldState} {env : Env}
    {codes : Nat → String} {body : Json}
    (hdb : next.db = (processConcertBooking env codes body s.db).2)
    (hstore : next.store = s.store) :
    Covered showId next ↔ BooksInside showId s env codes body := by
  unfold Covered BooksInside
  rw [hdb, hstore]
  constructor
  · rintro (hempty | hall) hcommitted request hrequest hshow
    · exact .inl hempty
    · refine .inr fun seat hseat => hall seat ?_
      exact processConcertBooking_active.mpr
        (.inr ⟨hcommitted, request, hrequest, hshow, hseat⟩)
  · intro hinside
    rcases hcovered with hempty | hall
    · exact .inl hempty
    · by_cases hempty : s.store.reserved showId = []
      · exact .inl hempty
      · refine .inr fun seat hactive => ?_
        rcases processConcertBooking_active.mp hactive with hold | ⟨hcommitted, request, hrequest,
          hshow, hseat⟩
        · exact hall seat hold
        · exact (hinside hcommitted request hrequest hshow).resolve_left hempty seat hseat

theorem Covered.reserve_iff (hcovered : Covered showId s) {next : HoldState}
    {order : ConcertOrder} (hdb : next.db = s.db)
    (hstore : next.store = s.store.reserve order.showId order.seats) :
    Covered showId next ↔
      (order.showId = showId → s.store.reserved showId = [] →
        ∀ row ∈ s.db.concerts.activeSeats showId, row.cell ∈ order.seats) := by
  unfold Covered
  rw [hdb, hstore, forall_active]
  by_cases hshow : order.showId = showId
  · subst hshow
    obtain ⟨first, hfirst⟩ := List.exists_mem_of_ne_nil _ order.nonempty
    have hne : (s.store.reserve order.showId order.seats).reserved order.showId ≠ [] :=
      List.ne_nil_of_mem (HoldStore.mem_reserve.mpr (.inl ⟨rfl, hfirst⟩))
    simp only [hne, false_or, HoldStore.mem_reserve, true_and, forall_const]
    constructor
    · intro hall hempty seat hactive
      simpa [hempty] using hall seat hactive
    · intro hstart seat hactive
      rcases hcovered with hempty | hall
      · exact .inl (hstart hempty seat hactive)
      · exact .inr (hall seat hactive)
  · have hreserved : (s.store.reserve order.showId order.seats).reserved showId =
        s.store.reserved showId := by
      simp [HoldStore.reserve, Ne.symm hshow]
    rw [hreserved]
    exact ⟨fun _ hsame => absurd hsame hshow, fun _ => hcovered⟩

theorem Covered.release_iff (hcovered : Covered showId s) {next : HoldState}
    {order : ConcertOrder} {own : List Seat} (hdb : next.db = s.db)
    (hstore : next.store = s.store.drop order.showId own) :
    Covered showId next ↔
      (order.showId = showId →
        (∀ seat ∈ s.store.reserved showId, seat ∈ own) ∨
          ∀ row ∈ s.db.concerts.activeSeats showId, row.cell ∉ own) := by
  unfold Covered
  rw [hdb, hstore, forall_active (p := fun seat => seat ∉ own)]
  by_cases hshow : order.showId = showId
  · subst hshow
    have hempty : (s.store.drop order.showId own).reserved order.showId = [] ↔
        ∀ seat ∈ s.store.reserved order.showId, seat ∈ own := by
      simp [HoldStore.drop]
    simp only [hempty, HoldStore.mem_drop, true_and, forall_const]
    refine or_congr_right' fun hkept => ?_
    constructor
    · intro hall seat hactive
      exact (hall seat hactive).2
    · intro hspared seat hactive
      refine ⟨?_, hspared seat hactive⟩
      rcases hcovered with hnone | hall
      · exact absurd (by simp [hnone]) hkept
      · exact hall seat hactive
  · have hreserved : (s.store.drop order.showId own).reserved showId =
        s.store.reserved showId := by
      simp [HoldStore.drop, Ne.symm hshow]
    rw [hreserved]
    exact ⟨fun _ hsame => absurd hsame hshow, fun _ => hcovered⟩

/-- The reserved set covers the sold seats after a step exactly if the step is
one of those that keep it so. -/
theorem Covered.step_iff (hcovered : Covered showId s) {next : HoldState} {a : HoldStep}
    (h : holdStep s a = some next) : Covered showId next ↔ KeepsCovered showId s a := by
  have hkeep : Covered showId next → (Covered showId next ↔ True) := fun hnext =>
    ⟨fun _ => trivial, fun _ => hnext⟩
  cases a with
  | commit payload bookingRef =>
      rcases commit_cases h with ⟨_, rfl⟩ | ⟨order, held, complete, store, _, _, hhold, rfl⟩
      · exact hkeep hcovered
      · have hstore : (s.hold order bookingRef).2.reserved = s.store.reserved :=
          HoldStore.setHolds_reserved
        rw [hhold] at hstore
        exact hkeep (hcovered.keep (congrFun hstore showId) fun _ hactive => hactive)
  | reserve bookingRef =>
      obtain ⟨order, hstage, hnext⟩ := reserve_cases h
      have hdb : next.db = s.db := by rw [hnext]; rfl
      have hstore : next.store = s.store.reserve order.showId order.seats := by rw [hnext]
      rw [hcovered.reserve_iff hdb hstore, KeepsCovered, hstage]
      simp [OrderStage.toReserve]
  | send bookingRef =>
      obtain ⟨order, _, rfl⟩ := send_cases h
      exact hkeep hcovered
  | probe bookingRef =>
      obtain ⟨order, held, _, rfl⟩ := probe_cases h
      exact hkeep hcovered
  | release bookingRef =>
      obtain ⟨order, own, hstage, hnext⟩ := release_cases h
      have hdb : next.db = s.db := by rw [hnext]; rfl
      have hstore : next.store = s.store.drop order.showId own := by rw [hnext]
      rw [hcovered.release_iff hdb hstore, KeepsCovered, hstage]
      simp [OrderStage.toDrop]
  | raise bookingRef =>
      obtain ⟨stage, _, rfl⟩ := raise_cases h
      exact hkeep hcovered
  | handle bookingRef env codes =>
      obtain ⟨order, verdict, db, hmessage, hprocess, hnext⟩ := handle_cases h
      have hdb : next.db =
          (processConcertBooking env codes (order.body bookingRef) s.db).2 := by
        rw [hnext, hprocess]
      have hstore : next.store = s.store := by rw [hnext]; rfl
      rw [hcovered.book_iff hdb hstore, KeepsCovered, hmessage]
      simp
  | direct env codes body =>
      obtain rfl := Option.some.inj h
      exact hcovered.book_iff rfl rfl
  | refund env userId bookingId =>
      have hactive := fun seat => @active_of_holdStep s _ _ h showId seat
      obtain rfl := Option.some.inj h
      exact hkeep (hcovered.keep rfl fun seat h => (hactive seat h).resolve_right id)
  | setSale _ _ | expireHold _ _ =>
      obtain rfl := Option.some.inj h
      exact hkeep hcovered
  | expireReserved show' =>
      obtain rfl := Option.some.inj h
      apply hkeep
      by_cases hshow : showId = show'
      · exact .inl (by simp [HoldStore.expireReserved, hshow])
      · refine hcovered.keep ?_ fun _ hactive => hactive
        simp [HoldStore.expireReserved, hshow]

end Steps

/-- In a run that starts with nothing sold and nothing held, the snapshots of a
show are sound all the way exactly if every step keeps the sold seats
covered. -/
theorem snapshots_sound_iff {db : Db} {concertShow : ConcertShow} {steps : List HoldStep}
    {final : HoldState} (hstart : Unsold db concertShow)
    (hrun : holdMachine.run (.initial db) steps = some final) :
    (∀ before after middle, steps = before ++ after →
        holdMachine.run (.initial db) before = some middle → SnapshotSound concertShow middle) ↔
      holdMachine.Along (KeepsCovered concertShow.showId) (.initial db) steps := by
  have hstep : ∀ s a next, (GridInv concertShow s.db ∧ SnapshotSound concertShow s) →
      holdMachine.step s a = some next →
        ((GridInv concertShow next.db ∧ SnapshotSound concertShow next) ↔
          KeepsCovered concertShow.showId s a) := by
    rintro s a next ⟨hgrid, hsound⟩ h
    have hnext := hgrid.holdStep h
    rw [snapshotSound_iff_covered hnext, and_iff_right hnext]
    exact ((snapshotSound_iff_covered hgrid).mp hsound).step_iff h
  have hinit : GridInv concertShow (HoldState.initial db).db ∧
      SnapshotSound concertShow (.initial db) :=
    ⟨hstart.gridInv, (snapshotSound_iff_covered hstart.gridInv).mpr (.inl rfl)⟩
  rw [Machine.along_iff_invariant hstep hinit hrun]
  constructor
  · intro hall before after middle hsplit hbefore
    refine ⟨?_, hall before after middle hsplit hbefore⟩
    have hgrid : ∀ s a next, GridInv concertShow s.db → holdMachine.step s a = some next →
        GridInv concertShow next.db := fun _ _ _ hinv h => hinv.holdStep h
    exact Machine.run_invariant hgrid hstart.gridInv hbefore
  · intro hall before after middle hsplit hbefore
    exact (hall before after middle hsplit hbefore).2

/-! ## A hold after the expiry -/

/-- The first seat is sold, its hold and the reserved set expire, and the second
seat is held. -/
def soldThenExpired : List HoldStep :=
  orderSteps "first" 1 [.str "1-1"] ++
    [.handle "first" .quiet fun _ => "CAA000001", .expireHold 1 cornerSeat, .expireReserved 1] ++
      orderSteps "second" 2 [.str "1-2"]

/-- Now the snapshot lists the second seat only. -/
theorem sold_seat_offered :
    ∃ final, holdMachine.run (.initial twoSeatDb) soldThenExpired = some final ∧
      ¬ SnapshotSound twoSeatShow final := by
  have hfinal : (holdMachine.run (.initial twoSeatDb) soldThenExpired).map (fun s =>
      ((s.db.concerts.activeSeats 1).map BookingSeat.cell,
        (buildShowSnapshot s.store (fun _ => false) s.db twoSeatShow [1]).reservedSeats)) =
      some ([cornerSeat], ["1-2"]) := by
    decide +kernel
  obtain ⟨final, hrun, hfinal⟩ := Option.map_eq_some_iff.mp hfinal
  obtain ⟨hactive, hlisted⟩ := Prod.mk.inj hfinal
  refine ⟨final, hrun, fun hsound => ?_⟩
  obtain ⟨row, hrow, hcell⟩ := List.mem_map.mp
    (show cornerSeat ∈ (final.db.concerts.activeSeats 1).map BookingSeat.cell by simp [hactive])
  have hkey := (hsound (fun _ => false) [1] (by decide)).1 row hrow
  rw [hlisted, hcell] at hkey
  exact absurd hkey (by decide)

theorem snapshots_sound_iff_oneOrder :
    ∃ final, holdMachine.run (.initial twoSeatDb) (orderSteps "first" 1 [.str "1-1"] ++
        [.handle "first" .quiet fun _ => "CAA000001"]) = some final ∧
      SnapshotSound twoSeatShow final := by
  obtain ⟨final, hrun⟩ := Option.isSome_iff_exists.mp
    (show (holdMachine.run (.initial twoSeatDb) (orderSteps "first" 1 [.str "1-1"] ++
      [.handle "first" .quiet fun _ => "CAA000001"])).isSome = true by decide +kernel)
  refine ⟨final, hrun, ?_⟩
  exact (snapshots_sound_iff twoSeatDb_unsold hrun).mpr (by decide +kernel) _ [] final
    (List.append_nil _).symm hrun

end Ticketing
