import Ticketing.Concert.HoldRace

/-!
# One hold at a time

`try_hold_seats` and `release_seats` as whole calls, which are runs of the racing
requests without a rival. A refused call gives back the seats that its loop has
seen, and the loop ends at the first refusal, whereas the pipeline has set every
free key.
-/

namespace Ticketing

open Foundation

/-- The codes of `try_hold_seats`. -/
inductive HoldCode where
  | noSeats
  | duplicateSeat
  | held
deriving DecidableEq, Repr

namespace HoldStore

/-- `release_seats`. -/
def releaseSeats (store : HoldStore) (showId : Int) (seats : List Seat) (bookingRef : String) :
    HoldStore :=
  if seats = [] then store else store.drop showId (store.ownHolds showId seats bookingRef)

/-- `try_hold_seats`. -/
def tryHoldSeats (store : HoldStore) (showId : Int) (seats : List Seat) (bookingRef : String) :
    HoldCode × HoldStore :=
  if seats = [] then (.noSeats, store)
  else
    let ((held, complete), store) := store.setHolds showId seats bookingRef
    if complete then (.held, store.reserve showId held)
    else (.duplicateSeat, store.releaseSeats showId held bookingRef)

/-- The seats have come to the reference and into the reserved set, and nothing
else has changed. -/
structure Gained (before : HoldStore) (showId : Int) (seats : List Seat) (bookingRef : String)
    (after : HoldStore) : Prop where
  holder : ∀ other seat, after.holder other seat =
    if other = showId ∧ seat ∈ seats then some bookingRef else before.holder other seat
  reserved : ∀ other seat, seat ∈ after.reserved other ↔
    (other = showId ∧ seat ∈ seats) ∨ seat ∈ before.reserved other

/-- All of the seats, or the store as it was. -/
def AllOrNothing (before : HoldStore) (showId : Int) (seats : List Seat) (bookingRef : String)
    (outcome : HoldCode × HoldStore) : Prop :=
  match outcome.1 with
  | .held => before.Gained showId seats bookingRef outcome.2
  | .duplicateSeat | .noSeats => outcome.2 = before

/-- No seat behind the first taken one is free, and none of the seats in front of
it is in the reserved set. -/
def UndoesAll (store : HoldStore) (showId : Int) (seats : List Seat) : Prop :=
  (∀ seat ∈ seats.dropWhile (store.free showId), store.free showId seat = false) ∧
    ∀ seat ∈ seats.takeWhile (store.free showId), seat ∉ store.reserved showId

/-- Every seat is free. -/
def AllFree (store : HoldStore) (showId : Int) (seats : List Seat) : Prop :=
  ∀ seat ∈ seats, store.free showId seat = true

instance (store : HoldStore) (showId : Int) (seats : List Seat) :
    Decidable (store.AllFree showId seats) :=
  inferInstanceAs (Decidable (∀ seat ∈ seats, store.free showId seat = true))

instance (store : HoldStore) (showId : Int) (seats : List Seat) :
    Decidable (store.UndoesAll showId seats) :=
  inferInstanceAs (Decidable (_ ∧ _))

variable {store : HoldStore} {showId : Int} {seats : List Seat} {bookingRef : String}

@[ext] theorem ext {left right : HoldStore} (hholds : left.holds = right.holds)
    (hreserved : ∀ showId, left.reserved showId = right.reserved showId) : left = right := by
  cases left
  cases right
  obtain rfl := hholds
  obtain rfl := funext hreserved
  rfl

theorem drop_nil : store.drop showId [] = store := by
  ext other : 1
  · rfl
  · by_cases hsame : other = showId
    · simp [drop, hsame]
    · simp [drop, hsame]

theorem releaseSeats_eq :
    store.releaseSeats showId seats bookingRef =
      store.drop showId (store.ownHolds showId seats bookingRef) := by
  unfold releaseSeats
  split
  next hempty =>
    subst hempty
    exact drop_nil.symm
  next => rfl

/-! ## What a call does -/

theorem allFree_iff : store.AllFree showId seats ↔ seats.all (store.free showId) = true := by
  rw [List.all_eq_true]
  rfl

/-- With every seat free, the call holds and reserves all of them. -/
theorem tryHoldSeats_of_allFree (hnodup : seats.Nodup) (hseats : seats ≠ [])
    (hfree : store.AllFree showId seats) :
    ∃ after, store.tryHoldSeats showId seats bookingRef = (.held, after) ∧
      store.Gained showId seats bookingRef after := by
  have hacquired := @setHolds_acquired store showId seats bookingRef hnodup
  rw [allFree_iff.mp hfree, List.takeWhile_eq_self_iff.mpr hfree] at hacquired
  refine ⟨(store.setHolds showId seats bookingRef).2.reserve showId seats, ?_, ?_, ?_⟩
  · rw [tryHoldSeats, if_neg hseats]
    simp only [hacquired, if_true]
  · intro other seat
    change (store.setHolds showId seats bookingRef).2.holder other seat = _
    rw [setHolds_holder]
    congr 1
    rw [eq_iff_iff, and_iff_left_iff_imp]
    rintro ⟨rfl, hseat⟩
    exact hfree seat hseat
  · intro other seat
    rw [mem_reserve, setHolds_reserved]

/-- The seats that are released are the ones that the loop has seen. -/
theorem ownHolds_setHolds :
    (store.setHolds showId seats bookingRef).2.ownHolds showId
        (seats.takeWhile (store.free showId)) bookingRef =
      seats.takeWhile (store.free showId) := by
  apply List.filter_eq_self.mpr
  intro seat hseat
  rw [decide_eq_true_eq, setHolds_holder, if_pos]
  exact ⟨⟨rfl, (List.takeWhile_sublist _).subset hseat⟩, List.mem_takeWhile_imp hseat⟩

/-- With a seat taken, the call gives back the seats in front of the first taken
one. -/
theorem tryHoldSeats_of_taken (hnodup : seats.Nodup) (hseats : seats ≠ [])
    (htaken : ¬ store.AllFree showId seats) :
    store.tryHoldSeats showId seats bookingRef =
      (.duplicateSeat, (store.setHolds showId seats bookingRef).2.drop showId
        (seats.takeWhile (store.free showId))) := by
  have hacquired := @setHolds_acquired store showId seats bookingRef hnodup
  rw [Bool.eq_false_iff.mpr fun hall => htaken (allFree_iff.mpr hall)] at hacquired
  rw [tryHoldSeats, if_neg hseats]
  simp only [hacquired, Bool.false_eq_true, if_false, releaseSeats_eq, ownHolds_setHolds]

theorem seatKeys_takeWhile :
    seatKeys showId (seats.takeWhile (store.free showId)) =
      (seatKeys showId seats).takeWhile store.holds.free := by
  rw [seatKeys, seatKeys, List.takeWhile_map]
  rfl

/-- Giving back the seats in front of the first taken one restores the store
exactly if the loop has seen all that was to be undone. -/
theorem drop_setHolds_eq_iff (hnodup : seats.Nodup) :
    (store.setHolds showId seats bookingRef).2.drop showId
        (seats.takeWhile (store.free showId)) = store ↔ store.UndoesAll showId seats := by
  have hholds : ((store.setHolds showId seats bookingRef).2.drop showId
      (seats.takeWhile (store.free showId))).holds = store.holds ↔
      ∀ seat ∈ seats.dropWhile (store.free showId), store.free showId seat = false := by
    change (Leases.setNxAll bookingRef (seatKeys showId seats) store.holds).2.del _ = _ ↔ _
    rw [seatKeys_takeWhile, Leases.del_acquired_eq_iff (nodup_seatKeys hnodup), seatKeys,
      List.dropWhile_map, List.forall_mem_map]
    rfl
  have hreserved : (∀ other, ((store.setHolds showId seats bookingRef).2.drop showId
      (seats.takeWhile (store.free showId))).reserved other = store.reserved other) ↔
      ∀ seat ∈ seats.takeWhile (store.free showId), seat ∉ store.reserved showId := by
    constructor
    · intro hsame seat hseat hmem
      rw [← hsame showId, mem_drop] at hmem
      exact hmem.2 ⟨rfl, hseat⟩
    · intro hnone other
      simp only [drop, setHolds_reserved]
      split
      next hsame =>
        subst hsame
        apply List.filter_eq_self.mpr
        intro seat hmem
        rw [decide_eq_true_eq]
        exact fun hseat => hnone seat hseat hmem
      next => rfl
  unfold UndoesAll
  rw [← hholds, ← hreserved]
  constructor
  · intro hsame
    rw [hsame]
    exact ⟨rfl, fun _ => rfl⟩
  · rintro ⟨hsame, hsets⟩
    exact ext hsame hsets

end HoldStore

/-- The phase in which a call of `try_hold_seats` ends. -/
def HoldCode.phase (request : HoldRequest) : HoldCode → HoldPhase
  | noSeats => .noSeats
  | duplicateSeat => .rejected request
  | held => .held request

section Alone

variable {s : HoldRace} {request : HoldRequest} {bookingRef : String}

theorem acquire_of_idle (hidle : s.phase bookingRef = .idle) (hseats : request.seats ≠ []) :
    holdRaceStep s (.acquire bookingRef request) =
      some (s.setPhase bookingRef
        (.afterPipeline request (request.seats.takeWhile (s.store.free request.showId))
          (request.seats.all (s.store.free request.showId)))
        (s.store.setHolds request.showId request.seats bookingRef).2) := by
  have hacquired := @HoldStore.setHolds_acquired s.store request.showId request.seats bookingRef
    request.nodup
  unfold holdRaceStep
  simp only [hidle, if_neg hseats, hacquired]

theorem reserve_of_acquired (hphase : s.phase bookingRef = .acquired request) :
    holdRaceStep s (.reserve bookingRef) = some (s.setPhase bookingRef (.held request)
      (s.store.reserve request.showId request.seats)) := by
  unfold holdRaceStep
  simp only [hphase]

theorem probe_of_refused {held : List Seat} (hphase : s.phase bookingRef = .refused request held) :
    holdRaceStep s (.probe bookingRef) = some (s.setPhase bookingRef
      (.releasing request (s.store.ownHolds request.showId held bookingRef)) s.store) := by
  unfold holdRaceStep
  simp only [hphase]

theorem release_of_releasing {own : List Seat}
    (hphase : s.phase bookingRef = .releasing request own) :
    holdRaceStep s (.release bookingRef) = some (s.setPhase bookingRef (.rejected request)
      (s.store.drop request.showId own)) := by
  unfold holdRaceStep
  simp only [hphase]

/-- The state is one in which the call of the request has returned. -/
def HoldRace.Ends (s : HoldRace) (request : HoldRequest) (bookingRef : String) (final : HoldRace) :
    Prop :=
  let (code, store) := s.store.tryHoldSeats request.showId request.seats bookingRef
  final.store = store ∧ final.phase bookingRef = code.phase request

theorem ends_of_noSeats (hidle : s.phase bookingRef = .idle) (hempty : request.seats = []) :
    ∃ final, holdRaceMachine.run s [.acquire bookingRef request] = some final ∧
      s.Ends request bookingRef final := by
  refine ⟨s.setPhase bookingRef .noSeats s.store, ?_, ?_⟩
  · simp [Machine.run, holdRaceMachine, holdRaceStep, hidle, hempty]
  · simp only [HoldRace.Ends, HoldStore.tryHoldSeats, if_pos hempty]
    exact ⟨rfl, HoldRace.setPhase_same _ _⟩

theorem ends_of_allFree (hidle : s.phase bookingRef = .idle) (hseats : request.seats ≠ [])
    (hfree : s.store.AllFree request.showId request.seats) :
    ∃ final, holdRaceMachine.run s [.acquire bookingRef request, .reserve bookingRef] =
      some final ∧ s.Ends request bookingRef final := by
  have hfirst := acquire_of_idle hidle hseats
  have hacquired := @HoldStore.setHolds_acquired s.store request.showId request.seats bookingRef
    request.nodup
  rw [HoldStore.allFree_iff.mp hfree, List.takeWhile_eq_self_iff.mpr hfree] at hfirst hacquired
  have hsecond := reserve_of_acquired (@HoldRace.setPhase_same s bookingRef (.acquired request)
    (s.store.setHolds request.showId request.seats bookingRef).2)
  refine ⟨_, holdRaceMachine.run_cons_eq_some.mpr ⟨_, hfirst,
    holdRaceMachine.run_cons_eq_some.mpr ⟨_, hsecond, holdRaceMachine.run_nil _⟩⟩, ?_⟩
  simp only [HoldRace.Ends, HoldStore.tryHoldSeats, if_neg hseats, hacquired, if_true]
  exact ⟨rfl, HoldRace.setPhase_same _ _⟩

/-- A refused call without a seat to give back stops after its first pipeline. -/
theorem ends_of_taken (hidle : s.phase bookingRef = .idle) (hseats : request.seats ≠ [])
    (htaken : ¬ s.store.AllFree request.showId request.seats) :
    ∃ rest final, holdRaceMachine.run s (.acquire bookingRef request :: rest) = some final ∧
      (∀ a ∈ rest, a.mover = bookingRef) ∧ s.Ends request bookingRef final := by
  have hfirst := acquire_of_idle hidle hseats
  rw [Bool.eq_false_iff.mpr fun hall => htaken (HoldStore.allFree_iff.mpr hall)] at hfirst
  have hcall := @HoldStore.tryHoldSeats_of_taken s.store request.showId request.seats bookingRef
    request.nodup hseats htaken
  have hown := @HoldStore.ownHolds_setHolds s.store request.showId request.seats bookingRef
  simp only [HoldRace.Ends, hcall]
  generalize request.seats.takeWhile (s.store.free request.showId) = held at hfirst hown
  by_cases hheld : held = []
  · subst hheld
    refine ⟨[], _, holdRaceMachine.run_cons_eq_some.mpr ⟨_, hfirst, holdRaceMachine.run_nil _⟩,
      by simp, HoldStore.drop_nil.symm, HoldRace.setPhase_same _ _⟩
  · have hphase : HoldPhase.afterPipeline request held false = .refused request held := by
      simp [HoldPhase.afterPipeline, hheld]
    rw [hphase] at hfirst
    have hprobe := probe_of_refused (@HoldRace.setPhase_same s bookingRef (.refused request held)
      (s.store.setHolds request.showId request.seats bookingRef).2)
    refine ⟨[.probe bookingRef, .release bookingRef], _,
      holdRaceMachine.run_cons_eq_some.mpr ⟨_, hfirst, holdRaceMachine.run_cons_eq_some.mpr
        ⟨_, hprobe, holdRaceMachine.run_cons_eq_some.mpr
          ⟨_, release_of_releasing (HoldRace.setPhase_same _ _), holdRaceMachine.run_nil _⟩⟩⟩,
      by simp [HoldRaceStep.mover], ?_, HoldRace.setPhase_same _ _⟩
    change (s.store.setHolds request.showId request.seats bookingRef).2.drop request.showId _ = _
    exact congrArg _ hown

/-- A call is a run of the racing requests in which only one of them moves. -/
theorem tryHoldSeats_run (hidle : s.phase bookingRef = .idle) :
    ∃ steps final, holdRaceMachine.run s steps = some final ∧
      (∀ a ∈ steps, a.mover = bookingRef) ∧ s.Ends request bookingRef final := by
  by_cases hempty : request.seats = []
  · obtain ⟨final, hrun, hends⟩ := ends_of_noSeats hidle hempty
    exact ⟨_, final, hrun, by simp [HoldRaceStep.mover], hends⟩
  by_cases hfree : s.store.AllFree request.showId request.seats
  · obtain ⟨final, hrun, hends⟩ := ends_of_allFree hidle hempty hfree
    exact ⟨_, final, hrun, by simp [HoldRaceStep.mover], hends⟩
  · obtain ⟨rest, final, hrun, hrest, hends⟩ := ends_of_taken hidle hempty hfree
    exact ⟨_, final, hrun, List.forall_mem_cons.mpr ⟨rfl, hrest⟩, hends⟩

end Alone

namespace HoldStore

variable {store : HoldStore} {showId : Int} {seats : List Seat} {bookingRef : String}

/-- A call is all or nothing exactly if all its seats are free, or the free ones
are in front of the first taken one and none of them is in the reserved set. -/
theorem tryHoldSeats_allOrNothing_iff (hnodup : seats.Nodup) (hseats : seats ≠ []) :
    store.AllOrNothing showId seats bookingRef (store.tryHoldSeats showId seats bookingRef) ↔
      store.AllFree showId seats ∨ store.UndoesAll showId seats := by
  by_cases hfree : store.AllFree showId seats
  · obtain ⟨after, hcall, hgained⟩ :=
      @tryHoldSeats_of_allFree store showId seats bookingRef hnodup hseats hfree
    rw [hcall]
    exact iff_of_true hgained (.inl hfree)
  · rw [tryHoldSeats_of_taken hnodup hseats hfree, or_iff_right hfree]
    exact drop_setHolds_eq_iff hnodup

end HoldStore

/-! ## A taken seat at either end of the list -/

/-- Seat 1-1 of show 1 is held by the first request. -/
def cornerHeld : HoldStore := (HoldStore.empty.tryHoldSeats 1 cornerRequest.seats "first").2

/-- Seats 1-1 and 1-2, in this order. -/
def rowRequest : HoldRequest where
  showId := 1
  seats := [⟨1, 1, Nat.one_pos, Nat.one_pos⟩, ⟨1, 2, Nat.one_pos, Nat.two_pos⟩]
  nodup := by decide

/-- With the free seat in front, the refused call leaves nothing behind. -/
theorem tryHoldSeats_allOrNothing_pair :
    cornerHeld.AllOrNothing 1 pairRequest.seats "second"
      (cornerHeld.tryHoldSeats 1 pairRequest.seats "second") :=
  (HoldStore.tryHoldSeats_allOrNothing_iff pairRequest.nodup (List.cons_ne_nil _ _)).mpr
    (.inr (by decide))

/-- With the taken seat in front, the refused call keeps a hold on the other one:
nobody has used its reference before, and it is not all or nothing. -/
theorem tryHoldSeats_keeps_hold :
    (∀ showId seat, cornerHeld.holder showId seat ≠ some "second") ∧
      rowRequest.seats.Nodup ∧ rowRequest.seats ≠ [] ∧
      (cornerHeld.tryHoldSeats 1 rowRequest.seats "second").1 = .duplicateSeat ∧
      cornerHeld.holder 1 ⟨1, 2, Nat.one_pos, Nat.two_pos⟩ = none ∧
      (cornerHeld.tryHoldSeats 1 rowRequest.seats "second").2.holder 1
        ⟨1, 2, Nat.one_pos, Nat.two_pos⟩ = some "second" ∧
      ¬ cornerHeld.AllOrNothing 1 rowRequest.seats "second"
        (cornerHeld.tryHoldSeats 1 rowRequest.seats "second") := by
  have hcode : (cornerHeld.tryHoldSeats 1 rowRequest.seats "second").1 = .duplicateSeat := by
    decide
  have hkept : (cornerHeld.tryHoldSeats 1 rowRequest.seats "second").2.holder 1
      ⟨1, 2, Nat.one_pos, Nat.two_pos⟩ = some "second" := by decide
  refine ⟨?_, rowRequest.nodup, List.cons_ne_nil _ _, hcode, rfl, hkept, ?_⟩
  · intro showId seat hheld
    change (HoldStore.empty.setHolds 1 cornerRequest.seats "first").2.holder showId seat =
      some "second" at hheld
    rw [HoldStore.setHolds_holder] at hheld
    split at hheld
    next => exact absurd hheld (by decide)
    next => cases hheld
  · intro hall
    simp only [HoldStore.AllOrNothing, hcode] at hall
    rw [hall] at hkept
    cases hkept

end Ticketing
