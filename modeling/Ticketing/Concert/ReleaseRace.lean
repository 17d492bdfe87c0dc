import Ticketing.Concert.HoldRace

/-!
# Releases while keys expire

`release_seats` racing with `try_hold_seats` and with the expiry of keys. The call
reads in one pipeline which holds are its own and deletes them in another one. A
key that expires in between can be set by another request, and is deleted all the
same.
-/

namespace Ticketing

open Foundation

/-- A call of `release_seats` between its pipelines, with the seats it will
delete. -/
structure ReleaseCall where
  bookingRef : String
  showId : Int
  own : List Seat

/-- The requests, and the calls of `release_seats` beside theirs. -/
structure ReleaseRace where
  race : HoldRace
  calls : Nat → Option ReleaseCall

inductive ReleaseStep where
  | request (step : HoldRaceStep)
  /-- the first pipeline of a call of `release_seats` -/
  | probe (id : Nat) (showId : Int) (seats : List Seat) (bookingRef : String)
  /-- its second pipeline -/
  | finish (id : Nat)
  | expireHold (showId : Int) (seat : Seat)
  | expireReserved (showId : Int)

namespace ReleaseRace

/-- No request and no call is under way; the keys may be in any state. -/
def start (store : HoldStore) : ReleaseRace := ⟨⟨store, fun _ => .idle⟩, fun _ => none⟩

def store (s : ReleaseRace) : HoldStore := s.race.store

def setStore (s : ReleaseRace) (store : HoldStore) : ReleaseRace :=
  { s with race := { s.race with store := store } }

def setCall (s : ReleaseRace) (id : Nat) (call : Option ReleaseCall) : ReleaseRace :=
  { s with calls := fun other => if other = id then call else s.calls other }

/-- The call of `release_seats` that ends with the step. -/
def released (s : ReleaseRace) : ReleaseStep → Option ReleaseCall
  | .request (.release bookingRef) =>
      match s.race.phase bookingRef with
      | .releasing request own => some ⟨bookingRef, request.showId, own⟩
      | _ => none
  | .finish id => s.calls id
  | _ => none

end ReleaseRace

def releaseStep (s : ReleaseRace) : ReleaseStep → Option ReleaseRace
  | .request step => (holdRaceStep s.race step).map fun race => { s with race := race }
  | .probe id showId seats bookingRef =>
      match s.calls id with
      | none => some (s.setCall id
          (some ⟨bookingRef, showId, s.store.ownHolds showId seats bookingRef⟩))
      | some _ => none
  | .finish id =>
      match s.calls id with
      | some call => some ((s.setCall id none).setStore (s.store.drop call.showId call.own))
      | none => none
  | .expireHold showId seat => some (s.setStore (s.store.expireHold showId seat))
  | .expireReserved showId => some (s.setStore (s.store.expireReserved showId))

def releaseMachine : Machine ReleaseRace ReleaseStep := ⟨releaseStep⟩

/-- Whichever release goes on now, the others keep their keys and their seats in
the reserved set. -/
def ReleaseRace.SparesOthers (s : ReleaseRace) : Prop :=
  ∀ a call next, s.released a = some call → releaseStep s a = some next →
    ∀ showId seat holder, holder ≠ call.bookingRef → s.store.holder showId seat = some holder →
      next.store.holder showId seat = some holder ∧
        (seat ∈ s.store.reserved showId → seat ∈ next.store.reserved showId)

/-- The step sets no key that a release of another reference has on its list. -/
def SetsNoListed (s : ReleaseRace) : ReleaseStep → Prop
  | .request (.acquire bookingRef request) =>
      ∀ a call, s.released a = some call → call.bookingRef ≠ bookingRef →
        call.showId = request.showId → ∀ seat ∈ call.own, seat ∈ request.seats →
          s.store.free request.showId seat = false
  | _ => True

/-! ## What the steps do -/

section Inversion

variable {s next : ReleaseRace} {a : ReleaseStep} {call : ReleaseCall}

theorem request_step_cases {step : HoldRaceStep} (h : releaseStep s (.request step) = some next) :
    ∃ race, holdRaceStep s.race step = some race ∧ next = { s with race := race } := by
  obtain ⟨race, hrace, hnext⟩ := Option.map_eq_some_iff.mp h
  exact ⟨race, hrace, hnext.symm⟩

theorem probe_call_cases {id : Nat} {showId : Int} {seats : List Seat} {bookingRef : String}
    (h : releaseStep s (.probe id showId seats bookingRef) = some next) :
    next = s.setCall id (some ⟨bookingRef, showId, s.store.ownHolds showId seats bookingRef⟩) := by
  unfold releaseStep at h
  dsimp only at h
  split at h
  next => exact (Option.some.inj h).symm
  next => cases h

theorem finish_call_cases {id : Nat} (h : releaseStep s (.finish id) = some next) :
    ∃ call, s.calls id = some call ∧
      next = (s.setCall id none).setStore (s.store.drop call.showId call.own) := by
  unfold releaseStep at h
  dsimp only at h
  split at h
  next call hcall => exact ⟨call, hcall, (Option.some.inj h).symm⟩
  next => cases h

theorem released_eq_some :
    s.released a = some call ↔
      (∃ request, a = .request (.release call.bookingRef) ∧ request.showId = call.showId ∧
        s.race.phase call.bookingRef = .releasing request call.own) ∨
      ∃ id, a = .finish id ∧ s.calls id = some call := by
  constructor
  · intro h
    unfold ReleaseRace.released at h
    split at h
    next bookingRef =>
      split at h
      next request own hphase =>
        obtain rfl := Option.some.inj h
        exact .inl ⟨request, rfl, rfl, hphase⟩
      next => cases h
    next id => exact .inr ⟨id, rfl, h⟩
    next => cases h
  · rintro (⟨request, rfl, hshow, hphase⟩ | ⟨id, rfl, hcall⟩)
    · simp only [ReleaseRace.released, hphase, hshow]
    · exact hcall

/-- A release that is under way can end, and deletes the seats on its list. -/
theorem release_ends (h : s.released a = some call) :
    ∃ next, releaseStep s a = some next ∧
      next.store = s.store.drop call.showId call.own := by
  rcases released_eq_some.mp h with ⟨request, rfl, hshow, hphase⟩ | ⟨id, rfl, hcall⟩
  · have hstep : holdRaceStep s.race (.release call.bookingRef) =
        some (s.race.setPhase call.bookingRef (.rejected request)
          (s.race.store.drop request.showId call.own)) := by
      unfold holdRaceStep
      simp only [hphase]
    rw [← hshow]
    exact ⟨_, congrArg (Option.map _) hstep, rfl⟩
  · have hstep : releaseStep s (.finish id) =
        some ((s.setCall id none).setStore (s.store.drop call.showId call.own)) := by
      unfold releaseStep
      simp only [hcall]
    exact ⟨_, hstep, rfl⟩

/-- A request releases seats after it has read that they are its own. -/
theorem releasing_step {r : HoldRace} {step : HoldRaceStep} {race : HoldRace}
    (h : holdRaceStep r step = some race) {bookingRef : String} {request : HoldRequest}
    {own : List Seat} (hphase : race.phase bookingRef = .releasing request own) :
    r.phase bookingRef = .releasing request own ∨
      ∀ seat ∈ own, race.store.holder request.showId seat = some bookingRef := by
  by_cases hsame : bookingRef = step.mover
  · right
    subst hsame
    cases step with
    | acquire bookingRef started =>
        obtain ⟨_, phase, store, rfl, _, _, _, hclaims⟩ := acquire_cases h
        obtain rfl : phase = _ := (HoldRace.setPhase_same _ _).symm.trans hphase
        rcases hclaims with hnone | ⟨hacquired, _⟩
        · cases hnone
        · cases hacquired
    | reserve bookingRef =>
        obtain ⟨_, _, rfl⟩ := reserve_race_cases h
        cases (HoldRace.setPhase_same _ _).symm.trans hphase
    | probe bookingRef =>
        obtain ⟨_, _, _, rfl⟩ := probe_race_cases h
        cases (HoldRace.setPhase_same _ _).symm.trans hphase
        intro seat hseat
        exact (HoldStore.mem_ownHolds.mp hseat).2
    | release bookingRef =>
        obtain ⟨_, _, _, rfl⟩ := release_race_cases h
        cases (HoldRace.setPhase_same _ _).symm.trans hphase
  · left
    obtain ⟨phase, store, rfl, _⟩ := moved h
    rwa [HoldRace.setPhase_other _ _ hsame] at hphase

/-- A release that is under way after a step was so before, or has just read
that the seats are its own. -/
theorem released_step {b : ReleaseStep} (h : releaseStep s b = some next)
    (hreleased : next.released a = some call) :
    s.released a = some call ∨
      ∀ seat ∈ call.own, next.store.holder call.showId seat = some call.bookingRef := by
  -- the two places where the release can wait, each with the steps that touch it
  rcases released_eq_some.mp hreleased with ⟨request, rfl, hshow, hphase⟩ | ⟨id, rfl, hcall⟩
  · have hkeep : s.race.phase call.bookingRef = .releasing request call.own →
        s.released (.request (.release call.bookingRef)) = some call :=
      fun hphase => released_eq_some.mpr (.inl ⟨request, rfl, hshow, hphase⟩)
    cases b with
    | request step =>
        obtain ⟨race, hrace, rfl⟩ := request_step_cases h
        rw [← hshow]
        exact (releasing_step hrace hphase).imp hkeep id
    | probe other showId seats bookingRef =>
        obtain rfl := probe_call_cases h
        exact .inl (hkeep hphase)
    | finish other =>
        obtain ⟨_, _, rfl⟩ := finish_call_cases h
        exact .inl (hkeep hphase)
    | expireHold _ _ | expireReserved _ =>
        obtain rfl := Option.some.inj h
        exact .inl (hkeep hphase)
  · cases b with
    | request step =>
        obtain ⟨race, _, rfl⟩ := request_step_cases h
        exact .inl hcall
    | probe other showId seats bookingRef =>
        obtain rfl := probe_call_cases h
        simp only [ReleaseRace.setCall] at hcall
        split at hcall
        next =>
          obtain rfl := Option.some.inj hcall
          exact .inr fun seat hseat => (HoldStore.mem_ownHolds.mp hseat).2
        next => exact .inl hcall
    | finish other =>
        obtain ⟨_, _, rfl⟩ := finish_call_cases h
        simp only [ReleaseRace.setStore, ReleaseRace.setCall] at hcall
        split at hcall
        next => cases hcall
        next => exact .inl hcall
    | expireHold _ _ | expireReserved _ =>
        obtain rfl := Option.some.inj h
        exact .inl hcall

/-- A request that starts leaves the releases that are under way. -/
theorem released_acquire {bookingRef : String} {request : HoldRequest}
    (h : releaseStep s (.request (.acquire bookingRef request)) = some next)
    (hreleased : s.released a = some call) : next.released a = some call := by
  obtain ⟨race, hrace, rfl⟩ := request_step_cases h
  obtain ⟨hidle, phase, store, rfl, _⟩ := acquire_cases hrace
  rcases released_eq_some.mp hreleased with ⟨other, rfl, hshow, hphase⟩ | ⟨id, rfl, hcall⟩
  · have hother : call.bookingRef ≠ bookingRef := by
      intro hsame
      rw [hsame, hidle] at hphase
      cases hphase
    refine released_eq_some.mpr (.inl ⟨other, rfl, hshow, ?_⟩)
    exact (HoldRace.setPhase_other _ _ hother).trans hphase
  · exact hcall

/-- A key is there because it was there before, or because this step sets it. -/
theorem release_holder_step {b : ReleaseStep} (h : releaseStep s b = some next) {showId : Int}
    {seat : Seat} {holder : String} (hholder : next.store.holder showId seat = some holder) :
    s.store.holder showId seat = some holder ∨
      s.store.free showId seat = true ∧ ∃ request, b = .request (.acquire holder request) ∧
        showId = request.showId ∧ seat ∈ request.seats := by
  cases b with
  | request step =>
      obtain ⟨race, hrace, rfl⟩ := request_step_cases h
      rcases holder_step hrace hholder with hold | ⟨hnone, request, rfl, hshow, hseat⟩
      · exact .inl hold
      · exact .inr ⟨HoldStore.free_iff.mpr hnone, request, rfl, hshow, hseat⟩
  | probe _ _ _ _ =>
      obtain rfl := probe_call_cases h
      exact .inl hholder
  | finish _ =>
      obtain ⟨_, _, rfl⟩ := finish_call_cases h
      exact .inl (HoldStore.drop_holder_eq_some.mp hholder).1
  | expireHold _ _ =>
      obtain rfl := Option.some.inj h
      exact .inl (HoldStore.expireHold_holder_eq_some.mp hholder).1
  | expireReserved _ =>
      obtain rfl := Option.some.inj h
      exact .inl hholder

theorem acquire_sets {bookingRef : String} {request : HoldRequest}
    (h : releaseStep s (.request (.acquire bookingRef request)) = some next) {seat : Seat}
    (hseat : seat ∈ request.seats) (hfree : s.store.free request.showId seat = true) :
    next.store.holder request.showId seat = some bookingRef := by
  obtain ⟨race, hrace, rfl⟩ := request_step_cases h
  obtain ⟨_, phase, store, rfl, _, _, hholder, _⟩ := acquire_cases hrace
  exact (hholder _ _).trans (if_pos ⟨⟨rfl, hseat⟩, hfree⟩)

end Inversion

/-! ## Lists of own holds -/

section Lists

variable {s next : ReleaseRace}

/-- The seats on the list of a release are held by its reference or by nobody. -/
def ReleaseRace.ListsOwn (s : ReleaseRace) : Prop :=
  ∀ a call, s.released a = some call → ∀ seat ∈ call.own, ∀ holder,
    s.store.holder call.showId seat = some holder → holder = call.bookingRef

theorem sparesOthers_iff : s.SparesOthers ↔ s.ListsOwn := by
  constructor
  · intro hspares a call hreleased seat hseat holder hholder
    by_contra hother
    obtain ⟨next, hstep, hstore⟩ := release_ends hreleased
    have hkept := (hspares a call next hreleased hstep _ seat holder hother hholder).1
    rw [hstore, HoldStore.drop_holder_eq_some] at hkept
    exact hkept.2 ⟨rfl, hseat⟩
  · intro hown a call next hreleased hstep showId seat holder hother hholder
    obtain ⟨after, hafter, hstore⟩ := release_ends hreleased
    obtain rfl : after = next := Option.some.inj (hafter.symm.trans hstep)
    have hspared : ¬ (showId = call.showId ∧ seat ∈ call.own) := by
      rintro ⟨rfl, hseat⟩
      exact hother (hown a call hreleased seat hseat holder hholder)
    rw [hstore]
    exact ⟨HoldStore.drop_holder_eq_some.mpr ⟨hholder, hspared⟩,
      fun hlisted => HoldStore.mem_drop.mpr ⟨hlisted, hspared⟩⟩

/-- The lists stay right in a step exactly if it sets no key that is on a list of
another reference. -/
theorem listsOwn_step {b : ReleaseStep} (hown : s.ListsOwn) (h : releaseStep s b = some next) :
    next.ListsOwn ↔ SetsNoListed s b := by
  constructor
  · intro hnext
    unfold SetsNoListed
    split
    next bookingRef request =>
      intro a call hreleased hother hshow seat hlisted hseat
      rw [Bool.eq_false_iff]
      intro hfree
      apply hother
      have hset := acquire_sets h hseat hfree
      rw [← hshow] at hset
      exact (hnext a call (released_acquire h hreleased) seat hlisted bookingRef hset).symm
    next => trivial
  · intro hsets a call hreleased seat hseat holder hholder
    rcases released_step h hreleased with hbefore | hread
    · rcases release_holder_step h hholder with hold | ⟨hfree, request, rfl, hshow, hmem⟩
      · exact hown a call hbefore seat hseat holder hold
      · by_contra hother
        rw [hshow, hsets a call hbefore (Ne.symm hother) hshow seat hseat hmem] at hfree
        cases hfree
    · exact Option.some.inj (hholder.symm.trans (hread seat hseat))

theorem listsOwn_start (store : HoldStore) : (ReleaseRace.start store).ListsOwn := by
  intro a call hreleased
  rcases released_eq_some.mp hreleased with ⟨_, _, _, hphase⟩ | ⟨_, _, hcall⟩
  · cases hphase
  · cases hcall

/-- In every interleaving, with keys that expire at any moment: no release can
delete a key of another reference, or take a seat that another one holds out of
the reserved set, exactly if no request sets a key that a release of another
reference has read as its own and not yet deleted. -/
theorem releases_spare_others_iff {store : HoldStore} {steps : List ReleaseStep}
    {final : ReleaseRace} (hrun : releaseMachine.run (.start store) steps = some final) :
    (∀ before after middle, steps = before ++ after →
        releaseMachine.run (.start store) before = some middle → middle.SparesOthers) ↔
      releaseMachine.Along SetsNoListed (.start store) steps := by
  have hstep : ∀ s a next, ReleaseRace.ListsOwn s → releaseMachine.step s a = some next →
      (next.ListsOwn ↔ SetsNoListed s a) := fun _ _ _ hown h => listsOwn_step hown h
  simp only [sparesOthers_iff]
  exact (Machine.along_iff_invariant hstep (listsOwn_start store) hrun).symm

end Lists

/-! ## A key that expires under a release -/

/-- A request releases its only seat, after the key has expired and nobody has
set it again. -/
def releasedExpired : List ReleaseStep :=
  [.request (.acquire "first" cornerRequest), .request (.reserve "first"),
    .probe 0 1 cornerRequest.seats "first", .expireHold 1 ⟨1, 1, Nat.one_pos, Nat.one_pos⟩,
    .finish 0]

theorem releases_spare_others_expired :
    ∃ final, releaseMachine.run (.start .empty) releasedExpired = some final ∧
      ∀ before after middle, releasedExpired = before ++ after →
        releaseMachine.run (.start .empty) before = some middle → middle.SparesOthers := by
  obtain ⟨final, hrun⟩ := Option.isSome_iff_exists.mp
    (show (releaseMachine.run (.start .empty) releasedExpired).isSome = true by decide +kernel)
  refine ⟨final, hrun, ?_⟩
  apply (releases_spare_others_iff hrun).mpr
  refine ⟨?_, fun _ _ => ⟨trivial, fun _ _ => ⟨trivial, fun _ _ => ⟨trivial, fun _ _ =>
    ⟨trivial, fun _ _ => trivial⟩⟩⟩⟩⟩
  intro a call hreleased
  rcases released_eq_some.mp hreleased with ⟨_, _, _, hphase⟩ | ⟨_, _, hcall⟩
  · cases hphase
  · cases hcall

/-- Seat 1-2 of show 1. -/
def edgeRequest : HoldRequest where
  showId := 1
  seats := [⟨1, 2, Nat.one_pos, Nat.two_pos⟩]
  nodup := List.nodup_singleton _

/-- The first request gets seat 1-2, but not seat 1-1, and is to give it back. The
key expires, and the second request sets it again and goes through. -/
def setUnderRelease : List ReleaseStep :=
  [.request (.acquire "zero" cornerRequest), .request (.acquire "first" pairRequest),
    .request (.probe "first"), .expireHold 1 ⟨1, 2, Nat.one_pos, Nat.two_pos⟩,
    .request (.acquire "second" edgeRequest), .request (.reserve "second")]

/-- Whether the reference holds the seat and the reserved set lists it. -/
def ReleaseRace.keeps (s : ReleaseRace) (showId : Int) (seat : Seat) (bookingRef : String) : Bool :=
  s.store.holder showId seat = some bookingRef ∧ seat ∈ s.store.reserved showId

/-- The release of the first request deletes the key of the second one. -/
theorem release_deletes_other :
    (releaseMachine.run (.start .empty) setUnderRelease).any
        (·.keeps 1 ⟨1, 2, Nat.one_pos, Nat.two_pos⟩ "second") = true ∧
      (releaseMachine.run (.start .empty)
        (setUnderRelease ++ [.request (.release "first")])).any
        (fun s => (s.store.holder 1 ⟨1, 2, Nat.one_pos, Nat.two_pos⟩).isNone &&
          (s.store.reserved 1).isEmpty) = true ∧
      ¬ ∀ before after middle, setUnderRelease = before ++ after →
        releaseMachine.run (.start .empty) before = some middle → middle.SparesOthers := by
  have hkept : (releaseMachine.run (.start .empty) setUnderRelease).any
      (·.keeps 1 ⟨1, 2, Nat.one_pos, Nat.two_pos⟩ "second") = true := by decide +kernel
  have hlost : (releaseMachine.run (.start .empty)
      (setUnderRelease ++ [.request (.release "first")])).any
      (fun s => (s.store.holder 1 ⟨1, 2, Nat.one_pos, Nat.two_pos⟩).isNone &&
        (s.store.reserved 1).isEmpty) = true := by decide +kernel
  refine ⟨hkept, hlost, fun hspares => ?_⟩
  obtain ⟨final, hfinal, hnone⟩ := (Option.any_eq_true _ _).mp hlost
  obtain ⟨middle, hmiddle, hstep⟩ := releaseMachine.run_concat_eq_some.mp hfinal
  rw [hmiddle, Option.any_some, ReleaseRace.keeps, decide_eq_true_eq] at hkept
  obtain ⟨race, hrace, _⟩ := request_step_cases hstep
  obtain ⟨request, own, hphase, _⟩ := release_race_cases hrace
  have hreleased : middle.released (.request (.release "first")) =
      some ⟨"first", request.showId, own⟩ := released_eq_some.mpr (.inl ⟨request, rfl, rfl, hphase⟩)
  have hother : "second" ≠ "first" := by decide
  have hholder := (hspares setUnderRelease [] middle (List.append_nil _).symm hmiddle _ _ final
    hreleased hstep 1 _ "second" hother hkept.1).1
  simp [hholder] at hnone

end Ticketing
