import Ticketing.Concert.SeatHold
import Ticketing.Foundation.Machine

/-!
# Requests racing for seats

`try_hold_seats` and the `release_seats` inside it, for any number of requests,
with every pipeline as one step and no key expiring. What protects a request is
that its claim on a seat is visible in the hold key from the first pipeline to the
end: the others find the key taken, and delete it only if it is their own.
-/

namespace Ticketing

open Foundation

/-- The arguments of one `try_hold_seats`. -/
structure HoldRequest where
  showId : Int
  seats : List Seat
  nodup : seats.Nodup

/-- How far the request with a booking reference has come. -/
inductive HoldPhase where
  | idle
  /-- all its keys are set, the reserved set does not know them yet -/
  | acquired (request : HoldRequest)
  /-- returned HELD -/
  | held (request : HoldRequest)
  /-- a key was taken; `held` is to be released -/
  | refused (request : HoldRequest) (held : List Seat)
  /-- `release_seats` has read that it may delete `own` -/
  | releasing (request : HoldRequest) (own : List Seat)
  /-- returned DUPLICATE_SEAT -/
  | rejected (request : HoldRequest)
  /-- returned NO_SEATS -/
  | noSeats

namespace HoldPhase

/-- The phase after the first pipeline. -/
def afterPipeline (request : HoldRequest) (held : List Seat) (complete : Bool) : HoldPhase :=
  if complete then acquired request
  else if held = [] then rejected request
  else refused request held

/-- The seats whose keys the request counts on. -/
def claims : HoldPhase → Option (Int × List Seat)
  | acquired request | held request => some (request.showId, request.seats)
  | releasing request own => some (request.showId, own)
  | idle | refused _ _ | rejected _ | noSeats => none

end HoldPhase

structure HoldRace where
  store : HoldStore
  phase : String → HoldPhase

inductive HoldRaceStep where
  /-- the first pipeline of `try_hold_seats` -/
  | acquire (bookingRef : String) (request : HoldRequest)
  | reserve (bookingRef : String)
  /-- the first pipeline of `release_seats` -/
  | probe (bookingRef : String)
  | release (bookingRef : String)

namespace HoldRace

def initial : HoldRace := ⟨.empty, fun _ => .idle⟩

def setPhase (s : HoldRace) (bookingRef : String) (phase : HoldPhase) (store : HoldStore) :
    HoldRace :=
  ⟨store, fun other => if other = bookingRef then phase else s.phase other⟩

end HoldRace

def holdRaceStep (s : HoldRace) : HoldRaceStep → Option HoldRace
  | .acquire bookingRef request =>
      match s.phase bookingRef with
      | .idle =>
          if request.seats = [] then some (s.setPhase bookingRef .noSeats s.store)
          else
            let ((held, complete), store) :=
              s.store.setHolds request.showId request.seats bookingRef
            some (s.setPhase bookingRef (.afterPipeline request held complete) store)
      -- the references of the requests are different
      | _ => none
  | .reserve bookingRef =>
      match s.phase bookingRef with
      | .acquired request =>
          some (s.setPhase bookingRef (.held request)
            (s.store.reserve request.showId request.seats))
      | _ => none
  | .probe bookingRef =>
      match s.phase bookingRef with
      | .refused request held =>
          some (s.setPhase bookingRef
            (.releasing request (s.store.ownHolds request.showId held bookingRef)) s.store)
      | _ => none
  | .release bookingRef =>
      match s.phase bookingRef with
      | .releasing request own =>
          some (s.setPhase bookingRef (.rejected request) (s.store.drop request.showId own))
      | _ => none

def holdRaceMachine : Machine HoldRace HoldRaceStep := ⟨holdRaceStep⟩

/-! ## What the steps do -/

section Inversion

variable {s next : HoldRace} {bookingRef : String}

@[simp] theorem HoldRace.setPhase_same (phase : HoldPhase) (store : HoldStore) :
    (s.setPhase bookingRef phase store).phase bookingRef = phase := by
  simp [setPhase]

theorem HoldRace.setPhase_other (phase : HoldPhase) (store : HoldStore) {other : String}
    (hother : other ≠ bookingRef) :
    (s.setPhase bookingRef phase store).phase other = s.phase other := by
  simp [setPhase, hother]

/-- A request starts once. It holds all its seats, if they were all free, or
some of them. -/
theorem acquire_cases {request : HoldRequest}
    (h : holdRaceStep s (.acquire bookingRef request) = some next) :
    s.phase bookingRef = .idle ∧ ∃ phase store, next = s.setPhase bookingRef phase store ∧
      phase ≠ .idle ∧ store.reserved = s.store.reserved ∧
      (∀ showId seat, store.holder showId seat =
        if (showId = request.showId ∧ seat ∈ request.seats) ∧ s.store.free showId seat then
          some bookingRef
        else s.store.holder showId seat) ∧
      (phase.claims = none ∨
        phase = .acquired request ∧
          ∀ seat ∈ request.seats, s.store.free request.showId seat = true) := by
  unfold holdRaceStep at h
  dsimp only at h
  split at h
  next hidle =>
    refine ⟨hidle, ?_⟩
    split at h
    next hempty =>
      refine ⟨.noSeats, s.store, (Option.some.inj h).symm, by simp, rfl, ?_, .inl rfl⟩
      intro showId seat
      simp [hempty]
    next =>
      have hcomplete := congrArg Prod.snd
        (@HoldStore.setHolds_acquired s.store request.showId _ bookingRef request.nodup)
      refine ⟨_, _, (Option.some.inj h).symm, ?_, rfl, HoldStore.setHolds_holder, ?_⟩
      · unfold HoldPhase.afterPipeline
        split
        next => simp
        next => split <;> simp
      · unfold HoldPhase.afterPipeline
        split
        next htrue => exact .inr ⟨rfl, List.all_eq_true.mp (hcomplete.symm.trans htrue)⟩
        next =>
          left
          split <;> rfl
  next => cases h

theorem reserve_race_cases (h : holdRaceStep s (.reserve bookingRef) = some next) :
    ∃ request, s.phase bookingRef = .acquired request ∧
      next = s.setPhase bookingRef (.held request)
        (s.store.reserve request.showId request.seats) := by
  unfold holdRaceStep at h
  dsimp only at h
  split at h
  next request hphase => exact ⟨request, hphase, (Option.some.inj h).symm⟩
  next => cases h

theorem probe_race_cases (h : holdRaceStep s (.probe bookingRef) = some next) :
    ∃ request held, s.phase bookingRef = .refused request held ∧
      next = s.setPhase bookingRef
        (.releasing request (s.store.ownHolds request.showId held bookingRef)) s.store := by
  unfold holdRaceStep at h
  dsimp only at h
  split at h
  next request held hphase => exact ⟨request, held, hphase, (Option.some.inj h).symm⟩
  next => cases h

theorem release_race_cases (h : holdRaceStep s (.release bookingRef) = some next) :
    ∃ request own, s.phase bookingRef = .releasing request own ∧
      next = s.setPhase bookingRef (.rejected request) (s.store.drop request.showId own) := by
  unfold holdRaceStep at h
  dsimp only at h
  split at h
  next request own hphase => exact ⟨request, own, hphase, (Option.some.inj h).symm⟩
  next => cases h

/-- The request that takes the step. -/
def HoldRaceStep.mover : HoldRaceStep → String
  | .acquire bookingRef _ | .reserve bookingRef | .probe bookingRef | .release bookingRef =>
      bookingRef

/-- A step moves one request, and no request back to its start. -/
theorem moved {a : HoldRaceStep} (h : holdRaceStep s a = some next) :
    ∃ phase store, next = s.setPhase a.mover phase store ∧ phase ≠ .idle := by
  cases a with
  | acquire bookingRef request =>
      obtain ⟨_, phase, store, hnext, hne, _⟩ := acquire_cases h
      exact ⟨phase, store, hnext, hne⟩
  | reserve bookingRef =>
      obtain ⟨request, _, hnext⟩ := reserve_race_cases h
      exact ⟨_, _, hnext, by simp⟩
  | probe bookingRef =>
      obtain ⟨request, held, _, hnext⟩ := probe_race_cases h
      exact ⟨_, _, hnext, by simp⟩
  | release bookingRef =>
      obtain ⟨request, own, _, hnext⟩ := release_race_cases h
      exact ⟨_, _, hnext, by simp⟩

/-- A request that was told HELD takes no further step. -/
theorem held_stays {a : HoldRaceStep} {request : HoldRequest}
    (hheld : s.phase bookingRef = .held request) (h : holdRaceStep s a = some next) :
    next.phase bookingRef = .held request := by
  have hother : bookingRef ≠ a.mover := by
    rintro rfl
    cases a with
    | acquire other request' =>
        have hphase := (acquire_cases h).1
        rw [HoldRaceStep.mover] at hheld
        rw [hheld] at hphase
        cases hphase
    | reserve other =>
        obtain ⟨_, hphase, _⟩ := reserve_race_cases h
        rw [HoldRaceStep.mover] at hheld
        rw [hheld] at hphase
        cases hphase
    | probe other =>
        obtain ⟨_, _, hphase, _⟩ := probe_race_cases h
        rw [HoldRaceStep.mover] at hheld
        rw [hheld] at hphase
        cases hphase
    | release other =>
        obtain ⟨_, _, hphase, _⟩ := release_race_cases h
        rw [HoldRaceStep.mover] at hheld
        rw [hheld] at hphase
        cases hphase
  obtain ⟨phase, store, rfl, _⟩ := moved h
  rw [HoldRace.setPhase_other _ _ hother]
  exact hheld

end Inversion

/-! ## Claims are visible -/

/-- Every request holds the seats that it counts on, and the reserved set has
the seats of every request that was told HELD. -/
structure ClaimsVisible (s : HoldRace) : Prop where
  kept : ∀ bookingRef showId seats, (s.phase bookingRef).claims = some (showId, seats) →
    ∀ seat ∈ seats, s.store.holder showId seat = some bookingRef
  listed : ∀ bookingRef request, s.phase bookingRef = .held request →
    ∀ seat ∈ request.seats, seat ∈ s.store.reserved request.showId

section Invariant

variable {s next : HoldRace} {bookingRef : String}

theorem claimsVisible_initial : ClaimsVisible .initial := by
  constructor
  · intro bookingRef showId seats hclaims
    cases hclaims
  · intro bookingRef request hphase
    cases hphase

/-- One request moves. What the others hold stays with them and stays listed. -/
theorem ClaimsVisible.update (hinv : ClaimsVisible s) {phase : HoldPhase} {store : HoldStore}
    (hothers : ∀ other, other ≠ bookingRef → ∀ showId seat,
      s.store.holder showId seat = some other → store.holder showId seat = some other ∧
        (seat ∈ s.store.reserved showId → seat ∈ store.reserved showId))
    (hkept : ∀ showId seats, phase.claims = some (showId, seats) →
      ∀ seat ∈ seats, store.holder showId seat = some bookingRef)
    (hlisted : ∀ request, phase = .held request →
      ∀ seat ∈ request.seats, seat ∈ store.reserved request.showId) :
    ClaimsVisible (s.setPhase bookingRef phase store) := by
  constructor
  · intro other showId seats hclaims seat hseat
    by_cases hsame : other = bookingRef
    · subst hsame
      rw [HoldRace.setPhase_same] at hclaims
      exact hkept showId seats hclaims seat hseat
    · rw [HoldRace.setPhase_other _ _ hsame] at hclaims
      exact (hothers other hsame showId seat (hinv.kept other showId seats hclaims seat hseat)).1
  · intro other request hphase seat hseat
    by_cases hsame : other = bookingRef
    · subst hsame
      rw [HoldRace.setPhase_same] at hphase
      exact hlisted request hphase seat hseat
    · rw [HoldRace.setPhase_other _ _ hsame] at hphase
      have hholder := hinv.kept other request.showId request.seats (by rw [hphase]; rfl) seat hseat
      exact (hothers other hsame request.showId seat hholder).2
        (hinv.listed other request hphase seat hseat)

theorem ClaimsVisible.acquire (hinv : ClaimsVisible s) {request : HoldRequest}
    (h : holdRaceStep s (.acquire bookingRef request) = some next) : ClaimsVisible next := by
  obtain ⟨_, phase, store, rfl, _, hreserved, hholder, hclaims⟩ := acquire_cases h
  apply hinv.update
  · intro other _ showId seat hold
    rw [hreserved, hholder, if_neg]
    · exact ⟨hold, id⟩
    · rintro ⟨_, hfree⟩
      rw [HoldStore.free_iff, hold] at hfree
      cases hfree
  · intro showId seats hnew seat hseat
    rcases hclaims with hnone | ⟨rfl, hfree⟩
    · rw [hnone] at hnew
      cases hnew
    · obtain ⟨rfl, rfl⟩ := Prod.mk.inj (Option.some.inj hnew)
      rw [hholder]
      exact if_pos ⟨⟨rfl, hseat⟩, hfree seat hseat⟩
  · intro other hheld
    rcases hclaims with hnone | ⟨hacquired, _⟩
    · rw [hheld] at hnone
      cases hnone
    · rw [hheld] at hacquired
      cases hacquired

theorem ClaimsVisible.reserve (hinv : ClaimsVisible s)
    (h : holdRaceStep s (.reserve bookingRef) = some next) : ClaimsVisible next := by
  obtain ⟨request, hphase, rfl⟩ := reserve_race_cases h
  apply hinv.update
  · intro other _ showId seat hold
    exact ⟨hold, fun hseat => HoldStore.mem_reserve.mpr (.inr hseat)⟩
  · intro showId seats hclaims seat hseat
    exact hinv.kept bookingRef showId seats (by rw [hphase]; exact hclaims) seat hseat
  · rintro other hheld seat hseat
    obtain rfl := HoldPhase.held.inj hheld
    exact HoldStore.mem_reserve.mpr (.inl ⟨rfl, hseat⟩)

theorem ClaimsVisible.probe (hinv : ClaimsVisible s)
    (h : holdRaceStep s (.probe bookingRef) = some next) : ClaimsVisible next := by
  obtain ⟨request, held, _, rfl⟩ := probe_race_cases h
  apply hinv.update
  · intro other _ showId seat hold
    exact ⟨hold, id⟩
  · intro showId seats hclaims seat hseat
    obtain ⟨rfl, rfl⟩ := Prod.mk.inj (Option.some.inj hclaims)
    exact (HoldStore.mem_ownHolds.mp hseat).2
  · intro other hheld
    cases hheld

theorem ClaimsVisible.release (hinv : ClaimsVisible s)
    (h : holdRaceStep s (.release bookingRef) = some next) : ClaimsVisible next := by
  obtain ⟨request, own, hphase, rfl⟩ := release_race_cases h
  have hown := hinv.kept bookingRef request.showId own (by rw [hphase]; rfl)
  apply hinv.update
  · intro other hother showId seat hold
    -- the deleted keys are those of the request itself, all of them
    have hspared : ¬ (showId = request.showId ∧ seat ∈ own) := by
      rintro ⟨rfl, hseat⟩
      have hmine := hown seat hseat
      rw [hold] at hmine
      exact hother (Option.some.inj hmine)
    exact ⟨HoldStore.drop_holder_eq_some.mpr ⟨hold, hspared⟩,
      fun hseat => HoldStore.mem_drop.mpr ⟨hseat, hspared⟩⟩
  · intro showId seats hclaims
    cases hclaims
  · intro other hheld
    cases hheld

theorem ClaimsVisible.step {a : HoldRaceStep} (hinv : ClaimsVisible s)
    (h : holdRaceStep s a = some next) : ClaimsVisible next := by
  cases a with
  | acquire bookingRef request => exact hinv.acquire h
  | reserve bookingRef => exact hinv.reserve h
  | probe bookingRef => exact hinv.probe h
  | release bookingRef => exact hinv.release h

end Invariant

/-! ## Who created a key -/

/-- The step is the SET NX pipeline of the request with this reference. -/
def HoldRaceStep.starts (bookingRef : String) : HoldRaceStep → Bool
  | .acquire other _ => other = bookingRef
  | .reserve _ | .probe _ | .release _ => false

/-- The SET NX of the request found no key for the seat, and since then the key
has carried the reference of the request. -/
def CreatedBy (steps : List HoldRaceStep) (bookingRef : String) (showId : Int) (seat : Seat) :
    Prop :=
  ∃ first request rest before,
    steps = first ++ .acquire bookingRef request :: rest ∧
      showId = request.showId ∧ seat ∈ request.seats ∧
      holdRaceMachine.run .initial first = some before ∧ before.store.holder showId seat = none ∧
      ∀ part later s, rest = part ++ later →
        holdRaceMachine.run .initial (first ++ .acquire bookingRef request :: part) = some s →
          s.store.holder showId seat = some bookingRef

section History

variable {s next : HoldRace} {steps : List HoldRaceStep} {a : HoldRaceStep} {bookingRef : String}
  {showId : Int} {seat : Seat}

theorem CreatedBy.concat (hcreated : CreatedBy steps bookingRef showId seat)
    (hrun : holdRaceMachine.run .initial (steps ++ [a]) = some next)
    (hholder : next.store.holder showId seat = some bookingRef) :
    CreatedBy (steps ++ [a]) bookingRef showId seat := by
  obtain ⟨first, request, rest, before, rfl, hshow, hseat, hbefore, hnone, hsince⟩ := hcreated
  refine ⟨first, request, rest ++ [a], before, by simp, hshow, hseat, hbefore, hnone, ?_⟩
  intro part later state hsplit hpart
  rcases List.eq_nil_or_concat later with rfl | ⟨shorter, last, rfl⟩
  · -- the whole run: its end is `next`
    rw [List.append_nil] at hsplit
    rw [← hsplit, ← List.cons_append, ← List.append_assoc, hrun] at hpart
    exact Option.some.inj hpart ▸ hholder
  · rw [List.concat_eq_append, ← List.append_assoc] at hsplit
    exact hsince part shorter state (List.append_inj_left' hsplit rfl) hpart

/-- A key is there because it was there before, or because this step has created
it. -/
theorem holder_step (h : holdRaceStep s a = some next)
    (hholder : next.store.holder showId seat = some bookingRef) :
    s.store.holder showId seat = some bookingRef ∨
      s.store.holder showId seat = none ∧ ∃ request, a = .acquire bookingRef request ∧
        showId = request.showId ∧ seat ∈ request.seats := by
  cases a with
  | acquire other request =>
      obtain ⟨_, phase, store, rfl, _, _, hstore, _⟩ := acquire_cases h
      change store.holder showId seat = some bookingRef at hholder
      rw [hstore] at hholder
      split at hholder
      next hnew =>
        obtain rfl := Option.some.inj hholder
        exact .inr ⟨HoldStore.free_iff.mp hnew.2, request, rfl, hnew.1⟩
      next => exact .inl hholder
  | reserve other =>
      obtain ⟨_, _, rfl⟩ := reserve_race_cases h
      exact .inl hholder
  | probe other =>
      obtain ⟨_, _, _, rfl⟩ := probe_race_cases h
      exact .inl hholder
  | release other =>
      obtain ⟨_, _, _, rfl⟩ := release_race_cases h
      exact .inl (HoldStore.drop_holder_eq_some.mp hholder).1

theorem createdBy_run (hrun : holdRaceMachine.run .initial steps = some s)
    (hholder : s.store.holder showId seat = some bookingRef) :
    CreatedBy steps bookingRef showId seat := by
  have hstep : ∀ before s a next,
      (holdRaceMachine.run .initial before = some s ∧ ∀ bookingRef showId seat,
        s.store.holder showId seat = some bookingRef → CreatedBy before bookingRef showId seat) →
      holdRaceMachine.step s a = some next →
      (holdRaceMachine.run .initial (before ++ [a]) = some next ∧ ∀ bookingRef showId seat,
        next.store.holder showId seat = some bookingRef →
          CreatedBy (before ++ [a]) bookingRef showId seat) := by
    rintro before s a next ⟨hbefore, hcreated⟩ h
    have hrun : holdRaceMachine.run .initial (before ++ [a]) = some next :=
      holdRaceMachine.run_concat_eq_some.mpr ⟨s, hbefore, h⟩
    refine ⟨hrun, fun bookingRef showId seat hholder => ?_⟩
    rcases holder_step h hholder with hold | ⟨hnone, request, rfl, hshow, hseat⟩
    · exact (hcreated bookingRef showId seat hold).concat hrun hholder
    · refine ⟨before, request, [], s, rfl, hshow, hseat, hbefore, hnone, ?_⟩
      intro part later state hsplit hpart
      obtain ⟨rfl, _⟩ := List.append_eq_nil_iff.mp hsplit.symm
      rw [hrun] at hpart
      exact Option.some.inj hpart ▸ hholder
  have hinit : holdRaceMachine.run .initial [] = some HoldRace.initial ∧
      ∀ bookingRef showId seat, HoldRace.initial.store.holder showId seat = some bookingRef →
        CreatedBy [] bookingRef showId seat := by
    refine ⟨rfl, fun bookingRef showId seat h => ?_⟩
    cases h
  exact (Machine.run_invariant_history hstep hinit hrun).2 bookingRef showId seat hholder

/-- A request starts at most once. -/
theorem starts_at_most_once (hrun : holdRaceMachine.run .initial steps = some s)
    (bookingRef : String) : steps.countP (HoldRaceStep.starts bookingRef) ≤ 1 := by
  have hstep : ∀ before s a next,
      ((s.phase bookingRef = .idle → before.countP (HoldRaceStep.starts bookingRef) = 0) ∧
        before.countP (HoldRaceStep.starts bookingRef) ≤ 1) →
      holdRaceMachine.step s a = some next →
      ((next.phase bookingRef = .idle →
          (before ++ [a]).countP (HoldRaceStep.starts bookingRef) = 0) ∧
        (before ++ [a]).countP (HoldRaceStep.starts bookingRef) ≤ 1) := by
    rintro before s a next ⟨hidle, hcount⟩ h
    -- whoever moves is idle before the first step of the request only
    have hmoves : a.starts bookingRef = true → s.phase bookingRef = .idle := by
      intro hstarts
      cases a with
      | acquire other request =>
          obtain rfl : other = bookingRef := by simpa [HoldRaceStep.starts] using hstarts
          exact (acquire_cases h).1
      | reserve other | probe other | release other => cases hstarts
    have hleaves : next.phase bookingRef = .idle →
        s.phase bookingRef = .idle ∧ a.starts bookingRef = false := by
      intro hphase
      obtain ⟨phase, store, rfl, hne⟩ := moved h
      by_cases hsame : bookingRef = a.mover
      · rw [hsame, HoldRace.setPhase_same] at hphase
        exact absurd hphase hne
      · rw [HoldRace.setPhase_other _ _ hsame] at hphase
        refine ⟨hphase, ?_⟩
        cases a with
        | acquire other request =>
            simpa [HoldRaceStep.starts, HoldRaceStep.mover] using Ne.symm hsame
        | reserve other | probe other | release other => rfl
    rw [List.countP_append, List.countP_singleton]
    refine ⟨fun hphase => ?_, ?_⟩
    · obtain ⟨hbefore, hstarts⟩ := hleaves hphase
      simp [hidle hbefore, hstarts]
    · cases hstarts : a.starts bookingRef with
      | false => simpa using hcount
      | true => simp [hidle (hmoves hstarts)]
  have hinit : (HoldRace.initial.phase bookingRef = .idle →
      [].countP (HoldRaceStep.starts bookingRef) = 0) ∧
        [].countP (HoldRaceStep.starts bookingRef) ≤ 1 := ⟨fun _ => rfl, Nat.zero_le 1⟩
  exact (Machine.run_invariant_history hstep hinit hrun).2

end History

/-! ## What HELD means -/

/-- In every interleaving: a hold key carries the reference of the one request
whose SET NX has created it, requests that were told HELD have different seats of
a show, and from then on each of their seats keeps its key and stays in the
reserved set. -/
theorem held_exclusively {before after : List HoldRaceStep} {middle final : HoldRace}
    (hbefore : holdRaceMachine.run .initial before = some middle)
    (hafter : holdRaceMachine.run middle after = some final) :
    (∀ showId seat bookingRef, final.store.holder showId seat = some bookingRef →
        CreatedBy (before ++ after) bookingRef showId seat ∧
          (before ++ after).countP (HoldRaceStep.starts bookingRef) ≤ 1) ∧
      (∀ bookingRef other request request', bookingRef ≠ other →
        final.phase bookingRef = .held request → final.phase other = .held request' →
          request.showId = request'.showId → List.Disjoint request.seats request'.seats) ∧
      ∀ bookingRef request, middle.phase bookingRef = .held request →
        final.phase bookingRef = .held request ∧ ∀ seat ∈ request.seats,
          final.store.holder request.showId seat = some bookingRef ∧
            seat ∈ final.store.reserved request.showId := by
  have hrun := holdRaceMachine.run_append_eq_some.mpr ⟨middle, hbefore, hafter⟩
  have hclaims : ∀ s a next, ClaimsVisible s → holdRaceMachine.step s a = some next →
      ClaimsVisible next := fun _ _ _ hinv h => hinv.step h
  have hinv := Machine.run_invariant hclaims claimsVisible_initial hrun
  have hholder : ∀ bookingRef request, final.phase bookingRef = .held request →
      ∀ seat ∈ request.seats, final.store.holder request.showId seat = some bookingRef :=
    fun bookingRef request hheld => hinv.kept bookingRef _ _ (by rw [hheld]; rfl)
  refine ⟨?_, ?_, ?_⟩
  · intro showId seat bookingRef h
    exact ⟨createdBy_run hrun h, starts_at_most_once hrun bookingRef⟩
  · intro bookingRef other request request' hne hheld hheld' hshow seat hseat hseat'
    have hfirst := hholder bookingRef request hheld seat hseat
    rw [hshow, hholder other request' hheld' seat hseat'] at hfirst
    exact hne (Option.some.inj hfirst).symm
  · intro bookingRef request hheld
    have hstays : ∀ s a next, s.phase bookingRef = .held request →
        holdRaceMachine.step s a = some next → next.phase bookingRef = .held request :=
      fun _ _ _ hphase h => held_stays hphase h
    have hfinal := Machine.run_invariant hstays hheld hafter
    refine ⟨hfinal, fun seat hseat => ⟨hholder bookingRef request hfinal seat hseat, ?_⟩⟩
    exact hinv.listed bookingRef request hfinal seat hseat

/-! ## Two requests for one seat -/

def cornerRequest : HoldRequest where
  showId := 1
  seats := [⟨1, 1, Nat.one_pos, Nat.one_pos⟩]
  nodup := List.nodup_singleton _

/-- Seats 1-2 and 1-1, in this order. -/
def pairRequest : HoldRequest where
  showId := 1
  seats := [⟨1, 2, Nat.one_pos, Nat.two_pos⟩, ⟨1, 1, Nat.one_pos, Nat.one_pos⟩]
  nodup := by decide

/-- The second request gets one of its seats and releases it again, while the
first one goes through. -/
def refusedAndReleased : List HoldRaceStep :=
  [.acquire "first" cornerRequest, .acquire "second" pairRequest, .probe "second",
    .reserve "first", .release "second"]

theorem held_exclusively_refused :
    ∃ final, holdRaceMachine.run .initial refusedAndReleased = some final ∧
      final.phase "first" = .held cornerRequest ∧ ∀ seat ∈ cornerRequest.seats,
        final.store.holder 1 seat = some "first" ∧ seat ∈ final.store.reserved 1 := by
  obtain ⟨final, hrun⟩ := Option.isSome_iff_exists.mp
    (show (holdRaceMachine.run .initial refusedAndReleased).isSome = true by decide +kernel)
  have hheld : final.phase "first" = .held cornerRequest := by
    have hphase : (holdRaceMachine.run .initial refusedAndReleased).map (·.phase "first") =
        some (.held cornerRequest) := rfl
    rw [hrun] at hphase
    exact Option.some.inj hphase
  exact ⟨final, hrun, (held_exclusively hrun (holdRaceMachine.run_nil final)).2.2 "first"
    cornerRequest hheld⟩

end Ticketing
