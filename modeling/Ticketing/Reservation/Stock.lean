import Ticketing.Foundation.Balance
import Ticketing.Reservation.Compensate

/-!
# The stock of an event

`seat:available:{event_id}` over whole runs of `reserv-svc`: any finite group of
calls, locks that run out, and instances that start and set the counter from the
table of seats. A call that has taken its seats off the counter owes them; the
counter and what is owed add up to what was there at first, exactly as long as no
exception is caught where the `except` branch gives back what was never taken.
-/

namespace Ticketing

open Foundation Python

/-! ## Runs -/

inductive StockStep where
  | call (step : ReservationStep)
  /-- the TTL of a lock is over -/
  | expire (key : String)
  /-- an instance starts, and reads how many seats are available, if any -/
  | restart (count : Option Nat)
deriving DecidableEq, Repr

def ReservationStep.caller : ReservationStep → Nat
  | .start call | .proceed call | .raise call _ => call

/-- The loop of `lifespan` sets the counter of the events that have a row. -/
def ReservationStores.initialise (stores : ReservationStores) (count : Option Nat) :
    ReservationStores :=
  match count with
  | none => stores
  | some cnt => { stores with stock := cnt }

section Steps

variable (eventId : String) (calls : Nat → ReservationCall) (group : Finset Nat)

/-- The calls of the group, at their Redis commands. -/
def stockStep (s : ReservationState) : StockStep → Option ReservationState
  | .call step => if step.caller ∈ group then reservationStep eventId calls s step else none
  | .expire key => some { s with stores := { s.stores with locks := s.stores.locks.del [key] } }
  | .restart count => some { s with stores := s.stores.initialise count }

def stockMachine : Machine ReservationState StockStep := ⟨stockStep eventId calls group⟩

end Steps

/-! ## What a call owes -/

namespace ReservationPhase

/-- The seats that the call has off the counter. In the `except` branch the code takes
it that the DECRBY has been executed and the INCRBY has not. -/
def owed : ReservationPhase → Int
  | overdrawn order | stocked order | failing _ order | unlocked order | pending order =>
      order.seatIds.length
  | idle | locking _ | locked _ | restocked _ | answered _ | crashed => 0

/-- The seats of a call that has been let through by the counter. -/
def promised : ReservationPhase → Int
  | stocked order | pending order => order.seatIds.length
  | idle | locking _ | locked _ | overdrawn _ | restocked _ | failing _ _ | unlocked _
  | answered _ | crashed => 0

/-- The call has been answered or left. -/
def ended : ReservationPhase → Bool
  | idle | answered _ | pending _ | crashed => true
  | _ => false

/-- An exception of the command leaves the counter as the `except` branch takes it to
be, and one of the `except` branch itself comes behind the INCRBY. -/
def RaiseKeeps (executed : Bool) : ReservationPhase → Prop
  | locking _ | restocked _ | failing _ _ => False
  | locked _ | unlocked _ => executed = true
  | overdrawn _ => executed = false
  | stocked _ | idle | answered _ | pending _ | crashed => True

instance (executed : Bool) : (phase : ReservationPhase) → Decidable (phase.RaiseKeeps executed)
  | locking _ | restocked _ | failing _ _ => .isFalse id
  | locked _ | unlocked _ => decEq executed true
  | overdrawn _ => decEq executed false
  | stocked _ | idle | answered _ | pending _ | crashed => .isTrue trivial

end ReservationPhase

namespace ReservationState

def owed (group : Finset Nat) (s : ReservationState) : Int :=
  outstanding group fun call => (s.phase call).owed

def promised (group : Finset Nat) (s : ReservationState) : Int :=
  outstanding group fun call => (s.phase call).promised

end ReservationState

/-- The step leaves the counter and what is owed in balance. -/
def KeepsStock (s : ReservationState) : StockStep → Prop
  | .call (.start _) | .call (.proceed _) | .expire _ | .restart none => True
  | .call (.raise call executed) => (s.phase call).RaiseKeeps executed
  | .restart (some count) => (count : Int) = s.stores.stock

instance (s : ReservationState) : (step : StockStep) → Decidable (KeepsStock s step)
  | .call (.start _) | .call (.proceed _) | .expire _ | .restart none => .isTrue trivial
  | .call (.raise call executed) =>
      inferInstanceAs (Decidable ((s.phase call).RaiseKeeps executed))
  | .restart (some count) => inferInstanceAs (Decidable ((count : Int) = s.stores.stock))

section Stock

variable {eventId : String} {calls : Nat → ReservationCall} {group : Finset Nat}
  {s next : ReservationState}

/-! ## One command -/

theorem ReservationPhase.promised_le_owed (phase : ReservationPhase) :
    phase.promised ≤ phase.owed := by
  cases phase with
  | overdrawn _ | failing _ _ | unlocked _ => exact Int.natCast_nonneg _
  | idle | locking _ | locked _ | restocked _ | stocked _ | answered _ | pending _ | crashed =>
      exact le_refl _

theorem proceed_owed (seatIds : Json) {phase after : ReservationPhase} {stores : ReservationStores}
    (h : phase.proceed eventId stores = some after) :
    (phase.effect eventId seatIds stores).stock + after.owed = stores.stock + phase.owed := by
  cases phase with
  | idle | answered _ | pending _ | crashed => cases h
  | locking order =>
      unfold ReservationPhase.proceed at h
      dsimp only at h
      split at h
      next haccepts =>
        have hstock : ((ReservationPhase.locking order).effect eventId seatIds stores).stock =
            stores.stock := by
          simp [ReservationPhase.effect, haccepts]
        rw [hstock]
        split at h <;> obtain rfl := Option.some.inj h <;> rfl
      next => cases h
  | locked order =>
      unfold ReservationPhase.proceed at h
      dsimp only at h
      split at h <;> obtain rfl := Option.some.inj h <;>
        simp [ReservationPhase.effect, ReservationPhase.owed]
  | overdrawn order | unlocked order | restocked order | stocked order | failing _ order =>
      obtain rfl := Option.some.inj h
      simp [ReservationPhase.effect, ReservationPhase.owed]

/-- A call is let through only by a counter that stays at zero or above. -/
theorem proceed_promised (seatIds : Json) {phase after : ReservationPhase} {stores : ReservationStores}
    (h : phase.proceed eventId stores = some after) :
    after.promised ≤ phase.promised ∨ 0 ≤ (phase.effect eventId seatIds stores).stock := by
  cases phase with
  | idle | answered _ | pending _ | crashed => cases h
  | locking order =>
      unfold ReservationPhase.proceed at h
      dsimp only at h
      split at h
      next => split at h <;> obtain rfl := Option.some.inj h <;> exact .inl (le_refl _)
      next => cases h
  | locked order =>
      unfold ReservationPhase.proceed at h
      dsimp only at h
      split at h
      next =>
        obtain rfl := Option.some.inj h
        exact .inl (le_refl _)
      next henough => exact .inr (not_lt.mp henough)
  | overdrawn order | unlocked order | restocked order | stocked order | failing _ order =>
      obtain rfl := Option.some.inj h
      exact .inl (le_refl _)

theorem raise_owed_iff (seatIds : Json) {phase after : ReservationPhase} {stores : ReservationStores}
    {executed : Bool} (hseats : ∀ order, phase.order = some order → order.seatIds ≠ [])
    (h : phase.raise eventId stores executed = some after) :
    (if executed then phase.effect eventId seatIds stores else stores).stock + after.owed =
        stores.stock + phase.owed ↔
      phase.RaiseKeeps executed := by
  cases phase with
  | idle | answered _ | pending _ | crashed => cases h
  | locking order =>
      obtain rfl := Option.some.inj h
      have hstock : ((ReservationPhase.locking order).effect eventId seatIds stores).stock =
          stores.stock := by
        simp only [ReservationPhase.effect]
        split <;> rfl
      have hpos := hseats order rfl
      cases executed <;>
        simp [ReservationPhase.RaiseKeeps, ReservationPhase.owed, hstock, hpos]
  | locked order | overdrawn order | restocked order | stocked order | failing _ order
  | unlocked order =>
      obtain rfl := Option.some.inj h
      have hpos := hseats order rfl
      cases executed <;>
        simp [ReservationPhase.effect, ReservationPhase.owed, ReservationPhase.RaiseKeeps, hpos]

theorem raise_promised {phase after : ReservationPhase} {stores : ReservationStores}
    {executed : Bool} (h : phase.raise eventId stores executed = some after) :
    after.promised ≤ phase.promised := by
  cases phase with
  | idle | answered _ | pending _ | crashed => cases h
  | locking order | locked order | overdrawn order | restocked order | failing _ order
  | unlocked order =>
      obtain rfl := Option.some.inj h
      exact le_refl _
  | stocked order =>
      obtain rfl := Option.some.inj h
      exact Int.natCast_nonneg _

/-! ## One step -/

theorem owed_move (call : Nat) (hmem : call ∈ group) (phase : ReservationPhase)
    (stores : ReservationStores) :
    (s.move call phase stores).owed group = s.owed group - (s.phase call).owed + phase.owed := by
  have hmove := outstanding_move (fun c => (s.phase c).owed)
    (fun c => ((s.move call phase stores).phase c).owed) hmem fun other hother =>
      congrArg ReservationPhase.owed (ReservationState.move_other hother)
  rwa [ReservationState.move_same] at hmove

theorem promised_move (call : Nat) (hmem : call ∈ group) (phase : ReservationPhase)
    (stores : ReservationStores) :
    (s.move call phase stores).promised group =
      s.promised group - (s.phase call).promised + phase.promised := by
  have hmove := outstanding_move (fun c => (s.phase c).promised)
    (fun c => ((s.move call phase stores).phase c).promised) hmem fun other hother =>
      congrArg ReservationPhase.promised (ReservationState.move_other hother)
  rwa [ReservationState.move_same] at hmove

theorem promised_le_owed : s.promised group ≤ s.owed group :=
  outstanding_le fun _ => ReservationPhase.promised_le_owed _

/-- A call that starts has taken nothing yet. -/
theorem start_owed {call : Nat}
    (h : reservationStep eventId calls s (.start call) = some next) :
    s.phase call = .idle ∧ ∃ phase, next = s.move call phase s.stores ∧
      phase.owed = 0 ∧ phase.promised = 0 := by
  unfold reservationStep at h
  dsimp only at h
  split at h
  next hidle =>
    refine ⟨hidle, ?_⟩
    split at h <;> exact ⟨_, (Option.some.inj h).symm, rfl, rfl⟩
  next => cases h

/-- A call that waits for a command has seats. -/
theorem AllChecked.seats_ne_nil (hchecked : AllChecked eventId calls s) {call : Nat}
    {order : ReservationOrder} (horder : (s.phase call).order = some order) :
    order.seatIds ≠ [] :=
  List.ne_nil_of_length_pos (seats_pos_of_ready (hchecked call order horder).1)

theorem stockStep_call {step : ReservationStep}
    (h : stockStep eventId calls group s (.call step) = some next) :
    step.caller ∈ group ∧ reservationStep eventId calls s step = some next := by
  simp only [stockStep] at h
  split at h
  next hmem => exact ⟨hmem, h⟩
  next => cases h

theorem AllChecked.stockStep {a : StockStep} (hchecked : AllChecked eventId calls s)
    (h : stockStep eventId calls group s a = some next) : AllChecked eventId calls next := by
  cases a with
  | call step => exact hchecked.step (stockStep_call h).2
  | expire key =>
      obtain rfl := Option.some.inj h
      exact hchecked
  | restart count =>
      obtain rfl := Option.some.inj h
      exact hchecked

/-- What a step adds to the counter and to what is owed. -/
theorem balance_step_iff {a : StockStep} (hchecked : AllChecked eventId calls s)
    (h : stockStep eventId calls group s a = some next) :
    next.stores.stock + next.owed group = s.stores.stock + s.owed group ↔ KeepsStock s a := by
  cases a with
  | expire key =>
      obtain rfl := Option.some.inj h
      simp [KeepsStock, ReservationState.owed]
  | restart count =>
      obtain rfl := Option.some.inj h
      cases count with
      | none => simp [KeepsStock, ReservationStores.initialise, ReservationState.owed]
      | some cnt => simp [KeepsStock, ReservationStores.initialise, ReservationState.owed]
  | call step =>
      obtain ⟨hmem, hstep⟩ := stockStep_call h
      cases step with
      | start call =>
          obtain ⟨hidle, phase, rfl, howed, _⟩ := start_owed hstep
          rw [owed_move call hmem, hidle, howed]
          simp [KeepsStock, ReservationPhase.owed]
      | proceed call =>
          obtain ⟨phase, hphase, rfl⟩ := proceed_cases hstep
          have howed := proceed_owed (calls call).seatIds hphase
          rw [owed_move call hmem]
          simp only [KeepsStock, iff_true, ReservationState.move_stores]
          omega
      | raise call executed =>
          obtain ⟨phase, hphase, rfl⟩ := raise_call_cases hstep
          have howed := raise_owed_iff (calls call).seatIds
            (fun order => hchecked.seats_ne_nil) hphase
          rw [owed_move call hmem]
          simp only [KeepsStock, ReservationState.move_stores, ← howed]
          omega

/-- What has been promised grows only in a step behind which the counter is at zero
or above. -/
theorem promised_step {a : StockStep} (h : stockStep eventId calls group s a = some next) :
    next.promised group ≤ s.promised group ∨ 0 ≤ next.stores.stock := by
  cases a with
  | expire key | restart count =>
      obtain rfl := Option.some.inj h
      exact .inl (le_refl _)
  | call step =>
      obtain ⟨hmem, hstep⟩ := stockStep_call h
      cases step with
      | start call =>
          obtain ⟨hidle, phase, rfl, _, hpromised⟩ := start_owed hstep
          rw [promised_move call hmem, hidle, hpromised]
          exact .inl (by simp [ReservationPhase.promised])
      | proceed call =>
          obtain ⟨phase, hphase, rfl⟩ := proceed_cases hstep
          rw [promised_move call hmem]
          rcases proceed_promised (calls call).seatIds hphase with hle | hstock
          · exact .inl (by omega)
          · exact .inr hstock
      | raise call executed =>
          obtain ⟨phase, hphase, rfl⟩ := raise_call_cases hstep
          have hle := raise_promised hphase
          rw [promised_move call hmem]
          exact .inl (by omega)

/-! ## Whole runs -/

/-- The counter and what is owed add up to the stock at first. -/
def StockBalanced (group : Finset Nat) (stock : Int) (s : ReservationState) : Prop :=
  s.stores.stock + s.owed group = stock

theorem stockBalanced_start (stores : ReservationStores) :
    StockBalanced group stores.stock (.start stores) := by
  simp [StockBalanced, ReservationState.owed, ReservationState.start, ReservationPhase.owed]

theorem stock_run_checked {stores : ReservationStores} {steps : List StockStep}
    {final : ReservationState}
    (hrun : (stockMachine eventId calls group).run (.start stores) steps = some final) :
    AllChecked eventId calls final :=
  Machine.run_invariant (fun _ _ _ hchecked h => hchecked.stockStep h) allChecked_start hrun

/-- A call that nothing gets in the way of, in the run of a group. -/
def uninterrupted (call : Nat) : List StockStep := (callSteps call).map .call

/-- In a run whose steps keep the stock, never more seats are promised than there were
at first, and once every call has been answered the counter is what is left of them. -/
theorem never_oversold (eventId : String) (calls : Nat → ReservationCall)
    (group : Finset Nat) {stores : ReservationStores} {steps : List StockStep}
    {final : ReservationState} (hstock : 0 ≤ stores.stock)
    (hrun : (stockMachine eventId calls group).run (.start stores) steps = some final)
    (halong : (stockMachine eventId calls group).Along KeepsStock (.start stores) steps) :
    final.promised group ≤ stores.stock ∧
      ((∀ call ∈ group, (final.phase call).ended = true) →
        final.stores.stock = stores.stock - final.promised group) := by
  have hstep : ∀ s a next,
      (AllChecked eventId calls s ∧ StockBalanced group stores.stock s ∧
        s.promised group ≤ stores.stock) → KeepsStock s a →
      (stockMachine eventId calls group).step s a = some next →
        AllChecked eventId calls next ∧ StockBalanced group stores.stock next ∧
          next.promised group ≤ stores.stock := by
    rintro s a next ⟨hchecked, hbalanced, hpromised⟩ hkeeps h
    have hbalance : StockBalanced group stores.stock next :=
      ((balance_step_iff hchecked h).mpr hkeeps).trans hbalanced
    refine ⟨hchecked.stockStep h, hbalance, ?_⟩
    rcases promised_step h with hle | hnonneg
    · exact hle.trans hpromised
    · -- what is promised is owed, and what is owed is not on the counter
      have hle : next.promised group ≤ next.owed group := promised_le_owed
      unfold StockBalanced at hbalance
      omega
  have hinit : (ReservationState.start stores).promised group ≤ stores.stock := by
    simpa [ReservationState.promised, ReservationState.start, ReservationPhase.promised]
      using hstock
  obtain ⟨_, hbalanced, hpromised⟩ := Machine.run_invariant_along hstep
    ⟨allChecked_start, stockBalanced_start stores, hinit⟩ halong hrun
  refine ⟨hpromised, fun hended => ?_⟩
  have howed : final.owed group = final.promised group := by
    apply outstanding_congr
    intro call hcall
    have hend := hended call hcall
    cases hphase : final.phase call with
    | idle | answered _ | pending _ | crashed => rfl
    | locking _ | locked _ | overdrawn _ | restocked _ | stocked _ | failing _ _ | unlocked _ =>
        rw [hphase] at hend
        cases hend
  unfold StockBalanced at hbalanced
  omega

/-- Of two seats the first call gets both, and the second one is turned away. -/
theorem never_oversold_twoSeats : ∃ final,
    (stockMachine "e1" overlappingCalls {0, 1}).run (.start ⟨.empty, 2, []⟩)
        (uninterrupted 0 ++ (uninterrupted 1 ++ [.call (.proceed 1)])) = some final ∧
      (final.phase 1).reply = some .soldOut ∧
      final.promised {0, 1} ≤ 2 ∧ final.stores.stock = 2 - final.promised {0, 1} := by
  obtain ⟨final, hrun, hfirst, hsecond, hreply⟩ : ∃ final,
      (stockMachine "e1" overlappingCalls {0, 1}).run (.start ⟨.empty, 2, []⟩)
          (uninterrupted 0 ++ (uninterrupted 1 ++ [.call (.proceed 1)])) = some final ∧
        (final.phase 0).ended = true ∧ (final.phase 1).ended = true ∧
        (final.phase 1).reply = some .soldOut := ⟨_, rfl, rfl, rfl, rfl⟩
  have halong : (stockMachine "e1" overlappingCalls {0, 1}).Along KeepsStock
      (.start ⟨.empty, 2, []⟩)
      (uninterrupted 0 ++ (uninterrupted 1 ++ [.call (.proceed 1)])) :=
    .cons rfl trivial (.cons rfl trivial (.cons rfl trivial (.cons rfl trivial
      (.cons rfl trivial (.cons rfl trivial (.cons rfl trivial (.cons rfl trivial
        (.cons rfl trivial trivial))))))))
  obtain ⟨hpromised, hleft⟩ := never_oversold "e1" overlappingCalls {0, 1} (by decide) hrun halong
  refine ⟨final, hrun, hreply, hpromised, hleft fun call hcall => ?_⟩
  rcases Finset.mem_insert.mp hcall with rfl | hone
  · exact hfirst
  · rw [Finset.mem_singleton.mp hone]
    exact hsecond

end Stock

end Ticketing
