import Ticketing.Reservation.Payment

/-!
# What a payment cannot undo

`process_payment` reads the reservation and does not look at its status. So a
second answer for the same reservation pays again, or takes back what the first
one has settled, unless the statements happen to come at the right time.
-/

namespace Ticketing

open Foundation

section Terminal

variable {calls : Nat → PaymentCall} {s next : PaymentState} {db : PaymentTables}
variable {reservationId : String}

/-- Everything the reservation is done with in `db` is still so in `next`. -/
structure TerminalKept (reservationId : String) (db next : PaymentTables) : Prop where
  confirmed : db.statusOf reservationId = some .confirmed →
    next.statusOf reservationId = some .confirmed
  cancelled : db.statusOf reservationId = some .cancelled →
    next.statusOf reservationId = some .cancelled
  seatOf : ∀ seat, db.seatOf reservationId seat → next.seatOf reservationId seat
  /-- no seat of a CONFIRMED reservation is set back to AVAILABLE -/
  seats : db.statusOf reservationId = some .confirmed → ∀ seat, db.seatOf reservationId seat →
    db.seats seat ≠ some .available → next.seats seat ≠ some .available

theorem TerminalKept.refl : TerminalKept reservationId db db :=
  ⟨id, id, fun _ => id, fun _ _ _ => id⟩

theorem TerminalKept.trans {middle last : PaymentTables}
    (hfirst : TerminalKept reservationId db middle)
    (hsecond : TerminalKept reservationId middle last) : TerminalKept reservationId db last where
  confirmed h := hsecond.confirmed (hfirst.confirmed h)
  cancelled h := hsecond.cancelled (hfirst.cancelled h)
  seatOf seat h := hsecond.seatOf seat (hfirst.seatOf seat h)
  seats h seat hseat htaken :=
    hsecond.seats (hfirst.confirmed h) seat (hfirst.seatOf seat hseat)
      (hfirst.seats h seat hseat htaken)

/-! ## Statements -/

/-- The statement settles nothing that is already settled otherwise. -/
def SparesTerminal (reservationId : String) (call : PaymentCall) (db : PaymentTables) :
    PaymentPhase → Prop
  | .confirming _ => call.reservationId = reservationId →
      db.statusOf reservationId ≠ some .cancelled
  | .cancelling => call.reservationId = reservationId →
      db.statusOf reservationId ≠ some .confirmed
  | .freeing => db.statusOf reservationId = some .confirmed → ∀ seat status,
      db.seatOf call.reservationId seat → db.seatOf reservationId seat →
        db.seats seat = some status → status = .available
  | .idle | .selecting | .paying _ | .refusing _ | .answered _ => True

/-- The statement pays for the reservation only while there are no more than
`count` PAID payments. -/
def PaysOnce (reservationId : String) (count : Nat) (call : PaymentCall) (db : PaymentTables) :
    PaymentPhase → Prop
  | .paying _ => call.reservationId = reservationId → db.paidCount reservationId ≤ count
  | .idle | .selecting | .confirming _ | .refusing _ | .cancelling | .freeing | .answered _ => True

theorem PaymentTables.setStatus_statusOf (target : String) (status : ReservationStatus) :
    (db.setStatus target status).statusOf reservationId =
      if reservationId = target then (db.statusOf reservationId).map fun _ => status
      else db.statusOf reservationId := by
  simp only [setStatus, statusOf]
  split
  next => rw [Option.map_map, Option.map_map]; rfl
  next => rfl

theorem PaymentTables.insertPayment_paidCount (target : String) (amount : Int)
    (status : PaymentStatus) :
    (db.insertPayment target amount status).paidCount reservationId =
      db.paidCount reservationId + if target = reservationId ∧ status = .paid then 1 else 0 := by
  simp only [paidCount, insertPayment, List.countP_append, List.countP_singleton,
    decide_eq_true_eq]

/-- UPDATE reservations is harmless unless the reservation has got to another
terminal status. -/
theorem terminalKept_setStatus_confirmed (target : String) :
    TerminalKept reservationId db (db.setStatus target .confirmed) ↔
      (target = reservationId → db.statusOf reservationId ≠ some .cancelled) := by
  constructor
  · rintro hkept rfl hcancelled
    have hafter := hkept.cancelled hcancelled
    rw [PaymentTables.setStatus_statusOf, if_pos rfl, hcancelled] at hafter
    cases hafter
  · intro hspares
    refine ⟨fun hconfirmed => ?_, fun hcancelled => ?_, fun _ => id, fun _ _ _ => id⟩
    · rw [PaymentTables.setStatus_statusOf, hconfirmed]
      split <;> rfl
    · rw [PaymentTables.setStatus_statusOf, if_neg, hcancelled]
      exact fun hsame => hspares hsame.symm hcancelled

theorem terminalKept_setStatus_cancelled (target : String) :
    TerminalKept reservationId db (db.setStatus target .cancelled) ↔
      (target = reservationId → db.statusOf reservationId ≠ some .confirmed) := by
  constructor
  · rintro hkept rfl hconfirmed
    have hafter := hkept.confirmed hconfirmed
    rw [PaymentTables.setStatus_statusOf, if_pos rfl, hconfirmed] at hafter
    cases hafter
  · intro hspares
    refine ⟨fun hconfirmed => ?_, fun hcancelled => ?_, fun _ => id, fun _ _ _ => id⟩
    · rw [PaymentTables.setStatus_statusOf, if_neg, hconfirmed]
      exact fun hsame => hspares hsame.symm hconfirmed
    · rw [PaymentTables.setStatus_statusOf, hcancelled]
      split <;> rfl

theorem terminalKept_freeSeats (target : String) :
    TerminalKept reservationId db (db.freeSeats target) ↔
      (db.statusOf reservationId = some .confirmed → ∀ seat status, db.seatOf target seat →
        db.seatOf reservationId seat → db.seats seat = some status → status = .available) := by
  constructor
  · intro hkept hconfirmed seat status hfreed hseat hstatus
    by_contra htaken
    refine hkept.seats hconfirmed seat hseat (by rw [hstatus]; simpa using htaken) ?_
    simp only [PaymentTables.freeSeats, if_pos hfreed, hstatus, Option.map_some]
  · intro hspares
    refine ⟨id, id, fun _ => id, fun hconfirmed seat hseat htaken => ?_⟩
    simp only [PaymentTables.freeSeats]
    split
    next hfreed =>
      cases hstatus : db.seats seat with
      | none => simp
      | some status =>
          obtain rfl := hspares hconfirmed seat status hfreed hseat hstatus
          exact absurd hstatus htaken
    next => exact htaken

/-- A statement keeps what is settled exactly if it spares it. -/
theorem effect_terminalKept_iff (call : PaymentCall) (phase : PaymentPhase) :
    TerminalKept reservationId db (phase.effect call db) ↔
      SparesTerminal reservationId call db phase := by
  cases phase with
  | idle | selecting | answered _ => exact iff_of_true .refl trivial
  | paying _ | refusing _ =>
      exact iff_of_true ⟨id, id, fun _ => id, fun _ _ _ => id⟩ trivial
  | confirming _ => exact terminalKept_setStatus_confirmed call.reservationId
  | cancelling => exact terminalKept_setStatus_cancelled call.reservationId
  | freeing => exact terminalKept_freeSeats call.reservationId

theorem effect_paidCount_iff {count : Nat} (call : PaymentCall) (phase : PaymentPhase)
    (hpaid : db.paidCount reservationId ≤ count + 1) :
    (phase.effect call db).paidCount reservationId ≤ count + 1 ↔
      PaysOnce reservationId count call db phase := by
  cases phase with
  | idle | selecting | answered _ | confirming _ | cancelling | freeing =>
      exact iff_of_true hpaid trivial
  | refusing _ =>
      simp only [PaymentPhase.effect, PaymentTables.insertPayment_paidCount, PaysOnce]
      simpa using hpaid
  | paying _ =>
      simp only [PaymentPhase.effect, PaymentTables.insertPayment_paidCount, PaysOnce, and_true]
      split
      next hsame => simp [hsame]
      next hother => exact iff_of_true hpaid fun hsame => absurd hsame hother

/-! ## Runs -/

/-- The call whose statement takes effect. -/
def PaymentStep.executes : PaymentStep → Option Nat
  | .proceed call | .raise call true => some call
  | .raise _ false => none

theorem paymentStep_db {a : PaymentStep} (h : paymentStep calls s a = some next) :
    a.executes = none ∧ next.db = s.db ∨
      ∃ call, a.executes = some call ∧ next.db = (s.phase call).effect (calls call) s.db := by
  cases a with
  | proceed call =>
      obtain ⟨phase, _, rfl⟩ := Option.map_eq_some_iff.mp h
      exact .inr ⟨call, rfl, rfl⟩
  | raise call executed =>
      simp only [paymentStep] at h
      split at h
      next =>
        obtain rfl := Option.some.inj h
        cases executed with
        | false => exact .inl ⟨rfl, rfl⟩
        | true => exact .inr ⟨call, rfl, rfl⟩
      next => cases h

/-- The condition holds of the statement of the step, if one takes effect. -/
def OnStatement (calls : Nat → PaymentCall)
    (cond : PaymentCall → PaymentTables → PaymentPhase → Prop) (s : PaymentState)
    (a : PaymentStep) : Prop :=
  ∀ call, a.executes = some call → cond (calls call) s.db (s.phase call)

/-- The step pays no second time and settles nothing that is settled otherwise. -/
def StepSpares (calls : Nat → PaymentCall) (reservationId : String) (count : Nat)
    (s : PaymentState) (a : PaymentStep) : Prop :=
  OnStatement calls (PaysOnce reservationId count) s a ∧
    OnStatement calls (SparesTerminal reservationId) s a

theorem step_terminalKept_iff {a : PaymentStep} (h : paymentStep calls s a = some next) :
    TerminalKept reservationId s.db next.db ↔
      OnStatement calls (SparesTerminal reservationId) s a := by
  unfold OnStatement
  rcases paymentStep_db h with ⟨hnone, hdb⟩ | ⟨call, hcall, hdb⟩
  · rw [hdb, hnone]
    exact iff_of_true .refl nofun
  · rw [hdb, hcall, effect_terminalKept_iff]
    simp only [Option.some.injEq, forall_eq']

theorem step_paidCount_iff {a : PaymentStep} {count : Nat}
    (hpaid : s.db.paidCount reservationId ≤ count + 1) (h : paymentStep calls s a = some next) :
    next.db.paidCount reservationId ≤ count + 1 ↔
      OnStatement calls (PaysOnce reservationId count) s a := by
  unfold OnStatement
  rcases paymentStep_db h with ⟨hnone, hdb⟩ | ⟨call, hcall, hdb⟩
  · rw [hdb, hnone]
    exact iff_of_true hpaid nofun
  · rw [hdb, hcall, effect_paidCount_iff _ _ hpaid]
    simp only [Option.some.injEq, forall_eq']

/-- In the run, no two PAID payments are inserted for the reservation, and nothing
it is done with is undone. -/
structure PaymentsFinal (calls : Nat → PaymentCall) (reservationId : String) (s : PaymentState)
    (steps : List PaymentStep) : Prop where
  once : ∀ before after middle, steps = before ++ after →
    (paymentMachine calls).run s before = some middle →
      middle.db.paidCount reservationId ≤ s.db.paidCount reservationId + 1
  kept : ∀ before between after earlier later, steps = before ++ (between ++ after) →
    (paymentMachine calls).run s before = some earlier →
      (paymentMachine calls).run earlier between = some later →
        TerminalKept reservationId earlier.db later.db

end Terminal

/-! ## One reservation, paid and refused -/

/-- The reservation r1 is PENDING, and its seat s1 is RESERVED. -/
def pendingReservation : PaymentState where
  db := {
    reservations := fun id => if id = "r1" then some ⟨.pending, 5000000⟩ else none
    reservationSeats := [⟨"r1", "s1"⟩]
    seats := fun id => if id = "s1" then some .reserved else none
    payments := [] }
  phase := fun _ => .idle

/-- The call 1 is a refusal, the others are approvals. -/
def answersForR1 (call : Nat) : PaymentCall := ⟨"r1", .bool (decide (call ≠ 1))⟩

/-- A call from its start to its reply. -/
def wholeCall (call : Nat) : List PaymentStep :=
  List.replicate (if call = 1 then 5 else 4) (.proceed call)

end Ticketing
