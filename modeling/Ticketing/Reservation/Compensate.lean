import Ticketing.Reservation.Exclusive

/-!
# What a failed request undoes

One call of `create_reservation`, of which any set of commands raises without having
taken effect. Its `except` branch deletes the lock and puts the seats back into the
stock, whether the call has locked and taken them or not.
-/

namespace Ticketing

open Foundation Python

/-! ## The commands of a call -/

/-- A call gives each of its commands at most once. -/
inductive ReservationCommand where
  | setNx
  | decrby
  /-- of a call that is sold out -/
  | incrby
  | del
  | send
  /-- of the `except` branch -/
  | exceptDel
  | exceptIncrby
deriving DecidableEq, Repr

namespace ReservationPhase

/-- The command that the phase waits for. -/
def command : ReservationPhase → Option ReservationCommand
  | locking _ => some .setNx
  | locked _ => some .decrby
  | overdrawn _ => some .incrby
  | restocked _ => some .del
  | stocked _ => some .send
  | failing _ _ => some .exceptDel
  | unlocked _ => some .exceptIncrby
  | idle | answered _ | pending _ | crashed => none

/-- redis-py raises in front of the command. -/
def unsendable : ReservationPhase → Bool
  | locking order => !redisAccepts order.userId
  | _ => false

/-- The next step of a call, if it is the commands in `raises` that raise. -/
def nextStep (raises : ReservationCommand → Bool) (call : Nat) (phase : ReservationPhase) :
    Option ReservationStep :=
  match phase with
  | idle => some (.start call)
  | phase => phase.command.map fun command =>
      if raises command || phase.unsendable then .raise call false else .proceed call

/-- How many commands are left at most. -/
def rank : ReservationPhase → Nat
  | idle => 7
  | locking _ => 6
  | locked _ => 5
  | overdrawn _ => 4
  | restocked _ | stocked _ => 3
  | failing _ _ => 2
  | unlocked _ => 1
  | answered _ | pending _ | crashed => 0

end ReservationPhase

/-- A step of the call alone, with the commands in `raises` raising. -/
def Alone (raises : ReservationCommand → Bool) (call : Nat) (s : ReservationState)
    (a : ReservationStep) : Prop :=
  (s.phase call).nextStep raises call = some a

/-! ## What is to be undone -/

/-- A call that has ended has its seats out of the stock if it was answered PENDING.
Otherwise the stock is as before the call, no lock of the call is left, and no other
one is gone. -/
def Compensated (before after : ReservationStores) : ReservationPhase → Prop
  | .pending order => after.stock = before.stock - order.seatIds.length
  | _ => after.stock = before.stock ∧ after.locks = before.locks

section Failures

variable (eventId : String) (raises : ReservationCommand → Bool) (start : ReservationStores)
  (order : ReservationOrder)

/-- The stock does not cover the seats. -/
def ReservationOrder.Short : Prop := start.stock < order.seatIds.length

instance : Decidable (order.Short start) := inferInstanceAs (Decidable (_ < _))

/-- The command that takes the call into its `except` branch, if there is one. -/
def firstRaise : Option ReservationCommand :=
  if raises .setNx || !redisAccepts order.userId then some .setNx
  else if start.locks.free (lockKey eventId order.seatIds) = false then none
  else if raises .decrby then some .decrby
  else if order.Short start then
    if raises .incrby then some .incrby else if raises .del then some .del else none
  else if raises .send then some .send else none

/-- What the `except` branch does is what there is to undo behind the command. -/
def Undoes : ReservationCommand → Prop
  -- neither locked nor taken
  | .setNx => raises .exceptDel = true ∨
      raises .exceptIncrby = true ∧ start.locks.free (lockKey eventId order.seatIds) = true
  -- locked, and not taken or already put back
  | .decrby | .del => raises .exceptDel = false ∧ raises .exceptIncrby = true
  -- locked and taken
  | .incrby | .send => raises .exceptDel = false ∧ raises .exceptIncrby = false
  | .exceptDel | .exceptIncrby => True

/-- Whatever takes the call into its `except` branch, that branch undoes what there is
to undo. -/
def Recovers (call : ReservationCall) : Prop :=
  ∀ order, readReservation eventId call = .ready order →
    ∀ command ∈ firstRaise eventId raises start order, Undoes eventId raises start order command

/-! ## How far a call has come -/

/-- The SET NX of the call takes effect. -/
def Granted : Prop :=
  raises .setNx = false ∧ redisAccepts order.userId = true ∧
    start.locks.free (lockKey eventId order.seatIds) = true

/-- The locks as the call finds them at its `except` branch. -/
def locksAt : ReservationCommand → Leases String Json
  | .setNx => start.locks
  | _ => (start.locks.setNx order.userId (lockKey eventId order.seatIds)).2

/-- The stock as the call finds it at its `except` branch. -/
def stockAt : ReservationCommand → Int
  | .incrby | .send => start.stock - order.seatIds.length
  | _ => start.stock

/-- What is known of a call in each of its phases. -/
def Reached (call : ReservationCall) (stores : ReservationStores) : ReservationPhase → Prop
  | .idle => stores = start
  | .locking order => readReservation eventId call = .ready order ∧ stores = start
  | .locked order => readReservation eventId call = .ready order ∧
      Granted eventId raises start order ∧
      stores.locks = locksAt eventId start order .decrby ∧ stores.stock = start.stock
  | .overdrawn order => readReservation eventId call = .ready order ∧
      Granted eventId raises start order ∧ raises .decrby = false ∧ order.Short start ∧
      stores.locks = locksAt eventId start order .incrby ∧
      stores.stock = start.stock - order.seatIds.length
  | .restocked order => readReservation eventId call = .ready order ∧
      Granted eventId raises start order ∧ raises .decrby = false ∧ order.Short start ∧
      raises .incrby = false ∧
      stores.locks = locksAt eventId start order .del ∧ stores.stock = start.stock
  | .stocked order => readReservation eventId call = .ready order ∧
      Granted eventId raises start order ∧ raises .decrby = false ∧ ¬ order.Short start ∧
      stores.locks = locksAt eventId start order .send ∧
      stores.stock = start.stock - order.seatIds.length
  | .failing _ order => readReservation eventId call = .ready order ∧
      ∃ command, firstRaise eventId raises start order = some command ∧
        stores.locks = locksAt eventId start order command ∧
        stores.stock = stockAt start order command
  | .unlocked order => readReservation eventId call = .ready order ∧ raises .exceptDel = false ∧
      ∃ command, firstRaise eventId raises start order = some command ∧
        stores.locks =
          (locksAt eventId start order command).del [lockKey eventId order.seatIds] ∧
        stores.stock = stockAt start order command
  | phase => Compensated start stores phase ↔ Recovers eventId raises start call

end Failures

section Steps

variable {eventId : String} {raises : ReservationCommand → Bool} {start : ReservationStores}
  {order : ReservationOrder} {call : ReservationCall} {seatIds : Json}

/-- A value that is truthy and can be iterated has an item. -/
theorem iterate_ne_nil {value : Json} {items : List Json} (htruthy : value.truthy = true)
    (h : value.iterate = some items) : items ≠ [] := by
  rintro rfl
  cases value with
  | arr items =>
      obtain rfl := Option.some.inj h
      cases htruthy
  | obj fields =>
      obtain rfl : fields = [] := by simpa [Json.iterate] using h
      cases htruthy
  | str text =>
      obtain rfl : text = "" := by simpa [Json.iterate] using h
      cases htruthy
  | null | bool _ | int _ | float _ => cases h

/-- A request that passes the checks names a seat. -/
theorem seats_pos_of_ready (h : readReservation eventId call = .ready order) :
    0 < order.seatIds.length := by
  unfold readReservation at h
  dsimp only at h
  split at h
  next hchecks =>
    split at h
    next => cases h
    next sorted hsorted =>
      obtain rfl := ReservationCheck.ready.inj h
      simp only [Bool.and_eq_true] at hchecks
      obtain ⟨items, hitems, hsorted⟩ := Option.bind_eq_some_iff.mp hsorted
      obtain ⟨texts, htexts, hsorted⟩ := Option.bind_eq_some_iff.mp hsorted
      obtain rfl := Option.some.inj hsorted
      rw [List.length_insertionSort]
      cases items with
      | nil => exact absurd rfl (iterate_ne_nil hchecks.2 hitems)
      | cons item rest =>
          rw [List.mapM_cons] at htexts
          obtain ⟨text, _, htexts⟩ := Option.bind_eq_some_iff.mp htexts
          obtain ⟨others, _, htexts⟩ := Option.bind_eq_some_iff.mp htexts
          obtain rfl := Option.some.inj htexts
          exact Nat.succ_pos _
  next => cases h

/-! ## The `except` branch -/

theorem firstRaise_of_granted (h : Granted eventId raises start order) :
    firstRaise eventId raises start order =
      if raises .decrby then some .decrby
      else if order.Short start then
        if raises .incrby then some .incrby else if raises .del then some .del else none
      else if raises .send then some .send else none := by
  obtain ⟨hset, haccepts, hfree⟩ := h
  simp [firstRaise, hset, haccepts, hfree]

/-- Only a call that has its lock comes to a command behind SET NX. -/
theorem firstRaise_cases {command : ReservationCommand}
    (h : firstRaise eventId raises start order = some command) :
    command = .setNx ∨ Granted eventId raises start order ∧
      (command = .decrby ∨ command = .del ∨ command = .incrby ∨ command = .send) := by
  by_cases hset : (raises .setNx || !redisAccepts order.userId) = true
  · rw [firstRaise, if_pos hset] at h
    exact .inl (Option.some.inj h).symm
  · by_cases htaken : start.locks.free (lockKey eventId order.seatIds) = false
    · rw [firstRaise, if_neg hset, if_pos htaken] at h
      cases h
    · have hgranted : Granted eventId raises start order := by
        simp only [Bool.or_eq_true, Bool.not_eq_true', not_or, Bool.not_eq_true,
          Bool.not_eq_false] at hset htaken
        exact ⟨hset.1, hset.2, htaken⟩
      refine .inr ⟨hgranted, ?_⟩
      rw [firstRaise_of_granted hgranted] at h
      split at h
      next => exact .inl (Option.some.inj h).symm
      next =>
        split at h
        next =>
          split at h
          next => exact .inr (.inr (.inl (Option.some.inj h).symm))
          next =>
            split at h
            next => exact .inr (.inl (Option.some.inj h).symm)
            next => cases h
        next =>
          split at h
          next => exact .inr (.inr (.inr (Option.some.inj h).symm))
          next => cases h

theorem recovers_of_unread (hunread : ∀ order, readReservation eventId call ≠ .ready order) :
    Recovers eventId raises start call :=
  fun order hready => absurd hready (hunread order)

theorem recovers_of_none (hread : readReservation eventId call = .ready order)
    (hnone : firstRaise eventId raises start order = none) :
    Recovers eventId raises start call := by
  intro other hother command hcommand
  obtain rfl : order = other := ReservationCheck.ready.inj (hread.symm.trans hother)
  rw [hnone] at hcommand
  cases hcommand

theorem recovers_iff {command : ReservationCommand}
    (hread : readReservation eventId call = .ready order)
    (hfirst : firstRaise eventId raises start order = some command) :
    Recovers eventId raises start call ↔ Undoes eventId raises start order command := by
  constructor
  · exact fun h => h order hread command hfirst
  · intro h other hother found hfound
    obtain rfl : order = other := ReservationCheck.ready.inj (hread.symm.trans hother)
    obtain rfl : command = found := Option.some.inj (hfirst.symm.trans hfound)
    exact h

section Except

variable {command : ReservationCommand}

/-- The DEL of the `except` branch raises. -/
theorem undoes_of_exceptDel (hfirst : firstRaise eventId raises start order = some command)
    (hraises : raises .exceptDel = true) :
    (stockAt start order command = start.stock ∧
        locksAt eventId start order command = start.locks) ↔
      Undoes eventId raises start order command := by
  rcases firstRaise_cases hfirst with rfl | ⟨⟨_, _, hfree⟩, hcommand⟩
  · exact iff_of_true ⟨rfl, rfl⟩ (.inl hraises)
  · -- the lock stays behind
    have hkept := @Leases.setNx_ne_self _ _ _ _ order.userId _ hfree
    rcases hcommand with rfl | rfl | rfl | rfl <;>
      exact iff_of_false (fun h => hkept h.2) (by simp [Undoes, hraises])

/-- The INCRBY of the `except` branch raises. -/
theorem undoes_of_exceptIncrby (hread : readReservation eventId call = .ready order)
    (hfirst : firstRaise eventId raises start order = some command)
    (hdel : raises .exceptDel = false) (hraises : raises .exceptIncrby = true) :
    (stockAt start order command = start.stock ∧
        (locksAt eventId start order command).del [lockKey eventId order.seatIds] =
          start.locks) ↔
      Undoes eventId raises start order command := by
  rcases firstRaise_cases hfirst with rfl | ⟨⟨_, _, hfree⟩, hcommand⟩
  · simp [Undoes, hdel, hraises, stockAt, locksAt, Leases.del_eq_self_iff]
  · have hpos := seats_pos_of_ready hread
    have hgone := @Leases.del_setNx _ _ _ _ order.userId _ hfree
    rcases hcommand with rfl | rfl | rfl | rfl
    · exact iff_of_true ⟨rfl, hgone⟩ ⟨hdel, hraises⟩
    · exact iff_of_true ⟨rfl, hgone⟩ ⟨hdel, hraises⟩
    · exact iff_of_false (fun h => by have := h.1; simp only [stockAt] at this; omega)
        (by simp [Undoes, hraises])
    · exact iff_of_false (fun h => by have := h.1; simp only [stockAt] at this; omega)
        (by simp [Undoes, hraises])

/-- The `except` branch goes through. -/
theorem undoes_of_excepted (hread : readReservation eventId call = .ready order)
    (hfirst : firstRaise eventId raises start order = some command)
    (hdel : raises .exceptDel = false) (hincrby : raises .exceptIncrby = false) :
    (stockAt start order command + order.seatIds.length = start.stock ∧
        (locksAt eventId start order command).del [lockKey eventId order.seatIds] =
          start.locks) ↔
      Undoes eventId raises start order command := by
  have hpos := seats_pos_of_ready hread
  rcases firstRaise_cases hfirst with rfl | ⟨⟨_, _, hfree⟩, hcommand⟩
  · exact iff_of_false (fun h => by have := h.1; simp only [stockAt] at this; omega)
      (by simp [Undoes, hdel, hincrby])
  · have hgone := @Leases.del_setNx _ _ _ _ order.userId _ hfree
    rcases hcommand with rfl | rfl | rfl | rfl
    · exact iff_of_false (fun h => by have := h.1; simp only [stockAt] at this; omega)
        (by simp [Undoes, hincrby])
    · exact iff_of_false (fun h => by have := h.1; simp only [stockAt] at this; omega)
        (by simp [Undoes, hincrby])
    · exact iff_of_true ⟨by simp only [stockAt]; omega, hgone⟩ ⟨hdel, hincrby⟩
    · exact iff_of_true ⟨by simp only [stockAt]; omega, hgone⟩ ⟨hdel, hincrby⟩

end Except

/-! ## The steps of one call -/

theorem nextStep_cases {phase : ReservationPhase} {caller : Nat} {a : ReservationStep}
    (h : phase.nextStep raises caller = some a) :
    phase = .idle ∧ a = .start caller ∨
      ∃ command, phase.command = some command ∧
        (raises command = false ∧ phase.unsendable = false ∧ a = .proceed caller ∨
          (raises command = true ∨ phase.unsendable = true) ∧ a = .raise caller false) := by
  unfold ReservationPhase.nextStep at h
  split at h
  next => exact .inl ⟨rfl, (Option.some.inj h).symm⟩
  next =>
    obtain ⟨command, hcommand, h⟩ := Option.map_eq_some_iff.mp h
    refine .inr ⟨command, hcommand, ?_⟩
    split at h
    next hraises =>
      rw [Bool.or_eq_true] at hraises
      exact .inr ⟨hraises, h.symm⟩
    next hraises =>
      rw [Bool.or_eq_true, not_or, Bool.not_eq_true, Bool.not_eq_true] at hraises
      exact .inl ⟨hraises.1, hraises.2, h.symm⟩

/-- A command is answered. -/
theorem Reached.proceed {phase after : ReservationPhase} {stores : ReservationStores}
    {command : ReservationCommand} (h : Reached eventId raises start call stores phase)
    (hcommand : phase.command = some command) (hraises : raises command = false)
    (hsend : phase.unsendable = false) (hproceed : phase.proceed eventId stores = some after) :
    Reached eventId raises start call (phase.effect eventId seatIds stores) after := by
  cases phase with
  | idle | answered _ | pending _ | crashed => cases hcommand
  | locking order =>
      obtain rfl := Option.some.inj hcommand
      obtain ⟨hread, rfl⟩ := h
      have haccepts : redisAccepts order.userId = true := by
        simpa [ReservationPhase.unsendable] using hsend
      unfold ReservationPhase.proceed at hproceed
      simp only [if_pos haccepts] at hproceed
      unfold ReservationPhase.effect
      simp only [if_pos haccepts]
      split at hproceed
      next hfree =>
        obtain rfl := Option.some.inj hproceed
        exact ⟨hread, ⟨hraises, haccepts, hfree⟩, rfl, rfl⟩
      next htaken =>
        obtain rfl := Option.some.inj hproceed
        have hnone : firstRaise eventId raises stores order = none := by
          simp [firstRaise, hraises, haccepts, htaken]
        refine iff_of_true ⟨rfl, ?_⟩ (recovers_of_none hread hnone)
        rw [Leases.setNx, if_neg htaken]
  | locked order =>
      obtain rfl := Option.some.inj hcommand
      obtain ⟨hread, hgranted, hlocks, hstock⟩ := h
      unfold ReservationPhase.proceed at hproceed
      simp only [hstock] at hproceed
      split at hproceed
      next hshort =>
        obtain rfl := Option.some.inj hproceed
        refine ⟨hread, hgranted, hraises, ?_, hlocks, congrArg (· - _) hstock⟩
        unfold ReservationOrder.Short
        omega
      next hcovered =>
        obtain rfl := Option.some.inj hproceed
        refine ⟨hread, hgranted, hraises, ?_, hlocks, congrArg (· - _) hstock⟩
        unfold ReservationOrder.Short
        omega
  | overdrawn order =>
      obtain rfl := Option.some.inj hcommand
      obtain ⟨hread, hgranted, hdecrby, hshort, hlocks, hstock⟩ := h
      obtain rfl := Option.some.inj hproceed
      refine ⟨hread, hgranted, hdecrby, hshort, hraises, hlocks, ?_⟩
      unfold ReservationPhase.effect
      simp only [hstock]
      omega
  | restocked order =>
      obtain rfl := Option.some.inj hcommand
      obtain ⟨hread, hgranted, hdecrby, hshort, hincrby, hlocks, hstock⟩ := h
      obtain rfl := Option.some.inj hproceed
      have hnone : firstRaise eventId raises start order = none := by
        simp [firstRaise_of_granted hgranted, hdecrby, hshort, hincrby, hraises]
      refine iff_of_true ⟨hstock, ?_⟩ (recovers_of_none hread hnone)
      unfold ReservationPhase.effect
      simp only [hlocks]
      exact Leases.del_setNx hgranted.2.2
  | stocked order =>
      obtain rfl := Option.some.inj hcommand
      obtain ⟨hread, hgranted, hdecrby, hcovered, hlocks, hstock⟩ := h
      obtain rfl := Option.some.inj hproceed
      have hnone : firstRaise eventId raises start order = none := by
        simp [firstRaise_of_granted hgranted, hdecrby, hcovered, hraises]
      exact iff_of_true hstock (recovers_of_none hread hnone)
  | failing owns order =>
      obtain rfl := Option.some.inj hcommand
      obtain ⟨hread, first, hfirst, hlocks, hstock⟩ := h
      obtain rfl := Option.some.inj hproceed
      exact ⟨hread, hraises, first, hfirst, congrArg (Leases.del · _) hlocks, hstock⟩
  | unlocked order =>
      obtain rfl := Option.some.inj hcommand
      obtain ⟨hread, hdel, first, hfirst, hlocks, hstock⟩ := h
      obtain rfl := Option.some.inj hproceed
      refine Iff.trans ?_ (recovers_iff hread hfirst).symm
      unfold ReservationPhase.effect
      simp only [Compensated, hlocks, hstock]
      exact undoes_of_excepted hread hfirst hdel hraises

/-- A command raises, without effect. -/
theorem Reached.raise {phase after : ReservationPhase} {stores : ReservationStores}
    {command : ReservationCommand} (h : Reached eventId raises start call stores phase)
    (hcommand : phase.command = some command)
    (hraises : raises command = true ∨ phase.unsendable = true)
    (hraise : phase.raise eventId stores false = some after) :
    Reached eventId raises start call stores after := by
  cases phase with
  | idle | answered _ | pending _ | crashed => cases hcommand
  | locking order =>
      obtain rfl := Option.some.inj hcommand
      obtain ⟨hread, rfl⟩ := h
      obtain rfl := Option.some.inj hraise
      refine ⟨hread, .setNx, if_pos ?_, rfl, rfl⟩
      rw [Bool.or_eq_true]
      exact hraises
  | locked order =>
      obtain rfl := Option.some.inj hcommand
      obtain ⟨hread, hgranted, hlocks, hstock⟩ := h
      obtain rfl := Option.some.inj hraise
      have hraises : raises .decrby = true := hraises.resolve_right nofun
      exact ⟨hread, .decrby, by simp [firstRaise_of_granted hgranted, hraises], hlocks, hstock⟩
  | overdrawn order =>
      obtain rfl := Option.some.inj hcommand
      obtain ⟨hread, hgranted, hdecrby, hshort, hlocks, hstock⟩ := h
      obtain rfl := Option.some.inj hraise
      have hraises : raises .incrby = true := hraises.resolve_right nofun
      exact ⟨hread, .incrby,
        by simp [firstRaise_of_granted hgranted, hdecrby, hshort, hraises], hlocks, hstock⟩
  | restocked order =>
      obtain rfl := Option.some.inj hcommand
      obtain ⟨hread, hgranted, hdecrby, hshort, hincrby, hlocks, hstock⟩ := h
      obtain rfl := Option.some.inj hraise
      have hraises : raises .del = true := hraises.resolve_right nofun
      exact ⟨hread, .del,
        by simp [firstRaise_of_granted hgranted, hdecrby, hshort, hincrby, hraises], hlocks, hstock⟩
  | stocked order =>
      obtain rfl := Option.some.inj hcommand
      obtain ⟨hread, hgranted, hdecrby, hcovered, hlocks, hstock⟩ := h
      obtain rfl := Option.some.inj hraise
      have hraises : raises .send = true := hraises.resolve_right nofun
      exact ⟨hread, .send,
        by simp [firstRaise_of_granted hgranted, hdecrby, hcovered, hraises], hlocks, hstock⟩
  | failing owns order =>
      obtain rfl := Option.some.inj hcommand
      obtain ⟨hread, first, hfirst, hlocks, hstock⟩ := h
      obtain rfl := Option.some.inj hraise
      refine Iff.trans ?_ (recovers_iff hread hfirst).symm
      simp only [Compensated, hlocks, hstock]
      exact undoes_of_exceptDel hfirst (hraises.resolve_right nofun)
  | unlocked order =>
      obtain rfl := Option.some.inj hcommand
      obtain ⟨hread, hdel, first, hfirst, hlocks, hstock⟩ := h
      obtain rfl := Option.some.inj hraise
      refine Iff.trans ?_ (recovers_iff hread hfirst).symm
      simp only [Compensated, hlocks, hstock]
      exact undoes_of_exceptIncrby hread hfirst hdel (hraises.resolve_right nofun)

/-! ## The whole call -/

section Runs

variable {calls : Nat → ReservationCall} {s next : ReservationState} {caller : Nat}

theorem Reached.step {a : ReservationStep}
    (h : Reached eventId raises start (calls caller) s.stores (s.phase caller))
    (halone : Alone raises caller s a) (hstep : reservationStep eventId calls s a = some next) :
    Reached eventId raises start (calls caller) next.stores (next.phase caller) := by
  rcases nextStep_cases halone with ⟨hidle, rfl⟩ | ⟨command, hcommand, hcases⟩
  · rw [hidle] at h
    unfold reservationStep at hstep
    simp only [hidle] at hstep
    split at hstep
    next hread =>
      obtain rfl := Option.some.inj hstep
      rw [ReservationState.move_same]
      exact iff_of_true ⟨congrArg _ h, congrArg _ h⟩
        (recovers_of_unread fun order hready => by rw [hread] at hready; cases hready)
    next hread =>
      obtain rfl := Option.some.inj hstep
      rw [ReservationState.move_same]
      exact iff_of_true ⟨congrArg _ h, congrArg _ h⟩
        (recovers_of_unread fun order hready => by rw [hread] at hready; cases hready)
    next order hread =>
      obtain rfl := Option.some.inj hstep
      rw [ReservationState.move_same]
      exact ⟨hread, h⟩
  · rcases hcases with ⟨hraises, hsend, rfl⟩ | ⟨hraises, rfl⟩
    · obtain ⟨phase, hphase, rfl⟩ := proceed_cases hstep
      rw [ReservationState.move_same]
      exact h.proceed hcommand hraises hsend hphase
    · obtain ⟨phase, hphase, rfl⟩ := raise_call_cases hstep
      rw [ReservationState.move_same]
      exact h.raise hcommand hraises hphase

/-- An answer brings the call nearer to its end. -/
theorem proceed_rank {phase : ReservationPhase} {command : ReservationCommand}
    (hcommand : phase.command = some command) (hsend : phase.unsendable = false)
    (stores : ReservationStores) :
    ∃ after, phase.proceed eventId stores = some after ∧ after.rank < phase.rank := by
  cases phase with
  | idle | answered _ | pending _ | crashed => cases hcommand
  | locking order =>
      have haccepts : redisAccepts order.userId = true := by
        simpa [ReservationPhase.unsendable] using hsend
      unfold ReservationPhase.proceed
      simp only [if_pos haccepts]
      split <;> exact ⟨_, rfl, by simp [ReservationPhase.rank]⟩
  | locked order =>
      unfold ReservationPhase.proceed
      dsimp only
      split <;> exact ⟨_, rfl, by simp [ReservationPhase.rank]⟩
  | overdrawn _ | restocked _ | stocked _ | failing _ _ | unlocked _ =>
      exact ⟨_, rfl, by simp [ReservationPhase.rank]⟩

/-- So does an exception. -/
theorem raise_rank {phase : ReservationPhase} {command : ReservationCommand}
    (hcommand : phase.command = some command) (stores : ReservationStores) :
    ∃ after, phase.raise eventId stores false = some after ∧ after.rank < phase.rank := by
  cases phase with
  | idle | answered _ | pending _ | crashed => cases hcommand
  | locking _ | locked _ | overdrawn _ | restocked _ | stocked _ | failing _ _ | unlocked _ =>
      exact ⟨_, rfl, by simp [ReservationPhase.rank]⟩

/-- A call that has not ended has a step to take, and comes nearer to its end. -/
theorem alone_step {a : ReservationStep} (halone : Alone raises caller s a) :
    ∃ next, reservationStep eventId calls s a = some next ∧
      (next.phase caller).rank < (s.phase caller).rank := by
  have hmove : ∀ {phase : ReservationPhase} {stores : ReservationStores},
      phase.rank < (s.phase caller).rank →
        ((s.move caller phase stores).phase caller).rank < (s.phase caller).rank := by
    intro phase stores hrank
    rwa [ReservationState.move_same]
  rcases nextStep_cases halone with ⟨hidle, rfl⟩ | ⟨command, hcommand, hcases⟩
  · rw [hidle] at hmove
    unfold reservationStep
    simp only [hidle]
    split <;> exact ⟨_, rfl, hmove (by simp [ReservationPhase.rank])⟩
  · rcases hcases with ⟨_, hsend, rfl⟩ | ⟨_, rfl⟩
    · obtain ⟨after, hafter, hrank⟩ := proceed_rank hcommand hsend s.stores
      exact ⟨_, congrArg (Option.map _) hafter, hmove hrank⟩
    · obtain ⟨after, hafter, hrank⟩ := raise_rank hcommand s.stores
      exact ⟨_, congrArg (Option.map _) hafter, hmove hrank⟩

/-- Whatever raises, the call ends. -/
theorem call_ends (eventId : String) (calls : Nat → ReservationCall)
    (raises : ReservationCommand → Bool) (s : ReservationState) (caller : Nat) :
    ∃ steps final, (reservationMachine eventId calls).run s steps = some final ∧
      (reservationMachine eventId calls).Along (Alone raises caller) s steps ∧
      (final.phase caller).nextStep raises caller = none := by
  have hstep : ∀ t a, (t.phase caller).nextStep raises caller = some a →
      ∃ next, (reservationMachine eventId calls).step t a = some next ∧
        (next.phase caller).rank < (t.phase caller).rank := fun _ _ halone => alone_step halone
  exact Machine.exists_run_of_rank hstep s

/-- A call that has ended, with any of its commands raising without effect, has
changed the stock and the locks as its answer says exactly if its `except` branch has
undone just what was to be undone. -/
theorem call_compensated_iff {final : ReservationState} {steps : List ReservationStep}
    (hidle : s.phase caller = .idle)
    (hrun : (reservationMachine eventId calls).run s steps = some final)
    (halong : (reservationMachine eventId calls).Along (Alone raises caller) s steps)
    (hended : (final.phase caller).nextStep raises caller = none) :
    Compensated s.stores final.stores (final.phase caller) ↔
      Recovers eventId raises s.stores (calls caller) := by
  have hstep : ∀ t a next,
      Reached eventId raises s.stores (calls caller) t.stores (t.phase caller) →
        Alone raises caller t a → (reservationMachine eventId calls).step t a = some next →
          Reached eventId raises s.stores (calls caller) next.stores (next.phase caller) :=
    fun _ _ _ h halone hnext => h.step halone hnext
  have hinit : Reached eventId raises s.stores (calls caller) s.stores (s.phase caller) := by
    rw [hidle]
    exact rfl
  have hreached := Machine.run_invariant_along hstep hinit halong hrun
  cases hphase : final.phase caller with
  | answered _ | pending _ | crashed =>
      rw [hphase] at hreached
      exact hreached
  | idle | locking _ | locked _ | overdrawn _ | restocked _ | stocked _ | failing _ _
  | unlocked _ =>
      rw [hphase] at hended
      cases hended

end Runs

end Steps

/-! ## A lock that somebody else holds -/

/-- Two requests for the seat A1. -/
def sameSeatCalls : Nat → ReservationCall
  | 0 => ⟨none, .str "u1", .arr [.str "A1"], "r1", "2026-01-01T00:10:00+00:00"⟩
  | _ => ⟨none, .str "u2", .arr [.str "A1"], "r2", "2026-01-01T00:10:00+00:00"⟩

/-- Only the given command raises. -/
def onlyRaises (command : ReservationCommand) : ReservationCommand → Bool := (· = command)

/-- The first request is answered PENDING. The SET NX of the second one raises: its
`except` branch deletes the lock of the first and adds a seat to the stock. -/
theorem failed_setNx_takes_lock : ∃ middle steps final,
    (reservationMachine "e1" sameSeatCalls).run (.start ⟨.empty, 10, []⟩) (callSteps 0) =
        some middle ∧
      (reservationMachine "e1" sameSeatCalls).run middle steps = some final ∧
      (reservationMachine "e1" sameSeatCalls).Along (Alone (onlyRaises .setNx) 1) middle steps ∧
      (final.phase 1).reply = some .failed ∧
      middle.stores.stock = 9 ∧ final.stores.stock = 10 ∧
      middle.stores.locks.free "seat:lock:e1:A1" = false ∧
      final.stores.locks.free "seat:lock:e1:A1" = true ∧
      ¬ Compensated middle.stores final.stores (final.phase 1) := by
  refine ⟨_, [.start 1, .raise 1 false, .proceed 1, .proceed 1], _, rfl, rfl, ?_, rfl, rfl, rfl,
    rfl, rfl, ?_⟩
  · exact .cons rfl rfl (.cons rfl rfl (.cons rfl rfl (.cons rfl rfl trivial)))
  · rintro ⟨hstock, _⟩
    exact absurd hstock (by decide)

/-- If the message cannot be sent, the `except` branch undoes everything. -/
theorem call_compensated_iff_notSent : ∃ steps final,
    (reservationMachine "e1" sameSeatCalls).run (.start ⟨.empty, 10, []⟩) steps = some final ∧
      final.phase 0 = .answered .failed ∧
      Compensated ⟨.empty, 10, []⟩ final.stores (final.phase 0) := by
  obtain ⟨final, hrun, hphase⟩ : ∃ final,
      (reservationMachine "e1" sameSeatCalls).run (.start ⟨.empty, 10, []⟩)
          [.start 0, .proceed 0, .proceed 0, .raise 0 false, .proceed 0, .proceed 0] =
        some final ∧ final.phase 0 = .answered .failed := ⟨_, rfl, rfl⟩
  have halong : (reservationMachine "e1" sameSeatCalls).Along (Alone (onlyRaises .send) 0)
      (.start ⟨.empty, 10, []⟩)
      [.start 0, .proceed 0, .proceed 0, .raise 0 false, .proceed 0, .proceed 0] :=
    .cons rfl rfl (.cons rfl rfl (.cons rfl rfl (.cons rfl rfl (.cons rfl rfl
      (.cons rfl rfl trivial)))))
  have hended : (final.phase 0).nextStep (onlyRaises .send) 0 = none := by rw [hphase]; rfl
  refine ⟨_, final, hrun, hphase, (call_compensated_iff rfl hrun halong hended).mpr ?_⟩
  intro order hread command hfirst
  obtain rfl := ReservationCheck.ready.inj hread
  obtain rfl : ReservationCommand.send = command := Option.some.inj hfirst
  exact ⟨rfl, rfl⟩

end Ticketing
