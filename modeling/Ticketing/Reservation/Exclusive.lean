import Mathlib.Data.List.Basic
import Ticketing.Reservation.Create

/-!
# Who excludes whom

A call that is answered PENDING keeps its lock, so the calls with its lock key are
kept out, as long as no `except` branch deletes a lock that is not its own. Calls
with another key are not kept out, whatever seats they ask for.
-/

namespace Ticketing

open Foundation Python

section Exclusive

variable {eventId : String} {calls : Nat → ReservationCall} {s next : ReservationState}

/-! ## What the steps do to the locks -/

/-- What a step of a call does, as far as locks are concerned. -/
inductive ReservationPhase.Relocks (eventId : String) (before : ReservationStores) :
    ReservationPhase → ReservationPhase → ReservationStores → Prop where
  /-- the locks stay, and the call claims no more than before -/
  | keep {phase after : ReservationPhase} {stores : ReservationStores}
      (hlocks : stores.locks = before.locks)
      (hclaims : after.claims = none ∨ after.claims = phase.claims) :
      Relocks eventId before phase after stores
  /-- the call has set its lock -/
  | set {order : ReservationOrder} {after : ReservationPhase} {stores : ReservationStores}
      (hfree : before.locks.free (lockKey eventId order.seatIds) = true)
      (hlocks : stores.locks = (before.locks.setNx order.userId (lockKey eventId order.seatIds)).2)
      (hclaims : after.claims = some order) :
      Relocks eventId before (.locking order) after stores
  /-- the call has deleted the lock with its key -/
  | del {phase after : ReservationPhase} {stores : ReservationStores} {order : ReservationOrder}
      (hphase : phase.claims = some order ∨ phase = .failing false order)
      (hlocks : stores.locks = before.locks.del [lockKey eventId order.seatIds])
      (hclaims : after.claims = none) :
      Relocks eventId before phase after stores

theorem proceed_relocks {phase after : ReservationPhase} {stores : ReservationStores}
    {seatIds : Json} (h : phase.proceed eventId stores = some after) :
    phase.Relocks eventId stores after (phase.effect eventId seatIds stores) := by
  cases phase with
  | idle | answered _ | pending _ | crashed => cases h
  | locking order =>
      unfold ReservationPhase.proceed at h
      dsimp only at h
      split at h
      next haccepts =>
        have heffect : ((ReservationPhase.locking order).effect eventId seatIds stores).locks =
            (stores.locks.setNx order.userId (lockKey eventId order.seatIds)).2 := by
          unfold ReservationPhase.effect
          simp only [if_pos haccepts]
        split at h
        next hfree =>
          obtain rfl := Option.some.inj h
          exact .set hfree heffect rfl
        next htaken =>
          obtain rfl := Option.some.inj h
          refine .keep (heffect.trans ?_) (.inl rfl)
          rw [Leases.setNx, if_neg htaken]
      next => cases h
  | locked order =>
      unfold ReservationPhase.proceed at h
      dsimp only at h
      split at h <;> obtain rfl := Option.some.inj h <;> exact .keep rfl (.inr rfl)
  | overdrawn order | stocked order =>
      obtain rfl := Option.some.inj h
      exact .keep rfl (.inr rfl)
  | unlocked order =>
      obtain rfl := Option.some.inj h
      exact .keep rfl (.inl rfl)
  | restocked order =>
      obtain rfl := Option.some.inj h
      exact .del (.inl rfl) rfl rfl
  | failing owns order =>
      obtain rfl := Option.some.inj h
      cases owns with
      | false => exact .del (.inr rfl) rfl rfl
      | true => exact .del (.inl rfl) rfl rfl

theorem raise_relocks {phase after : ReservationPhase} {stores : ReservationStores}
    {executed : Bool} {seatIds : Json} (h : phase.raise eventId stores executed = some after) :
    phase.Relocks eventId stores after
      (if executed then phase.effect eventId seatIds stores else stores) := by
  cases phase with
  | idle | answered _ | pending _ | crashed => cases h
  | locking order =>
      obtain rfl := Option.some.inj h
      cases executed with
      | false => exact .keep rfl (.inl rfl)
      | true =>
          unfold ReservationPhase.effect
          simp only [if_true, Bool.true_and]
          cases haccepts : redisAccepts order.userId with
          | false => exact .keep rfl (.inl rfl)
          | true =>
              simp only [if_true, Bool.true_and]
              cases hfree : stores.locks.free (lockKey eventId order.seatIds) with
              | false =>
                  refine .keep ?_ (.inl rfl)
                  simp only [Leases.setNx, hfree, Bool.false_eq_true, if_false]
              | true => exact .set hfree rfl rfl
  | locked order | overdrawn order | stocked order =>
      obtain rfl := Option.some.inj h
      cases executed <;> exact .keep rfl (.inr rfl)
  | unlocked order =>
      obtain rfl := Option.some.inj h
      cases executed <;> exact .keep rfl (.inl rfl)
  | restocked order =>
      obtain rfl := Option.some.inj h
      cases executed with
      | false => exact .keep rfl (.inr rfl)
      | true => exact .del (.inl rfl) rfl rfl
  | failing owns order =>
      obtain rfl := Option.some.inj h
      cases executed with
      | false => exact .keep rfl (.inl rfl)
      | true =>
          cases owns with
          | false => exact .del (.inr rfl) rfl rfl
          | true => exact .del (.inl rfl) rfl rfl

/-- The step deletes no lock that another call holds: a call whose lock is not its
own meets no holder of it with its DEL. -/
def SparesLocks (eventId : String) (s : ReservationState) : ReservationStep → Prop
  | .proceed call | .raise call true => ∀ order, s.phase call = .failing false order →
      ∀ other claimed, (s.phase other).claims = some claimed →
        lockKey eventId claimed.seatIds ≠ lockKey eventId order.seatIds
  | .start _ | .raise _ false => True

theorem start_cases {call : Nat} (h : reservationStep eventId calls s (.start call) = some next) :
    s.phase call = .idle ∧ ∃ phase, next = s.move call phase s.stores ∧ phase.claims = none ∧
      ∀ order, phase.order = some order → readReservation eventId (calls call) = .ready order := by
  unfold reservationStep at h
  dsimp only at h
  split at h
  next hidle =>
    refine ⟨hidle, ?_⟩
    split at h
    next => exact ⟨_, (Option.some.inj h).symm, rfl, by rintro _ ⟨⟩⟩
    next => exact ⟨_, (Option.some.inj h).symm, rfl, by rintro _ ⟨⟩⟩
    next order hread =>
      refine ⟨_, (Option.some.inj h).symm, rfl, ?_⟩
      rintro _ ⟨⟩
      exact hread
  next => cases h

theorem proceed_cases {call : Nat}
    (h : reservationStep eventId calls s (.proceed call) = some next) :
    ∃ phase, (s.phase call).proceed eventId s.stores = some phase ∧
      next = s.move call phase ((s.phase call).effect eventId (calls call).seatIds s.stores) := by
  obtain ⟨phase, hphase, hnext⟩ := Option.map_eq_some_iff.mp h
  exact ⟨phase, hphase, hnext.symm⟩

theorem raise_call_cases {call : Nat} {executed : Bool}
    (h : reservationStep eventId calls s (.raise call executed) = some next) :
    ∃ phase, (s.phase call).raise eventId s.stores executed = some phase ∧
      next = s.move call phase
        (if executed then (s.phase call).effect eventId (calls call).seatIds s.stores
          else s.stores) := by
  obtain ⟨phase, hphase, hnext⟩ := Option.map_eq_some_iff.mp h
  exact ⟨phase, hphase, hnext.symm⟩

/-! ## Locks and claims -/

/-- The lock of a call that claims it is set, and no two calls claim one lock. -/
structure LockInv (eventId : String) (s : ReservationState) : Prop where
  held : ∀ call order, (s.phase call).claims = some order →
    s.stores.locks.owner (lockKey eventId order.seatIds) ≠ none
  single : ∀ call other order order', (s.phase call).claims = some order →
    (s.phase other).claims = some order' →
    lockKey eventId order.seatIds = lockKey eventId order'.seatIds → call = other

theorem ReservationState.move_same {call : Nat} {phase : ReservationPhase}
    {stores : ReservationStores} : (s.move call phase stores).phase call = phase := by
  simp [move]

theorem ReservationState.move_other {call other : Nat} {phase : ReservationPhase}
    {stores : ReservationStores} (hother : other ≠ call) :
    (s.move call phase stores).phase other = s.phase other := by
  simp [move, hother]

@[simp] theorem ReservationState.move_stores {call : Nat} {phase : ReservationPhase}
    {stores : ReservationStores} : (s.move call phase stores).stores = stores := rfl

@[simp] theorem ReservationState.move_move {call : Nat} {phase phase' : ReservationPhase}
    {stores stores' : ReservationStores} :
    (s.move call phase stores).move call phase' stores' = s.move call phase' stores' := by
  unfold move
  congr 1
  funext other
  by_cases hsame : other = call
  · simp [hsame]
  · simp [hsame]

/-- One call moves. The locks of the others stay set, and it claims a lock that
nobody else claims. -/
theorem LockInv.move (hinv : LockInv eventId s) {call : Nat} {phase : ReservationPhase}
    {stores : ReservationStores}
    (hothers : ∀ other order, other ≠ call → (s.phase other).claims = some order →
      stores.locks.owner (lockKey eventId order.seatIds) ≠ none)
    (hown : ∀ order, phase.claims = some order →
      stores.locks.owner (lockKey eventId order.seatIds) ≠ none ∧
        ∀ other claimed, other ≠ call → (s.phase other).claims = some claimed →
          lockKey eventId claimed.seatIds ≠ lockKey eventId order.seatIds) :
    LockInv eventId (s.move call phase stores) := by
  constructor
  · intro other order hclaims
    by_cases hsame : other = call
    · subst hsame
      rw [ReservationState.move_same] at hclaims
      exact (hown order hclaims).1
    · rw [ReservationState.move_other hsame] at hclaims
      exact hothers other order hsame hclaims
  · intro left right order order' hleft hright hkey
    by_cases hl : left = call
    · by_cases hr : right = call
      · exact hl.trans hr.symm
      · subst hl
        rw [ReservationState.move_same] at hleft
        rw [ReservationState.move_other hr] at hright
        exact absurd hkey.symm ((hown order hleft).2 right order' hr hright)
    · rw [ReservationState.move_other hl] at hleft
      by_cases hr : right = call
      · subst hr
        rw [ReservationState.move_same] at hright
        exact absurd hkey ((hown order' hright).2 left order hl hleft)
      · rw [ReservationState.move_other hr] at hright
        exact hinv.single left right order order' hleft hright hkey

/-- The locks stay, and the call claims no more than before. -/
theorem LockInv.keep (hinv : LockInv eventId s) {call : Nat} {phase : ReservationPhase}
    {stores : ReservationStores} (hlocks : stores.locks = s.stores.locks)
    (hclaims : phase.claims = none ∨ phase.claims = (s.phase call).claims) :
    LockInv eventId (s.move call phase stores) := by
  apply hinv.move
  · intro other order _ hother
    rw [hlocks]
    exact hinv.held other order hother
  · intro order hafter
    rcases hclaims with hnone | hsame
    · rw [hnone] at hafter
      cases hafter
    · rw [hsame] at hafter
      refine ⟨hlocks ▸ hinv.held call order hafter, ?_⟩
      intro other claimed hne hother hkey
      exact hne (hinv.single other call claimed order hother hafter hkey)

/-- The call sets a free lock and claims it. -/
theorem LockInv.set (hinv : LockInv eventId s) {call : Nat} {phase : ReservationPhase}
    {stores : ReservationStores} {order : ReservationOrder}
    (hfree : s.stores.locks.free (lockKey eventId order.seatIds) = true)
    (hlocks : stores.locks =
      (s.stores.locks.setNx order.userId (lockKey eventId order.seatIds)).2)
    (hclaims : phase.claims = some order) : LockInv eventId (s.move call phase stores) := by
  have hnone := Leases.free_iff.mp hfree
  apply hinv.move
  · intro other claimed _ hother
    rw [hlocks, Leases.setNx_owner]
    split
    next => simp
    next => exact hinv.held other claimed hother
  · intro claimed hafter
    obtain rfl : order = claimed := Option.some.inj (hclaims.symm.trans hafter)
    refine ⟨?_, fun other claimed _ hother hkey => ?_⟩
    · rw [hlocks, Leases.setNx_owner, if_pos ⟨rfl, hfree⟩]
      simp
    · exact hinv.held other claimed hother (hkey ▸ hnone)

/-- The call deletes a lock that no other call claims. -/
theorem LockInv.del (hinv : LockInv eventId s) {call : Nat} {phase : ReservationPhase}
    {stores : ReservationStores} {order : ReservationOrder}
    (hlocks : stores.locks = s.stores.locks.del [lockKey eventId order.seatIds])
    (hclaims : phase.claims = none)
    (hothers : ∀ other claimed, other ≠ call → (s.phase other).claims = some claimed →
      lockKey eventId claimed.seatIds ≠ lockKey eventId order.seatIds) :
    LockInv eventId (s.move call phase stores) := by
  apply hinv.move
  · intro other claimed hne hother
    have hkey := hothers other claimed hne hother
    rw [hlocks, Leases.del_owner, if_neg (by simpa using hkey)]
    exact hinv.held other claimed hother
  · intro claimed hafter
    rw [hclaims] at hafter
    cases hafter

theorem LockInv.relocks (hinv : LockInv eventId s) {call : Nat} {phase : ReservationPhase}
    {stores : ReservationStores} (h : (s.phase call).Relocks eventId s.stores phase stores)
    (hspares : ∀ order, s.phase call = .failing false order → stores.locks = s.stores.locks ∨
      ∀ other claimed, (s.phase other).claims = some claimed →
        lockKey eventId claimed.seatIds ≠ lockKey eventId order.seatIds) :
    LockInv eventId (s.move call phase stores) := by
  generalize hbefore : s.phase call = before at h hspares
  cases h with
  | keep hlocks hclaims => exact hinv.keep hlocks (hbefore ▸ hclaims)
  | set hfree hlocks hclaims => exact hinv.set hfree hlocks hclaims
  | del hphase hlocks hclaims =>
      rcases hphase with hown | hforeign
      · -- its own lock, which the others cannot claim
        refine hinv.del hlocks hclaims fun other claimed hne hother hkey => ?_
        exact hne (hinv.single other call claimed _ hother (hbefore ▸ hown) hkey)
      · rcases hspares _ hforeign with hsame | hothers
        · exact hinv.keep hsame (.inl hclaims)
        · exact hinv.del hlocks hclaims fun other claimed _ => hothers other claimed

theorem LockInv.step {a : ReservationStep} (hinv : LockInv eventId s)
    (hspares : SparesLocks eventId s a) (h : reservationStep eventId calls s a = some next) :
    LockInv eventId next := by
  cases a with
  | start call =>
      obtain ⟨_, phase, rfl, hclaims, _⟩ := start_cases h
      exact hinv.relocks (.keep rfl (.inl hclaims)) fun _ _ => .inl rfl
  | proceed call =>
      obtain ⟨phase, hphase, rfl⟩ := proceed_cases h
      exact hinv.relocks (proceed_relocks hphase) fun order hforeign =>
        .inr (hspares order hforeign)
  | raise call executed =>
      obtain ⟨phase, hphase, rfl⟩ := raise_call_cases h
      refine hinv.relocks (raise_relocks hphase) fun order hforeign => ?_
      cases executed with
      | false => exact .inl rfl
      | true => exact .inr (hspares order hforeign)

/-! ## Orders -/

/-- The SET NX of the call has taken effect, and nothing has raised since. -/
def ReservationPhase.granted : ReservationPhase → Bool
  | locked _ | overdrawn _ | restocked _ | stocked _ | pending _ => true
  | _ => false

/-- The order of the phase is the one that the call has passed the checks with, and
redis-py has taken its user. -/
def ReservationPhase.Checked (eventId : String) (call : ReservationCall)
    (phase : ReservationPhase) : Prop :=
  ∀ order, phase.order = some order → readReservation eventId call = .ready order ∧
    (phase.granted = true → redisAccepts order.userId = true)

theorem proceed_checked {phase after : ReservationPhase} {stores : ReservationStores}
    {call : ReservationCall} (hchecked : phase.Checked eventId call)
    (h : phase.proceed eventId stores = some after) : after.Checked eventId call := by
  intro found hfound
  cases phase with
  | idle | answered _ | pending _ | crashed => cases h
  | locking order =>
      unfold ReservationPhase.proceed at h
      dsimp only at h
      split at h
      next haccepts =>
        split at h
        next =>
          obtain rfl := Option.some.inj h
          obtain rfl := Option.some.inj hfound
          exact ⟨(hchecked _ rfl).1, fun _ => haccepts⟩
        next =>
          obtain rfl := Option.some.inj h
          cases hfound
      next => cases h
  | locked order =>
      unfold ReservationPhase.proceed at h
      dsimp only at h
      split at h <;> obtain rfl := Option.some.inj h <;> exact hchecked found hfound
  | overdrawn order | stocked order =>
      obtain rfl := Option.some.inj h
      exact hchecked found hfound
  | failing owns order =>
      obtain rfl := Option.some.inj h
      exact ⟨(hchecked found hfound).1, nofun⟩
  | restocked order | unlocked order =>
      obtain rfl := Option.some.inj h
      cases hfound

theorem raise_checked {phase after : ReservationPhase} {stores : ReservationStores}
    {call : ReservationCall} {executed : Bool} (hchecked : phase.Checked eventId call)
    (h : phase.raise eventId stores executed = some after) : after.Checked eventId call := by
  intro found hfound
  cases phase with
  | idle | answered _ | pending _ | crashed => cases h
  | locking order | locked order | overdrawn order | stocked order | restocked order =>
      obtain rfl := Option.some.inj h
      exact ⟨(hchecked found hfound).1, nofun⟩
  | failing _ order | unlocked order =>
      obtain rfl := Option.some.inj h
      cases hfound

/-- Every call under way has passed the checks. -/
def AllChecked (eventId : String) (calls : Nat → ReservationCall) (s : ReservationState) : Prop :=
  ∀ call, (s.phase call).Checked eventId (calls call)

theorem AllChecked.move (hchecked : AllChecked eventId calls s) {call : Nat}
    {phase : ReservationPhase} {stores : ReservationStores}
    (hphase : phase.Checked eventId (calls call)) :
    AllChecked eventId calls (s.move call phase stores) := by
  intro other
  by_cases hsame : other = call
  · subst hsame
    rwa [ReservationState.move_same]
  · rw [ReservationState.move_other hsame]
    exact hchecked other

theorem AllChecked.step {a : ReservationStep} (hchecked : AllChecked eventId calls s)
    (h : reservationStep eventId calls s a = some next) : AllChecked eventId calls next := by
  cases a with
  | start call =>
      obtain ⟨_, phase, rfl, hclaims, horder⟩ := start_cases h
      refine hchecked.move fun order hfound => ⟨horder order hfound, fun hgranted => ?_⟩
      -- a call that is granted its lock claims it
      cases phase with
      | locked _ | overdrawn _ | restocked _ | stocked _ | pending _ => cases hclaims
      | idle | locking _ | failing _ _ | unlocked _ | answered _ | crashed => cases hgranted
  | proceed call =>
      obtain ⟨phase, hphase, rfl⟩ := proceed_cases h
      exact hchecked.move (proceed_checked (hchecked call) hphase)
  | raise call executed =>
      obtain ⟨phase, hphase, rfl⟩ := raise_call_cases h
      exact hchecked.move (raise_checked (hchecked call) hphase)

/-! ## Calls that are answered PENDING -/

/-- Any two calls that are answered PENDING have different seats. -/
def PendingDisjoint (s : ReservationState) : Prop :=
  ∀ call other order order', call ≠ other → s.phase call = .pending order →
    s.phase other = .pending order' → order.seatIds.Disjoint order'.seatIds

/-- Any two calls that share a seat have the same lock key. -/
def LockKeysCover (eventId : String) (calls : Nat → ReservationCall) : Prop :=
  ∀ call other order order', call ≠ other → readReservation eventId (calls call) = .ready order →
    readReservation eventId (calls other) = .ready order' →
    redisAccepts order.userId = true → redisAccepts order'.userId = true →
    ¬ order.seatIds.Disjoint order'.seatIds →
      lockKey eventId order.seatIds = lockKey eventId order'.seatIds

/-- No call has started. -/
def ReservationState.start (stores : ReservationStores) : ReservationState :=
  ⟨stores, fun _ => .idle⟩

theorem lockInv_start {stores : ReservationStores} : LockInv eventId (.start stores) := by
  constructor
  · intro _ _ hclaims
    cases hclaims
  · intro _ _ _ _ hclaims
    cases hclaims

theorem allChecked_start {stores : ReservationStores} :
    AllChecked eventId calls (.start stores) := by
  intro _ _ horder
  cases horder

theorem pendingDisjoint_of_cover (hcover : LockKeysCover eventId calls)
    (hlocks : LockInv eventId s) (hchecked : AllChecked eventId calls s) : PendingDisjoint s := by
  intro call other order order' hne hpending hpending'
  by_contra hshared
  have hread := hchecked call order (by rw [hpending]; rfl)
  have hread' := hchecked other order' (by rw [hpending']; rfl)
  have hkey := hcover call other order order' hne hread.1 hread'.1
    (hread.2 (by rw [hpending]; rfl)) (hread'.2 (by rw [hpending']; rfl)) hshared
  exact hne (hlocks.single call other order order' (by rw [hpending]; rfl)
    (by rw [hpending']; rfl) hkey)

/-- The steps of a call that nothing gets in the way of. -/
def callSteps (call : Nat) : List ReservationStep :=
  [.start call, .proceed call, .proceed call, .proceed call]

/-- A call that waits for a command, and is not in its `except` branch, goes on. -/
theorem proceed_of {call : Nat} {phase after : ReservationPhase} (hphase : s.phase call = phase)
    (hclaims : phase.claims ≠ none ∨ phase.order = none ∨ ∃ order, phase = .locking order)
    (h : phase.proceed eventId s.stores = some after) :
    reservationStep eventId calls s (.proceed call) =
        some (s.move call after (phase.effect eventId (calls call).seatIds s.stores)) ∧
      SparesLocks eventId s (.proceed call) := by
  subst hphase
  refine ⟨congrArg (Option.map _) h, fun order hfailing => ?_⟩
  rw [hfailing] at hclaims
  rcases hclaims with hclaims | horder | ⟨_, hlocking⟩
  · exact absurd rfl hclaims
  · cases horder
  · cases hlocking

/-- A call whose lock is free, and whose seats the stock covers, is answered
PENDING. -/
theorem call_goes_through {call : Nat} {order : ReservationOrder} (hidle : s.phase call = .idle)
    (hread : readReservation eventId (calls call) = .ready order)
    (haccepts : redisAccepts order.userId = true)
    (hfree : s.stores.locks.free (lockKey eventId order.seatIds) = true)
    (hstock : (order.seatIds.length : Int) ≤ s.stores.stock) :
    ∃ final, (reservationMachine eventId calls).run s (callSteps call) = some final ∧
      (reservationMachine eventId calls).Along (SparesLocks eventId) s (callSteps call) ∧
      final.phase call = .pending order ∧
      (∀ other, other ≠ call → final.phase other = s.phase other) ∧
      final.stores.locks =
        (s.stores.locks.setNx order.userId (lockKey eventId order.seatIds)).2 ∧
      final.stores.stock = s.stores.stock - order.seatIds.length := by
  have hstart : reservationStep eventId calls s (.start call) =
      some (s.move call (.locking order) s.stores) := by
    unfold reservationStep
    simp only [hidle, hread]
  obtain ⟨hlock, hlockSpares⟩ := @proceed_of eventId calls (s.move call (.locking order) s.stores)
    call (.locking order) (.locked order) ReservationState.move_same (.inr (.inr ⟨order, rfl⟩)) (by
      unfold ReservationPhase.proceed
      simp only [haccepts, if_true]
      exact if_pos hfree)
  simp only [ReservationState.move_move, ReservationState.move_stores, ReservationPhase.effect,
    haccepts, if_true] at hlock
  obtain ⟨htake, htakeSpares⟩ := @proceed_of eventId calls (s.move call (.locked order)
      { s.stores with
        locks := (s.stores.locks.setNx order.userId (lockKey eventId order.seatIds)).2 })
    call (.locked order) (.stocked order) ReservationState.move_same (.inl nofun)
    (if_neg (by simp only [ReservationState.move_stores]; omega))
  simp only [ReservationState.move_move, ReservationState.move_stores,
    ReservationPhase.effect] at htake
  obtain ⟨hsend, hsendSpares⟩ := @proceed_of eventId calls (s.move call (.stocked order)
      { s.stores with
        locks := (s.stores.locks.setNx order.userId (lockKey eventId order.seatIds)).2
        stock := s.stores.stock - order.seatIds.length })
    call (.stocked order) (.pending order) ReservationState.move_same (.inl nofun) rfl
  simp only [ReservationState.move_move] at hsend
  have hrun : (reservationMachine eventId calls).run s (callSteps call) =
      some (s.move call (.pending order)
        { locks := (s.stores.locks.setNx order.userId (lockKey eventId order.seatIds)).2
          stock := s.stores.stock - order.seatIds.length
          sent := s.stores.sent ++ [order.message eventId (calls call).seatIds] }) := by
    refine Machine.run_cons_eq_some _ |>.mpr ⟨_, hstart, ?_⟩
    refine Machine.run_cons_eq_some _ |>.mpr ⟨_, hlock, ?_⟩
    refine Machine.run_cons_eq_some _ |>.mpr ⟨_, htake, ?_⟩
    exact Machine.run_cons_eq_some _ |>.mpr ⟨_, hsend, rfl⟩
  refine ⟨_, hrun, ?_, ReservationState.move_same, fun _ => ReservationState.move_other, rfl, rfl⟩
  exact .cons hstart trivial
    (.cons hlock hlockSpares (.cons htake htakeSpares (.cons hsend hsendSpares trivial)))

/-- Calls that share a seat and not the lock key are both answered PENDING if they
come one after the other. -/
theorem both_pending {call other : Nat} {order order' : ReservationOrder} (hne : call ≠ other)
    (hread : readReservation eventId (calls call) = .ready order)
    (hread' : readReservation eventId (calls other) = .ready order')
    (haccepts : redisAccepts order.userId = true) (haccepts' : redisAccepts order'.userId = true)
    (hkey : lockKey eventId order.seatIds ≠ lockKey eventId order'.seatIds) :
    ∃ stores final,
      (reservationMachine eventId calls).run (.start stores) (callSteps call ++ callSteps other) =
        some final ∧
      (reservationMachine eventId calls).Along (SparesLocks eventId) (.start stores)
        (callSteps call ++ callSteps other) ∧
      final.phase call = .pending order ∧ final.phase other = .pending order' := by
  let stores : ReservationStores :=
    ⟨.empty, order.seatIds.length + order'.seatIds.length, []⟩
  obtain ⟨middle, hfirst, hfirstAlong, hpending, hothers, hlocks, hstock⟩ :=
    @call_goes_through eventId calls (.start stores) call order rfl hread haccepts rfl (by
      change (order.seatIds.length : Int) ≤ order.seatIds.length + order'.seatIds.length
      omega)
  have hidle : middle.phase other = .idle := hothers other (Ne.symm hne)
  have hfree : middle.stores.locks.free (lockKey eventId order'.seatIds) = true := by
    rw [hlocks, Leases.setNx_free, decide_eq_true (Ne.symm hkey)]
    rfl
  obtain ⟨final, hsecond, hsecondAlong, hpending', hothers', _, _⟩ :=
    @call_goes_through eventId calls middle other order' hidle hread' haccepts' hfree (by
      rw [hstock]
      change (order'.seatIds.length : Int) ≤
        order.seatIds.length + order'.seatIds.length - order.seatIds.length
      omega)
  exact ⟨stores, final, Machine.run_append_eq_some _ |>.mpr ⟨middle, hfirst, hsecond⟩,
    (Machine.along_append hfirst).mpr ⟨hfirstAlong, hsecondAlong⟩,
    (hothers' call hne).trans hpending, hpending'⟩

/-- For any number of calls for one event: no interleaving in which no DEL hits the
lock of another call answers two calls PENDING that share a seat, exactly if any
two calls that share a seat have the same lock key. -/
theorem pending_disjoint_iff (eventId : String) (calls : Nat → ReservationCall) :
    (∀ stores steps final,
      (reservationMachine eventId calls).run (.start stores) steps = some final →
      (reservationMachine eventId calls).Along (SparesLocks eventId) (.start stores) steps →
        PendingDisjoint final) ↔
      LockKeysCover eventId calls := by
  constructor
  · intro hdisjoint call other order order' hne hread hread' haccepts haccepts' hshared
    by_contra hkey
    obtain ⟨stores, final, hrun, halong, hpending, hpending'⟩ :=
      both_pending hne hread hread' haccepts haccepts' hkey
    exact hshared (hdisjoint stores _ final hrun halong call other order order' hne hpending
      hpending')
  · intro hcover stores steps final hrun halong
    have hlockStep : ∀ s a next, LockInv eventId s → SparesLocks eventId s a →
        (reservationMachine eventId calls).step s a = some next → LockInv eventId next :=
      fun _ _ _ hinv hspares h => hinv.step hspares h
    have hcheckedStep : ∀ s a next, AllChecked eventId calls s →
        (reservationMachine eventId calls).step s a = some next → AllChecked eventId calls next :=
      fun _ _ _ hinv h => hinv.step h
    have hlocks : LockInv eventId final :=
      Machine.run_invariant_along hlockStep lockInv_start halong hrun
    have hchecked : AllChecked eventId calls final :=
      Machine.run_invariant hcheckedStep allChecked_start hrun
    exact pendingDisjoint_of_cover hcover hlocks hchecked

end Exclusive

/-- Two calls for the seat A2, one of them also for A1. -/
def overlappingCalls : Nat → ReservationCall
  | 0 => ⟨none, .str "u1", .arr [.str "A1", .str "A2"], "r1", "2026-01-01T00:10:00+00:00"⟩
  | _ => ⟨none, .str "u2", .arr [.str "A2"], "r2", "2026-01-01T00:10:00+00:00"⟩

/-- Both are answered PENDING. -/
theorem overlapping_calls_pending : ∃ final,
    (reservationMachine "e1" overlappingCalls).run (.start ⟨.empty, 10, []⟩)
        (callSteps 0 ++ callSteps 1) = some final ∧
      (final.phase 0).reply = some (.pending "r1" "2026-01-01T00:10:00+00:00") ∧
      (final.phase 1).reply = some (.pending "r2" "2026-01-01T00:10:00+00:00") ∧
      ¬ PendingDisjoint final := by
  refine ⟨_, rfl, rfl, rfl, fun hdisjoint => ?_⟩
  have hseats : List.Disjoint ["A1", "A2"] ["A2"] := hdisjoint 0 1 _ _ (by decide) rfl rfl
  have hshared : "A2" ∈ ["A1", "A2"] := by decide
  exact hseats hshared (List.mem_singleton_self "A2")

end Ticketing
