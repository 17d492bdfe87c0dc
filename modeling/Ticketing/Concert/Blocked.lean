import Ticketing.Concert.Claims

/-!
# Who blocks a seat

A hold is set by the write API and deleted by nobody but the rollback of a
refused request. So a seat is blocked by somebody who wants it or has it, as
long as every request that gets holds also gets its seats, and keeps them. The
steps that leave a hold behind are those after which this is no longer so.
-/

namespace Ticketing

open Foundation Python

namespace OrderStage

/-- The order of a request that got its seats and has no final result yet. -/
def pending : OrderStage → Option ConcertOrder
  | granted order | reserved order | queued order => some order
  | _ => none

def rollsBack : OrderStage → Bool
  | refused _ _ | releasing _ _ => true
  | _ => false

/-- Nobody works for the request any more, but its holds were not released. -/
def isOver : OrderStage → Bool
  | handled _ | raised _ => true
  | _ => false

/-- The seats that a request under way may hold, with their show. -/
def mayHold : OrderStage → Option (Int × List Seat)
  | granted order | reserved order | queued order => some (order.showId, order.seats)
  | refused order held => some (order.showId, held)
  | releasing order own => some (order.showId, own)
  | _ => none

end OrderStage

/-- The seat is sold, or held by a request that waits for its final result. -/
def Taken (s : HoldState) (showId : Int) (seat : Seat) : Prop :=
  s.db.concerts.Active showId seat ∨
    ∃ holder ∈ s.store.holder showId seat, (s.stage holder).pending.isSome = true

instance (s : HoldState) (showId : Int) (seat : Seat) : Decidable (Taken s showId seat) :=
  inferInstanceAs (Decidable (_ ∨ _))

/-- `try_hold_seats` answers DUPLICATE_SEAT for the payload. -/
def HoldState.Refuses (s : HoldState) (payload : Json) (order : ConcertOrder)
    (bookingRef : String) : Prop :=
  s.admitted payload = some order ∧ (s.hold order bookingRef).1.2 = false

/-- One of the seats is held by a request that is just being rolled back. -/
def MeetsRollback (s : HoldState) (order : ConcertOrder) : Prop :=
  ∃ seat ∈ order.seats, ∃ holder ∈ s.store.holder order.showId seat,
    (s.stage holder).rollsBack = true

instance (s : HoldState) (order : ConcertOrder) : Decidable (MeetsRollback s order) :=
  inferInstanceAs (Decidable (∃ seat ∈ order.seats, _))

/-- The steps that leave no hold on a seat that is not sold: a refused commit
releases all it has set, an exception or a failure result finds the seats sold,
and a refund finds the holds gone. -/
def LeavesNoHold (s : HoldState) : HoldStep → Prop
  | .commit payload _ =>
      ∀ order ∈ s.admitted payload, ∀ seat ∈ order.seats,
        s.store.free order.showId seat = true →
          seat ∈ order.seats.takeWhile (s.store.free order.showId)
  | .raise bookingRef =>
      ∀ pair ∈ (s.stage bookingRef).mayHold, ∀ seat ∈ pair.2,
        s.db.concerts.Active pair.1 seat
  | .handle bookingRef env codes =>
      ∀ order ∈ (s.stage bookingRef).awaited,
        let verdict := (processConcertBooking env codes (order.body bookingRef) s.db).1
        verdict = .raised ∨ verdict.isCommitted = true ∨
          ∀ seat ∈ order.seats, s.db.concerts.Active order.showId seat
  | .refund env userId bookingId =>
      ∀ booking ∈ findBooking concertBook userId bookingId s.db,
        booking.bookStatus.isCancelled = false → Clear env (5 + concertIdCalls booking) →
          ∀ row ∈ s.db.concerts.seats.rows, row.bookingId = bookingId → row.status = .active →
            ∀ holder ∈ s.store.holder row.showingId row.cell, (s.stage holder).isOver = false
  | _ => True

instance (s : HoldState) : ∀ a, Decidable (LeavesNoHold s a)
  | .commit _ _ => inferInstanceAs (Decidable (∀ order ∈ _, _))
  | .raise _ => inferInstanceAs (Decidable (∀ pair ∈ _, _))
  | .handle _ _ _ => inferInstanceAs (Decidable (∀ order ∈ _, _ ∨ _ ∨ _))
  | .refund _ _ _ => inferInstanceAs (Decidable (∀ booking ∈ _, _ → _ → ∀ row ∈ _, _))
  | .reserve _ | .send _ | .probe _ | .release _ | .direct _ _ _ | .setSale _ _
  | .expireHold _ _ | .expireReserved _ => isTrue trivial

/-! ## Holds -/

/-- What entitles a request at this stage to the hold of the seat. -/
def Justified (db : Db) (showId : Int) (seat : Seat) (stage : OrderStage) : Prop :=
  (stage.isOver = true ∧ db.concerts.Active showId seat) ∨
    ∃ seats, stage.mayHold = some (showId, seats) ∧ seat ∈ seats

/-- Every holder is entitled to its hold. -/
def HoldsJustified (s : HoldState) : Prop :=
  ∀ showId seat holder, s.store.holder showId seat = some holder →
    Justified s.db showId seat (s.stage holder)

theorem Justified.mono {db next : Db} {showId : Int} {seat : Seat} {stage : OrderStage}
    (h : Justified db showId seat stage)
    (hactive : db.concerts.Active showId seat → next.concerts.Active showId seat) :
    Justified next showId seat stage :=
  h.imp_left fun hover => ⟨hover.1, hactive hover.2⟩

/-- A request that is not over has the seat among those that it may hold. -/
theorem Justified.mayHold {db : Db} {showId : Int} {seat : Seat} {stage : OrderStage}
    (h : Justified db showId seat stage) (hover : stage.isOver = false) :
    ∃ seats, stage.mayHold = some (showId, seats) ∧ seat ∈ seats := by
  rcases h with ⟨hdone, _⟩ | hmay
  · rw [hover] at hdone
    cases hdone
  · exact hmay

theorem not_justified_unused {db : Db} {showId : Int} {seat : Seat} :
    ¬ Justified db showId seat .unused := by
  intro h
  obtain ⟨_, hmay, _⟩ := h.mayHold rfl
  cases hmay

theorem Justified.taken {s : HoldState} {showId : Int} {seat : Seat} {holder : String}
    (h : Justified s.db showId seat (s.stage holder))
    (hholder : s.store.holder showId seat = some holder)
    (hroll : (s.stage holder).rollsBack = false) : Taken s showId seat := by
  rcases h with ⟨_, hactive⟩ | ⟨seats, hmay, _⟩
  · exact .inl hactive
  · refine .inr ⟨holder, hholder, ?_⟩
    cases hstage : s.stage holder with
    | granted order | reserved order | queued order => rfl
    | refused order held | releasing order own => rw [hstage] at hroll; cases hroll
    | unused | handled order | rejected order | raised order => rw [hstage] at hmay; cases hmay

section Steps

variable {s next : HoldState} {bookingRef : String}

/-- One request moves on; the others lose holds at most, and what is sold stays
sold. -/
theorem HoldsJustified.update (hinv : HoldsJustified s) (bookingRef : String)
    (hstage : ∀ other, other ≠ bookingRef → next.stage other = s.stage other)
    (hothers : ∀ other, other ≠ bookingRef → ∀ showId seat,
      next.store.holder showId seat = some other → s.store.holder showId seat = some other)
    (hactive : ∀ showId seat, s.db.concerts.Active showId seat →
      next.db.concerts.Active showId seat)
    (hown : ∀ showId seat, next.store.holder showId seat = some bookingRef →
      Justified next.db showId seat (next.stage bookingRef)) :
    HoldsJustified next := by
  intro showId seat holder hholder
  by_cases hsame : holder = bookingRef
  · subst hsame
    exact hown showId seat hholder
  · rw [hstage holder hsame]
    exact (hinv showId seat holder (hothers holder hsame showId seat hholder)).mono
      (hactive showId seat)

theorem HoldsJustified.commit (hinv : HoldsJustified s) {payload : Json}
    (hleaves : LeavesNoHold s (.commit payload bookingRef))
    (h : holdStep s (.commit payload bookingRef) = some next) : HoldsJustified next := by
  rcases commit_cases h with ⟨_, rfl⟩ | ⟨order, held, complete, store, horder, hstage, hhold, rfl⟩
  · exact hinv
  · have hstore : (s.hold order bookingRef).2 = store := by rw [hhold]
    have hheld : held = order.seats.takeWhile (s.store.free order.showId) := by
      rw [← s.hold_held order bookingRef, hhold]
    have hsome : ∀ other showId seat, store.holder showId seat = some other →
        s.store.holder showId seat = some other ∨
          other = bookingRef ∧ (showId = order.showId ∧ seat ∈ order.seats) ∧
            s.store.free showId seat = true := by
      intro other showId seat hholder
      rw [← hstore, HoldState.hold, HoldStore.setHolds_holder] at hholder
      split at hholder
      next hnew => exact .inr ⟨(Option.some.inj hholder).symm, hnew⟩
      next => exact .inl hholder
    refine hinv.update bookingRef (fun other hother => s.setStage_other _ hother)
      (fun other hother showId seat hholder => ?_) (fun _ _ hactive => hactive)
      fun showId seat hholder => ?_
    · exact (hsome other showId seat hholder).resolve_right fun hnew => hother hnew.1
    · rcases hsome bookingRef showId seat hholder with hold | ⟨_, ⟨rfl, hseat⟩, hfree⟩
      · -- an unused reference holds nothing
        have hjust := hinv showId seat bookingRef hold
        rw [hstage] at hjust
        exact absurd hjust not_justified_unused
      · have hprefix : seat ∈ held := by
          rw [hheld]
          exact hleaves order horder seat hseat hfree
        rw [HoldState.setStage_same, OrderStage.afterHold]
        split
        next => exact .inr ⟨order.seats, rfl, hseat⟩
        next =>
          rw [if_neg (List.ne_nil_of_mem hprefix)]
          exact .inr ⟨held, rfl, hprefix⟩

/-- A request moves on without touching Redis or the database. -/
theorem HoldsJustified.advance (hinv : HoldsJustified s) {stage : OrderStage}
    (hown : ∀ showId seat, s.store.holder showId seat = some bookingRef →
      Justified s.db showId seat (s.stage bookingRef) → Justified s.db showId seat stage)
    (hstage : next.stage = (s.setStage bookingRef stage).stage)
    (hholder : next.store.holder = s.store.holder) (hdb : next.db = s.db) :
    HoldsJustified next := by
  refine hinv.update bookingRef (fun other hother => ?_) (fun other _ showId seat h => ?_)
    (fun showId seat hactive => ?_) fun showId seat h => ?_
  · rw [hstage, HoldState.setStage_other s stage hother]
  · rwa [hholder] at h
  · rwa [hdb]
  · rw [hholder] at h
    rw [hstage, hdb, HoldState.setStage_same]
    exact hown showId seat h (hinv showId seat bookingRef h)

theorem HoldsJustified.release (hinv : HoldsJustified s)
    (h : holdStep s (.release bookingRef) = some next) : HoldsJustified next := by
  obtain ⟨order, own, hstage, rfl⟩ := release_cases h
  refine hinv.update bookingRef (fun other hother => s.setStage_other _ hother)
    (fun other _ showId seat hholder => (HoldStore.drop_holder_eq_some.mp hholder).1)
    (fun _ _ hactive => hactive) fun showId seat hholder => ?_
  obtain ⟨hold, hkept⟩ := HoldStore.drop_holder_eq_some.mp hholder
  have hjust := hinv showId seat bookingRef hold
  rw [hstage] at hjust
  obtain ⟨seats, hmay, hseat⟩ := hjust.mayHold rfl
  cases hmay
  exact absurd ⟨rfl, hseat⟩ hkept

theorem HoldsJustified.handle (hinv : HoldsJustified s) {env : Env} {codes : Nat → String}
    (hleaves : LeavesNoHold s (.handle bookingRef env codes))
    (h : holdStep s (.handle bookingRef env codes) = some next) : HoldsJustified next := by
  have hactive : ∀ showId seat, s.db.concerts.Active showId seat →
      next.db.concerts.Active showId seat := fun showId seat hactive =>
    (holdStep_active_iff h (by simp)).mpr (.inl hactive)
  obtain ⟨order, verdict, db, hmessage, hprocess, rfl⟩ := handle_cases h
  refine hinv.update bookingRef (fun other hother => s.setStage_other _ hother)
    (fun other _ showId seat hholder => hholder) hactive fun showId seat hholder => ?_
  have hjust := hinv showId seat bookingRef hholder
  rw [HoldState.setStage_same]
  cases hstage : s.stage bookingRef with
  | queued found =>
      rw [hstage] at hmessage hjust
      cases hmessage
      have hresult := hleaves order (by rw [hstage]; rfl)
      rw [hprocess] at hresult
      unfold OrderStage.afterVerdict
      split
      next => exact hjust.mono (hactive showId seat)
      next hverdict =>
        obtain ⟨seats, hmay, hseat⟩ := hjust.mayHold rfl
        cases hmay
        refine .inl ⟨rfl, ?_⟩
        -- no hold is left behind: the seats are sold now, or were before
        rcases hresult with hraised | hcommitted | hsold
        · exact absurd hraised hverdict
        · refine (holdStep_active_iff h (by simp)).mpr (.inr ?_)
          refine ⟨order, by rw [hstage]; rfl, ConcertOrder.booksSeat_iff.mpr ?_⟩
          rw [hprocess]
          exact ⟨hcommitted, rfl, hseat⟩
        · exact hactive _ seat (hsold seat hseat)
  | handled found =>
      rw [hstage] at hmessage hjust
      cases hmessage
      unfold OrderStage.afterVerdict
      split
      next => exact hjust.mono (hactive showId seat)
      next => exact hjust.mono (hactive showId seat)
  | unused | granted _ | reserved _ | refused _ _ | releasing _ _ | rejected _ | raised _ =>
      rw [hstage] at hmessage
      cases hmessage

theorem HoldsJustified.refund (hinv : HoldsJustified s) {env : Env} {userId bookingId : Int}
    (hleaves : LeavesNoHold s (.refund env userId bookingId))
    (h : holdStep s (.refund env userId bookingId) = some next) : HoldsJustified next := by
  obtain rfl := Option.some.inj h
  intro showId seat holder hholder
  have hjust := hinv showId seat holder hholder
  dsimp only at hholder ⊢
  rcases refundConcertBooking_cases env userId bookingId s.db with
    hsame | ⟨booking, ⟨hfind, hstatus⟩, hclear, concerts, hnext, hrefunded⟩
  · rwa [hsame]
  · rcases hjust with ⟨hover, hactive⟩ | hmay
    · -- the holder is over, so the seat is not one of the refunded booking
      obtain ⟨row, hrow, rfl⟩ := List.mem_map.mp (Ledger.active_iff_mem.mp hactive)
      obtain ⟨hmem, hshowing, hactiveRow⟩ := Ledger.mem_activeSeats.mp hrow
      subst hshowing
      refine .inl ⟨hover, ?_⟩
      rw [hnext]
      refine hrefunded.active_iff.mpr ⟨row, hrow, rfl, fun hid => ?_⟩
      have hnot := hleaves booking hfind hstatus hclear row hmem hid hactiveRow holder hholder
      rw [hover] at hnot
      cases hnot
    · exact .inr hmay

theorem HoldsJustified.step {a : HoldStep} (hinv : HoldsJustified s) (hleaves : LeavesNoHold s a)
    (h : holdStep s a = some next) : HoldsJustified next := by
  cases a with
  | commit payload bookingRef => exact hinv.commit hleaves h
  | reserve bookingRef =>
      obtain ⟨order, hstage, rfl⟩ := reserve_cases h
      refine hinv.advance (fun showId seat _ hjust => ?_) rfl rfl rfl
      rwa [hstage] at hjust
  | send bookingRef =>
      obtain ⟨order, hstage, rfl⟩ := send_cases h
      refine hinv.advance (fun showId seat _ hjust => ?_) rfl rfl rfl
      rwa [hstage] at hjust
  | probe bookingRef =>
      obtain ⟨order, held, hstage, rfl⟩ := probe_cases h
      refine hinv.advance (fun showId seat hholder hjust => ?_) rfl rfl rfl
      rw [hstage] at hjust
      obtain ⟨seats, hmay, hseat⟩ := hjust.mayHold rfl
      cases hmay
      exact .inr ⟨_, rfl, HoldStore.mem_ownHolds.mpr ⟨hseat, hholder⟩⟩
  | release bookingRef => exact hinv.release h
  | raise bookingRef =>
      obtain ⟨stage, hraise, rfl⟩ := raise_cases h
      refine hinv.advance (fun showId seat _ hjust => ?_) rfl rfl rfl
      -- nobody will release the holds, so `hleaves` says that the seats are sold
      have hover : stage.isOver = true ∧ (s.stage bookingRef).isOver = false := by
        cases hstage : s.stage bookingRef with
        | granted _ | reserved _ | refused _ _ | releasing _ _ =>
            rw [hstage] at hraise
            cases hraise
            exact ⟨rfl, rfl⟩
        | unused | queued _ | handled _ | rejected _ | raised _ =>
            rw [hstage] at hraise
            cases hraise
      obtain ⟨seats, hmay, hseat⟩ := hjust.mayHold hover.2
      exact .inl ⟨hover.1, hleaves (showId, seats) hmay seat hseat⟩
  | handle bookingRef env codes => exact hinv.handle hleaves h
  | direct env codes body =>
      have hactive : ∀ showId seat, s.db.concerts.Active showId seat →
          next.db.concerts.Active showId seat := fun showId seat hactive =>
        (holdStep_active_iff h (by simp)).mpr (.inl hactive)
      obtain rfl := Option.some.inj h
      exact fun showId seat holder hholder =>
        (hinv showId seat holder hholder).mono (hactive showId seat)
  | refund env userId bookingId => exact hinv.refund hleaves h
  | expireHold expiredShow expired =>
      obtain rfl := Option.some.inj h
      exact fun showId seat holder hholder =>
        hinv showId seat holder (HoldStore.expireHold_holder_eq_some.mp hholder).1
  | setSale _ _ | expireReserved _ =>
      obtain rfl := Option.some.inj h
      exact hinv

/-! ## Reserved sets -/

/-- Every reserved seat is held by a request that is not being rolled back. -/
def ReservedHeld (s : HoldState) : Prop :=
  ∀ showId, ∀ seat ∈ s.store.reserved showId,
    ∃ holder, s.store.holder showId seat = some holder ∧ (s.stage holder).rollsBack = false

theorem OrderStage.Moves.rollsBack {stage after : OrderStage} (h : stage.Moves after)
    (hused : stage ≠ unused) (hroll : stage.rollsBack = false) : after.rollsBack = false := by
  cases h with
  | hold => exact absurd rfl hused
  | reserve | send | release => rfl
  | probe => cases hroll
  | raise hraise =>
      cases stage with
      | granted | reserved | refused | releasing => cases hraise; rfl
      | unused | queued | handled | rejected | raised => cases hraise
  | handle hmessage verdict =>
      unfold afterVerdict
      split
      next => exact hroll
      next => rfl

/-- The reserved set shrinks and holds stay, apart from holds of requests that
are rolled back. -/
theorem ReservedHeld.update {a : HoldStep} (hinv : ReservedHeld s) (hjust : HoldsJustified s)
    (h : holdStep s a = some next)
    (hreserved : ∀ showId, ∀ seat ∈ next.store.reserved showId, seat ∈ s.store.reserved showId)
    (hholder : ∀ showId seat holder, seat ∈ next.store.reserved showId →
      (s.stage holder).rollsBack = false → s.store.holder showId seat = some holder →
        next.store.holder showId seat = some holder) : ReservedHeld next := by
  intro showId seat hseat
  obtain ⟨holder, hholds, hroll⟩ := hinv showId seat (hreserved showId seat hseat)
  refine ⟨holder, hholder showId seat holder hseat hroll hholds, ?_⟩
  rcases moves_of_holdStep h holder with hsame | hmoves
  · rwa [hsame]
  · refine hmoves.rollsBack (fun hunused => ?_) hroll
    have hnone := hjust showId seat holder hholds
    rw [hunused] at hnone
    exact not_justified_unused hnone

theorem ReservedHeld.step {a : HoldStep} (hinv : ReservedHeld s) (hjust : HoldsJustified s)
    (hkept : HoldsKept (fun _ _ => False) s)
    (hexpire : ∀ showId seat, a ≠ .expireHold showId seat) (h : holdStep s a = some next) :
    ReservedHeld next := by
  cases a with
  | commit payload bookingRef =>
      rcases commit_cases h with ⟨_, rfl⟩ | ⟨order, held, complete, store, _, _, hhold, hnext⟩
      · exact hinv
      · have hstore : (s.hold order bookingRef).2 = next.store := by rw [hhold, hnext]
        refine hinv.update hjust h ?_ ?_
        · rw [← hstore]
          exact fun _ _ hseat => hseat
        · intro showId seat holder _ _ hholds
          rw [← hstore]
          exact s.hold_holder_of_some order hholds
  | reserve bookingRef =>
      obtain ⟨order, hstage, rfl⟩ := reserve_cases h
      intro showId seat hseat
      have hstages : ∀ holder, (s.stage holder).rollsBack = false →
          ((s.setStage bookingRef (.reserved order)).stage holder).rollsBack = false := by
        intro holder hroll
        rw [HoldState.setStage_stage]
        split
        next => rfl
        next => exact hroll
      rcases HoldStore.mem_reserve.mp hseat with ⟨rfl, hnew⟩ | hold
      · have hclaims : (s.stage bookingRef).claims = some (order.showId, order.seats) := by
          rw [hstage]
          rfl
        have hholder := (hkept bookingRef _ _ hclaims seat hnew).resolve_left id
        exact ⟨bookingRef, hholder, hstages bookingRef (by rw [hstage]; rfl)⟩
      · obtain ⟨holder, hholder, hroll⟩ := hinv showId seat hold
        exact ⟨holder, hholder, hstages holder hroll⟩
  | send bookingRef =>
      obtain ⟨order, _, rfl⟩ := send_cases h
      exact hinv.update hjust h (fun _ _ hseat => hseat) fun _ _ _ _ _ hholder => hholder
  | probe bookingRef =>
      obtain ⟨order, held, _, rfl⟩ := probe_cases h
      exact hinv.update hjust h (fun _ _ hseat => hseat) fun _ _ _ _ _ hholder => hholder
  | release bookingRef =>
      obtain ⟨order, own, _, rfl⟩ := release_cases h
      refine hinv.update hjust h (fun _ _ hseat => (HoldStore.mem_drop.mp hseat).1)
        fun showId seat holder hseat _ hholder => ?_
      exact HoldStore.drop_holder_eq_some.mpr ⟨hholder, (HoldStore.mem_drop.mp hseat).2⟩
  | raise bookingRef =>
      obtain ⟨stage, _, rfl⟩ := raise_cases h
      exact hinv.update hjust h (fun _ _ hseat => hseat) fun _ _ _ _ _ hholder => hholder
  | handle bookingRef env codes =>
      obtain ⟨order, verdict, db, _, _, rfl⟩ := handle_cases h
      exact hinv.update hjust h (fun _ _ hseat => hseat) fun _ _ _ _ _ hholder => hholder
  | direct _ _ _ | refund _ _ _ | setSale _ _ =>
      obtain rfl := Option.some.inj h
      exact hinv
  | expireHold showId seat => exact absurd rfl (hexpire showId seat)
  | expireReserved expired =>
      obtain rfl := Option.some.inj h
      intro showId seat hseat
      exact hinv showId seat (HoldStore.mem_expireReserved.mp hseat).2

end Steps

/-! ## Refusals -/

/-- What holds while no step leaves a hold behind and no hold expires. -/
structure BlockedInv (s : HoldState) : Prop where
  kept : HoldsKept (fun _ _ => False) s
  justified : HoldsJustified s
  reserved : ReservedHeld s

theorem BlockedInv.initial (db : Db) : BlockedInv (.initial db) := by
  refine ⟨HoldsKept.initial _ db, ?_, ?_⟩
  · intro showId seat holder hholder
    cases hholder
  · intro showId seat hseat
    cases hseat

theorem BlockedInv.step {s next : HoldState} {a : HoldStep} (hinv : BlockedInv s)
    (hleaves : LeavesNoHold s a) (hexpire : ∀ showId seat, a ≠ .expireHold showId seat)
    (h : holdStep s a = some next) : BlockedInv next := by
  refine ⟨hinv.kept.step (fun _ _ => id) (fun showId seat hsame => ?_) h,
    hinv.justified.step hleaves h, hinv.reserved.step hinv.justified hinv.kept hexpire h⟩
  exact hexpire showId seat hsame

theorem BlockedInv.taken_of_refuses {s : HoldState} {payload : Json} {order : ConcertOrder}
    {bookingRef : String} (hinv : BlockedInv s) (hroll : ¬ MeetsRollback s order)
    (hrefuses : s.Refuses payload order bookingRef) :
    ∃ seat ∈ order.seats, Taken s order.showId seat := by
  have hblocked := hrefuses.2
  rw [s.hold_complete order bookingRef, List.all_eq_false] at hblocked
  obtain ⟨seat, hseat, hfree⟩ := hblocked
  obtain ⟨holder, hholder⟩ : ∃ holder, s.store.holder order.showId seat = some holder :=
    Leases.free_eq_false_iff.mp (Bool.eq_false_iff.mpr hfree)
  refine ⟨seat, hseat, (hinv.justified _ seat holder hholder).taken hholder ?_⟩
  exact Bool.eq_false_iff.mpr fun hback => hroll ⟨seat, hseat, holder, hholder, hback⟩

theorem BlockedInv.taken_of_reserved {s : HoldState} (hinv : BlockedInv s) {showId : Int}
    {seat : Seat} (hseat : seat ∈ s.store.reserved showId) : Taken s showId seat := by
  obtain ⟨holder, hholder, hroll⟩ := hinv.reserved showId seat hseat
  exact (hinv.justified showId seat holder hholder).taken hholder hroll

/-- In a run within the hold TTL in which no step leaves a hold behind, a commit
that meets no rollback is refused only if one of its seats is taken, and every
reserved seat is taken. -/
theorem refused_only_if_taken {db : Db} {steps : List HoldStep} {final : HoldState}
    (hwithin : ∀ a ∈ steps, ∀ showId seat, a ≠ .expireHold showId seat)
    (hleaves : holdMachine.Along LeavesNoHold (.initial db) steps)
    (hrun : holdMachine.run (.initial db) steps = some final) :
    (∀ payload order bookingRef, ¬ MeetsRollback final order →
      final.Refuses payload order bookingRef →
        ∃ seat ∈ order.seats, Taken final order.showId seat) ∧
    ∀ showId, ∀ seat ∈ final.store.reserved showId, Taken final showId seat := by
  have hstep : ∀ s a next, BlockedInv s →
      (LeavesNoHold s a ∧ ∀ showId seat, a ≠ .expireHold showId seat) →
        holdMachine.step s a = some next → BlockedInv next :=
    fun _ _ _ hinv hcond h => hinv.step hcond.1 hcond.2 h
  have hinv : BlockedInv final := Machine.run_invariant_along hstep (BlockedInv.initial db)
    (hleaves.and_forall hwithin) hrun
  exact ⟨fun _ _ _ hroll hrefuses => hinv.taken_of_refuses hroll hrefuses,
    fun _ _ hseat => hinv.taken_of_reserved hseat⟩

/-! ## After a refund -/

/-- An order is booked and refunded. -/
def refundedOrder : List HoldStep :=
  orderSteps "first" 1 [.str "1-1"] ++
    [.handle "first" .quiet fun _ => "CAA000001", .refund .quiet 1 1]

/-- The refunded seat is not taken, but a commit for it is refused and the seat
stays reserved. -/
theorem refunded_seat_blocked :
    ∃ final order, holdMachine.run (.initial twoSeatDb) refundedOrder = some final ∧
      final.Refuses (concertPayload 2 [.str "1-1"]) order "second" ∧
      (∀ seat ∈ order.seats, ¬ Taken final order.showId seat) ∧
      cornerSeat ∈ final.store.reserved 1 ∧ ¬ Taken final 1 cornerSeat := by
  have hfinal : ((holdMachine.run (.initial twoSeatDb) refundedOrder).any fun s =>
      decide (cornerSeat ∈ s.store.reserved 1 ∧ ¬ Taken s 1 cornerSeat) &&
        (s.admitted (concertPayload 2 [.str "1-1"])).any fun order =>
          (s.hold order "second").1.2 = false ∧
            ∀ seat ∈ order.seats, ¬ Taken s order.showId seat) = true := by
    decide +kernel
  obtain ⟨final, hrun, hfinal⟩ := (Option.any_eq_true _ _).mp hfinal
  obtain ⟨hreserved, hfinal⟩ := Bool.and_eq_true_iff.mp hfinal
  obtain ⟨order, horder, hfinal⟩ := (Option.any_eq_true _ _).mp hfinal
  obtain ⟨hrefused, hfree⟩ := of_decide_eq_true hfinal
  exact ⟨final, order, hrun, ⟨horder, hrefused⟩, hfree, of_decide_eq_true hreserved⟩

theorem refused_only_if_taken_twoOrders :
    ∃ final order, holdMachine.run (.initial twoSeatDb) (orderSteps "first" 1 [.str "1-1"]) =
        some final ∧
      final.Refuses (concertPayload 2 [.str "1-1"]) order "second" ∧
      ∃ seat ∈ order.seats, Taken final order.showId seat := by
  have hfinal : ((holdMachine.run (.initial twoSeatDb) (orderSteps "first" 1 [.str "1-1"])).any
      fun s => (s.admitted (concertPayload 2 [.str "1-1"])).any fun order =>
        (s.hold order "second").1.2 = false ∧ ¬ MeetsRollback s order) = true := by
    decide +kernel
  obtain ⟨final, hrun, hfinal⟩ := (Option.any_eq_true _ _).mp hfinal
  obtain ⟨order, horder, hfinal⟩ := (Option.any_eq_true _ _).mp hfinal
  obtain ⟨hrefused, hroll⟩ := of_decide_eq_true hfinal
  refine ⟨final, order, hrun, ⟨horder, hrefused⟩, ?_⟩
  exact (refused_only_if_taken (by simp [orderSteps]) (by decide +kernel) hrun).1 _ order "second"
    hroll ⟨horder, hrefused⟩

end Ticketing
