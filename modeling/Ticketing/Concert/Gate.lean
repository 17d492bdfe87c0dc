import Ticketing.Concert.Claims

/-!
# What QUEUED says about a seat

`commit_concert_booking` asks Redis and not the database, so the hold of a sold
seat is all that keeps the seat from being accepted again. The hold is there as
long as it has not expired, if the seat was sold through an order at all.
-/

namespace Ticketing

open Foundation Python

/-- One of the steps handles a message for the seat that no commit has sent. -/
def SentDirectly (steps : List HoldStep) (showId : Int) (seat : Seat) : Prop :=
  ∃ env codes body, .direct env codes body ∈ steps ∧
    ∃ request ∈ decodeRequest "show_id" body, showId = request.showingId ∧ seat ∈ request.seats

/-- One of the steps is the expiry of the seat's hold key. -/
def HoldExpired (steps : List HoldStep) (showId : Int) (seat : Seat) : Prop :=
  .expireHold showId seat ∈ steps

/-- Every ACTIVE seat of the show is in the message of an order, unless it was
booked by a message that no commit has sent. -/
def SoldByOrder (showId : Int) (steps : List HoldStep) (s : HoldState) : Prop :=
  ∀ seat, s.db.concerts.Active showId seat → SentDirectly steps showId seat ∨
    ∃ bookingRef order, (s.stage bookingRef).message = some order ∧ showId = order.showId ∧
      seat ∈ order.seats

theorem SoldByOrder.step {showId : Int} {before : List HoldStep} {s next : HoldState}
    {a : HoldStep} (hinv : SoldByOrder showId before s) (h : holdStep s a = some next) :
    SoldByOrder showId (before ++ [a]) next := by
  intro seat hactive
  rcases active_of_holdStep h hactive with hold | hbooks
  · rcases hinv seat hold with ⟨env, codes, body, hmem, hrequest⟩ |
      ⟨bookingRef, order, hmessage, hseat⟩
    · exact .inl ⟨env, codes, body, List.mem_append_left [a] hmem, hrequest⟩
    · exact .inr ⟨bookingRef, order, message_of_holdStep h hmessage, hseat⟩
  · cases a with
    | handle bookingRef env codes =>
        obtain ⟨order, hmessage, hbooks⟩ := hbooks
        obtain ⟨_, hshow, hseat⟩ := ConcertOrder.booksSeat_iff.mp hbooks
        exact .inr ⟨bookingRef, order, message_of_holdStep h hmessage, hshow, hseat⟩
    | direct env codes body =>
        exact .inl ⟨env, codes, body, List.mem_append_right before List.mem_cons_self, hbooks.2⟩
    | commit _ _ | reserve _ | send _ | probe _ | release _ | raise _ | refund _ _ _
    | setSale _ _ | expireHold _ _ | expireReserved _ => cases hbooks

/-- What the steps taken so far say about holds and sold seats. -/
structure GateInv (showId : Int) (steps : List HoldStep) (s : HoldState) : Prop where
  kept : HoldsKept (HoldExpired steps) s
  sold : SoldByOrder showId steps s

theorem GateInv.step {showId : Int} {before : List HoldStep} {s next : HoldState}
    {a : HoldStep} (hinv : GateInv showId before s) (h : holdStep s a = some next) :
    GateInv showId (before ++ [a]) next := by
  refine ⟨hinv.kept.step ?_ ?_ h, hinv.sold.step h⟩
  · intro expiredShow seat hmem
    exact List.mem_append_left [a] hmem
  · rintro expiredShow seat rfl
    exact List.mem_append_right before List.mem_cons_self

/-- A sold seat that the requests at hand still hold belongs to one that is in
the queue already. -/
theorem GateInv.reserved_unsold {showId : Int} {steps : List HoldStep} {s : HoldState}
    {bookingRef : String} {order : ConcertOrder} {seat : Seat} (hinv : GateInv showId steps s)
    (hstage : s.stage bookingRef = .reserved order) (hshow : showId = order.showId)
    (hseat : seat ∈ order.seats) (hactive : s.db.concerts.Active showId seat) :
    HoldExpired steps showId seat ∨ SentDirectly steps showId seat := by
  rcases hinv.sold seat hactive with hdirect | ⟨seller, sold, hmessage, hsoldShow, hsoldSeat⟩
  · exact .inr hdirect
  · have hmine : (s.stage bookingRef).claims = some (showId, order.seats) := by
      rw [hstage, hshow]
      rfl
    have hother : (s.stage seller).claims = some (showId, sold.seats) := by
      rw [hsoldShow]
      cases hseller : s.stage seller with
      | queued found | handled found =>
          rw [hseller] at hmessage
          cases hmessage
          rfl
      | unused | granted _ | reserved _ | refused _ _ | releasing _ _ | rejected _ | raised _ =>
          rw [hseller] at hmessage
          cases hmessage
    rcases hinv.kept bookingRef showId _ hmine seat hseat with hgone | hholder
    · exact .inl hgone
    rcases hinv.kept seller showId _ hother seat hsoldSeat with hgone | hsoldHolder
    · exact .inl hgone
    · -- both requests hold the seat, but one is queued and the other is not
      rw [hholder] at hsoldHolder
      rw [← Option.some.inj hsoldHolder, hstage] at hmessage
      cases hmessage

/-- When an order is answered QUEUED, each of its seats that is sold had its hold
key expire before, or was booked by a message that no commit has sent. -/
theorem queued_seat_unsold {db : Db} {steps : List HoldStep} {final : HoldState}
    {bookingRef : String} {order : ConcertOrder} {seat : Seat}
    (hstart : db.concerts.activeSeats order.showId = [])
    (hrun : holdMachine.run (.initial db) (steps ++ [.send bookingRef]) = some final)
    (hqueued : final.stage bookingRef = .queued order) (hseat : seat ∈ order.seats)
    (hactive : final.db.concerts.Active order.showId seat) :
    HoldExpired steps order.showId seat ∨ SentDirectly steps order.showId seat := by
  have hstep : ∀ before s a next, GateInv order.showId before s →
      holdMachine.step s a = some next → GateInv order.showId (before ++ [a]) next :=
    fun _ _ _ _ hinv h => hinv.step h
  have hinit : GateInv order.showId [] (.initial db) := by
    refine ⟨HoldsKept.initial _ db, fun seat hactive => ?_⟩
    change db.concerts.Active order.showId seat at hactive
    rw [Ledger.active_iff_mem, hstart] at hactive
    cases hactive
  obtain ⟨middle, hbefore, hsend⟩ := holdMachine.run_concat_eq_some.mp hrun
  have hinv : GateInv order.showId steps middle :=
    Machine.run_invariant_history hstep hinit hbefore
  obtain ⟨found, hstage, rfl⟩ := send_cases hsend
  rw [HoldState.setStage_same] at hqueued
  cases hqueued
  exact hinv.reserved_unsold hstage rfl hseat hactive

/-! ## The same seat twice -/

/-- A seat is sold, its hold expires, and the seat is ordered again. -/
def orderedAfterExpiry : List HoldStep :=
  orderSteps "first" 1 [.str "1-1"] ++
    [.handle "first" .quiet fun _ => "CAA000001", .expireHold 1 cornerSeat] ++
      orderSteps "second" 2 [.str "1-1"]

/-- A seat is booked by a message that was put into the queue directly, and then
ordered. -/
def orderedAfterDirect : List HoldStep :=
  .direct .quiet (fun _ => "CAA000001") (concertBody "first" 1 [.str "1-1"]) ::
    orderSteps "second" 2 [.str "1-1"]

theorem orderedTwice_run {steps : List HoldStep}
    (hsteps : steps ∈ [orderedAfterExpiry, orderedAfterDirect]) :
    ∃ final order, holdMachine.run (.initial twoSeatDb) steps = some final ∧
      final.stage "second" = .queued order ∧
      ∃ seat ∈ order.seats, final.db.concerts.Active order.showId seat := by
  have hfinal : ∀ steps ∈ [orderedAfterExpiry, orderedAfterDirect],
      ((holdMachine.run (.initial twoSeatDb) steps).any fun s =>
        (s.stage "second").awaited.any fun order =>
          ∃ seat ∈ order.seats, s.db.concerts.Active order.showId seat) = true := by
    decide +kernel
  obtain ⟨final, hrun, hfinal⟩ := (Option.any_eq_true _ _).mp (hfinal steps hsteps)
  obtain ⟨order, hqueued, hsold⟩ := (Option.any_eq_true _ _).mp hfinal
  exact ⟨final, order, hrun, OrderStage.awaited_eq_some.mp hqueued, of_decide_eq_true hsold⟩

/-- QUEUED for a sold seat, in both ways. -/
theorem sold_seat_queued :
    (∃ final order, holdMachine.run (.initial twoSeatDb) orderedAfterExpiry = some final ∧
      final.stage "second" = .queued order ∧
      ∃ seat ∈ order.seats, final.db.concerts.Active order.showId seat) ∧
    ∃ final order, holdMachine.run (.initial twoSeatDb) orderedAfterDirect = some final ∧
      final.stage "second" = .queued order ∧
      ∃ seat ∈ order.seats, final.db.concerts.Active order.showId seat :=
  ⟨orderedTwice_run (by simp), orderedTwice_run (by simp)⟩

theorem queued_seat_unsold_orderedAfterExpiry :
    ∃ showId seat, HoldExpired orderedAfterExpiry.dropLast showId seat ∨
      SentDirectly orderedAfterExpiry.dropLast showId seat := by
  obtain ⟨final, order, hrun, hqueued, seat, hseat, hactive⟩ :=
    orderedTwice_run List.mem_cons_self
  have hlast : orderedAfterExpiry = orderedAfterExpiry.dropLast ++ [.send "second"] := rfl
  rw [hlast] at hrun
  exact ⟨order.showId, seat, queued_seat_unsold rfl hrun hqueued hseat hactive⟩

end Ticketing
