import Ticketing.Concert.Holding

/-!
# Requests keep their holds

From its grant to its last stage a request is the holder of all its seats,
unless a hold key has expired. In particular `release_seats` deletes holds of its
own request only: between its two pipelines a hold can pass to another request
through an expiry, and in no other way.
-/

namespace Ticketing

open Foundation Python

/-- The seats that a request counts on holding, with their show. -/
def OrderStage.claims : OrderStage → Option (Int × List Seat)
  | granted order | reserved order | queued order | handled order =>
      some (order.showId, order.seats)
  | releasing order own => some (order.showId, own)
  | _ => none

/-- Every claimed seat is held by the request that claims it, or is one of the
`gone` ones. -/
def HoldsKept (gone : Int → Seat → Prop) (s : HoldState) : Prop :=
  ∀ bookingRef showId seats, (s.stage bookingRef).claims = some (showId, seats) →
    ∀ seat ∈ seats, gone showId seat ∨ s.store.holder showId seat = some bookingRef

section Steps

variable {gone : Int → Seat → Prop} {s next : HoldState} {bookingRef : String}

/-- An order that the first pipeline grants found all its seats free. -/
theorem HoldState.hold_complete (s : HoldState) (order : ConcertOrder) (bookingRef : String) :
    (s.hold order bookingRef).1.2 = order.seats.all (s.store.free order.showId) := by
  rw [hold, HoldStore.setHolds_acquired order.nodup]

theorem HoldState.hold_held (s : HoldState) (order : ConcertOrder) (bookingRef : String) :
    (s.hold order bookingRef).1.1 = order.seats.takeWhile (s.store.free order.showId) := by
  rw [hold, HoldStore.setHolds_acquired order.nodup]

/-- The first pipeline takes no hold from anyone. -/
theorem HoldState.hold_holder_of_some (s : HoldState) (order : ConcertOrder) {showId : Int}
    {seat : Seat} {holder : String} (h : s.store.holder showId seat = some holder) :
    (s.hold order bookingRef).2.holder showId seat = some holder := by
  rw [hold, HoldStore.setHolds_holder, if_neg, h]
  rintro ⟨_, hfree⟩
  rw [HoldStore.free_iff, h] at hfree
  cases hfree

/-- Only a granted order claims anything after the first pipeline, and then all its
seats were free. -/
theorem HoldState.hold_claims {order : ConcertOrder} {held : List Seat} {complete : Bool}
    {store : HoldStore} (hhold : s.hold order bookingRef = ((held, complete), store))
    {showId : Int} {seats : List Seat}
    (h : (OrderStage.afterHold order held complete).claims = some (showId, seats)) {seat : Seat}
    (hseat : seat ∈ seats) : store.holder showId seat = some bookingRef := by
  have hstore : (s.hold order bookingRef).2 = store := by rw [hhold]
  have hcomplete := s.hold_complete order bookingRef
  rw [hhold] at hcomplete
  dsimp only at hcomplete
  rw [OrderStage.afterHold] at h
  split at h
  next htrue =>
    simp only [OrderStage.claims, Option.some.injEq, Prod.mk.injEq] at h
    obtain ⟨rfl, rfl⟩ := h
    rw [htrue] at hcomplete
    have hfree := List.all_eq_true.mp hcomplete.symm seat hseat
    rw [← hstore, HoldState.hold, HoldStore.setHolds_holder]
    exact if_pos ⟨⟨rfl, hseat⟩, hfree⟩
  next => split at h <;> cases h

/-- The claim of one request changes, and the others keep their holds. -/
theorem HoldsKept.update (hinv : HoldsKept gone s) (bookingRef : String)
    (hstage : ∀ other, other ≠ bookingRef → next.stage other = s.stage other)
    (hothers : ∀ other, other ≠ bookingRef → ∀ showId seat,
      s.store.holder showId seat = some other →
        gone showId seat ∨ next.store.holder showId seat = some other)
    (hown : ∀ showId seats, (next.stage bookingRef).claims = some (showId, seats) →
      ∀ seat ∈ seats, gone showId seat ∨ next.store.holder showId seat = some bookingRef) :
    HoldsKept gone next := by
  intro other showId seats hclaims seat hseat
  by_cases hsame : other = bookingRef
  · subst hsame
    exact hown showId seats hclaims seat hseat
  · rw [hstage other hsame] at hclaims
    rcases hinv other showId seats hclaims seat hseat with hgone | hholder
    · exact .inl hgone
    · exact hothers other hsame showId seat hholder

/-- A request moves to a stage with the same claim or none, without touching
Redis. -/
theorem HoldsKept.advance (hinv : HoldsKept gone s) {stage : OrderStage}
    (hclaims : stage.claims = none ∨ stage.claims = (s.stage bookingRef).claims)
    (hstage : next.stage = (s.setStage bookingRef stage).stage)
    (hholder : next.store.holder = s.store.holder) : HoldsKept gone next := by
  refine hinv.update bookingRef (fun other hother => ?_) (fun other _ showId seat h => ?_)
    fun showId seats h => ?_
  · rw [hstage, HoldState.setStage_other s stage hother]
  · rw [hholder]
    exact .inr h
  · rw [hstage, HoldState.setStage_same] at h
    rw [hholder]
    rcases hclaims with hnone | hsame
    · rw [hnone] at h
      cases h
    · exact hinv bookingRef showId seats (hsame ▸ h)

theorem HoldsKept.commit (hinv : HoldsKept gone s) {payload : Json}
    (h : holdStep s (.commit payload bookingRef) = some next) : HoldsKept gone next := by
  rcases commit_cases h with ⟨_, rfl⟩ | ⟨order, held, complete, store, _, _, hhold, rfl⟩
  · exact hinv
  · have hstore : (s.hold order bookingRef).2 = store := by rw [hhold]
    refine hinv.update bookingRef (fun other hother => s.setStage_other _ hother)
      (fun other _ showId seat hholder => .inr ?_) fun showId seats hclaims seat hseat => .inr ?_
    · rw [← hstore]
      exact s.hold_holder_of_some order hholder
    · rw [HoldState.setStage_same] at hclaims
      exact HoldState.hold_claims hhold hclaims hseat

theorem HoldsKept.release (hinv : HoldsKept gone s)
    (h : holdStep s (.release bookingRef) = some next) : HoldsKept gone next := by
  obtain ⟨order, own, hstage, rfl⟩ := release_cases h
  refine hinv.update bookingRef (fun other hother => s.setStage_other _ hother)
    (fun other hother showId seat hholder => ?_) fun showId seats hclaims => ?_
  · by_cases hown : showId = order.showId ∧ seat ∈ own
    · obtain ⟨rfl, hseat⟩ := hown
      have hclaims : (s.stage bookingRef).claims = some (order.showId, own) := by
        rw [hstage]
        rfl
      -- another holder of a seat that is about to be deleted has it through an expiry
      refine .inl ((hinv bookingRef _ _ hclaims seat hseat).resolve_right fun hmine => ?_)
      rw [hholder] at hmine
      exact hother (Option.some.inj hmine)
    · exact .inr (HoldStore.drop_holder_eq_some.mpr ⟨hholder, hown⟩)
  · rw [HoldState.setStage_same] at hclaims
    cases hclaims

theorem OrderStage.claims_afterRaise {stage after : OrderStage}
    (h : stage.afterRaise = some after) : after.claims = none := by
  cases stage with
  | granted order | reserved order | refused order held | releasing order own =>
      cases h
      rfl
  | unused | queued order | handled order | rejected order | raised order => cases h

theorem OrderStage.claims_afterVerdict {stage : OrderStage} {order : ConcertOrder}
    (h : stage.message = some order) (verdict : Verdict) :
    (stage.afterVerdict order verdict).claims = stage.claims := by
  unfold afterVerdict
  split
  next => rfl
  next =>
    cases stage with
    | queued other | handled other => cases h; rfl
    | unused | granted other | reserved other | refused other held | releasing other own
    | rejected other | raised other => cases h

/-- Holds are lost by expiry only. -/
theorem HoldsKept.step {gone' : Int → Seat → Prop} {a : HoldStep} (hinv : HoldsKept gone s)
    (hmono : ∀ showId seat, gone showId seat → gone' showId seat)
    (hexpire : ∀ showId seat, a = .expireHold showId seat → gone' showId seat)
    (h : holdStep s a = some next) : HoldsKept gone' next := by
  replace hinv : HoldsKept gone' s := fun ref showId seats hclaims seat hseat =>
    (hinv ref showId seats hclaims seat hseat).imp_left (hmono showId seat)
  cases a with
  | commit payload bookingRef => exact hinv.commit h
  | reserve bookingRef =>
      obtain ⟨order, hstage, rfl⟩ := reserve_cases h
      refine hinv.advance (.inr ?_) rfl rfl
      rw [hstage]
      rfl
  | send bookingRef =>
      obtain ⟨order, hstage, rfl⟩ := send_cases h
      refine hinv.advance (.inr ?_) rfl rfl
      rw [hstage]
      rfl
  | probe bookingRef =>
      obtain ⟨order, held, _, rfl⟩ := probe_cases h
      refine hinv.update bookingRef (fun other hother => s.setStage_other _ hother)
        (fun _ _ _ _ hholder => .inr hholder) fun showId seats hclaims seat hseat => .inr ?_
      rw [HoldState.setStage_same] at hclaims
      simp only [OrderStage.claims, Option.some.injEq, Prod.mk.injEq] at hclaims
      obtain ⟨rfl, rfl⟩ := hclaims
      exact (HoldStore.mem_ownHolds.mp hseat).2
  | release bookingRef => exact hinv.release h
  | raise bookingRef =>
      obtain ⟨stage, hstage, rfl⟩ := raise_cases h
      exact hinv.advance (.inl (OrderStage.claims_afterRaise hstage)) rfl rfl
  | handle bookingRef env codes =>
      obtain ⟨order, verdict, db, hmessage, _, rfl⟩ := handle_cases h
      exact hinv.advance (.inr (OrderStage.claims_afterVerdict hmessage verdict)) rfl rfl
  | expireHold expiredShow expired =>
      obtain rfl := Option.some.inj h
      intro ref showId seats hclaims seat hseat
      rcases hinv ref showId seats hclaims seat hseat with hgone | hholder
      · exact .inl hgone
      · by_cases hsame : showId = expiredShow ∧ seat = expired
        · obtain ⟨rfl, rfl⟩ := hsame
          exact .inl (hexpire showId seat rfl)
        · exact .inr (HoldStore.expireHold_holder_eq_some.mpr ⟨hholder, hsame⟩)
  | direct _ _ _ | refund _ _ _ | setSale _ _ | expireReserved _ =>
      obtain rfl := Option.some.inj h
      exact hinv

theorem HoldsKept.initial (gone : Int → Seat → Prop) (db : Db) :
    HoldsKept gone (.initial db) := by
  intro ref showId seats hclaims
  cases hclaims

end Steps

end Ticketing
