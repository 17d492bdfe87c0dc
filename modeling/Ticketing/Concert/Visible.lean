import Ticketing.Concert.Bootstrap
import Ticketing.Concert.Claims

/-!
# Whether an accepted hold is shown at once

A commit writes the hold keys and the reserved set, and leaves the snapshots alone.
A response that builds the snapshot of the show reads the set and shows the hold; a
response that finds a snapshot shows what was true when it was stored.
-/

namespace Ticketing

open Foundation Python

/-- The payload has the seats among the reserved ones, and subtracts all reserved
ones from the capacity. -/
structure ShowPayload.Takes (payload : ShowPayload) (seats : List Seat) : Prop where
  listed : ∀ seat ∈ seats, seat.key ∈ payload.reservedSeats
  counted : payload.remainCount = max 0 (payload.totalCount - payload.reservedSeats.length)

/-- The response has an entry for the show, and what it says of the show takes the
seats into account. -/
def ShowsTaken (response : Option ConcertBootstrap) (showId : Int) (seats : List Seat) : Prop :=
  ∃ body, response = some body ∧
    (∃ entry ∈ body.shows, entry.payload.showId = showId) ∧
    ∀ entry ∈ body.shows, entry.payload.showId = showId → entry.payload.Takes seats

/-- No more seats remain than without these seats. -/
theorem ShowPayload.Takes.remainCount_le {payload : ShowPayload} {seats : List Seat}
    (h : payload.Takes seats) (hnodup : seats.Nodup) :
    payload.remainCount ≤ max 0 (payload.totalCount - seats.length) := by
  have hlength : seats.length ≤ payload.reservedSeats.length := by
    rw [← List.length_map (f := Seat.key)]
    apply (List.Nodup.subperm (hnodup.map Seat.key_injective) _).length_le
    intro key hkey
    obtain ⟨seat, hseat, rfl⟩ := List.mem_map.mp hkey
    exact h.listed seat hseat
  rw [h.counted]
  omega

/-! ## What a queued order can rely on -/

/-- Redis forgets a key. -/
def HoldStep.expires : HoldStep → Bool
  | .expireHold _ _ | .expireReserved _ => true
  | _ => false

/-- The order whose seats have been added to the reserved set and are not handled
yet. -/
def OrderStage.announced : OrderStage → Option ConcertOrder
  | reserved order | queued order => some order
  | _ => none

/-- Who is about to release seats still holds them. -/
def ReleasesOwn (s : HoldState) : Prop :=
  ∀ other order own, s.stage other = .releasing order own →
    ∀ seat ∈ own, s.store.holder order.showId seat = some other

/-- A request holds what it claims, and its seats are in the reserved set from the
second pipeline on. Of the others it matters that they release nothing else than
what they hold. -/
structure HoldListed (bookingRef : String) (s : HoldState) : Prop where
  releases : ReleasesOwn s
  kept : ∀ showId seats, (s.stage bookingRef).claims = some (showId, seats) →
    ∀ seat ∈ seats, s.store.holder showId seat = some bookingRef
  listed : ∀ order, (s.stage bookingRef).announced = some order →
    ∀ seat ∈ order.seats, seat ∈ s.store.reserved order.showId

section Steps

variable {s next : HoldState} {bookingRef : String}

theorem OrderStage.claims_of_announced {stage : OrderStage} {order : ConcertOrder}
    (h : stage.announced = some order) : stage.claims = some (order.showId, order.seats) := by
  cases stage with
  | reserved found | queued found =>
      obtain rfl := Option.some.inj h
      rfl
  | unused | granted _ | handled _ | refused _ _ | releasing _ _ | rejected _ | raised _ => cases h

/-- One request moves. What the others hold stays with them and stays listed. -/
theorem HoldListed.update (hinv : HoldListed bookingRef s) (mover : String)
    (hstage : ∀ other, other ≠ mover → next.stage other = s.stage other)
    (hothers : ∀ other, other ≠ mover → ∀ showId seat,
      s.store.holder showId seat = some other → next.store.holder showId seat = some other ∧
        (seat ∈ s.store.reserved showId → seat ∈ next.store.reserved showId))
    (hreleases : ∀ order own, next.stage mover = .releasing order own →
      ∀ seat ∈ own, next.store.holder order.showId seat = some mover)
    (hown : mover = bookingRef →
      (∀ showId seats, (next.stage mover).claims = some (showId, seats) →
        ∀ seat ∈ seats, next.store.holder showId seat = some mover) ∧
      ∀ order, (next.stage mover).announced = some order →
        ∀ seat ∈ order.seats, seat ∈ next.store.reserved order.showId) :
    HoldListed bookingRef next := by
  refine ⟨fun other order own hreleasing seat hseat => ?_,
    fun showId seats hclaims seat hseat => ?_, fun order hannounced seat hseat => ?_⟩
  · by_cases hsame : other = mover
    · subst hsame
      exact hreleases order own hreleasing seat hseat
    · rw [hstage other hsame] at hreleasing
      exact (hothers other hsame _ seat (hinv.releases other order own hreleasing seat hseat)).1
  · by_cases hsame : bookingRef = mover
    · subst hsame
      exact (hown rfl).1 showId seats hclaims seat hseat
    · rw [hstage bookingRef hsame] at hclaims
      exact (hothers bookingRef hsame showId seat (hinv.kept showId seats hclaims seat hseat)).1
  · by_cases hsame : bookingRef = mover
    · subst hsame
      exact (hown rfl).2 order hannounced seat hseat
    · rw [hstage bookingRef hsame] at hannounced
      have hholder := hinv.kept _ _ (OrderStage.claims_of_announced hannounced) seat hseat
      exact (hothers bookingRef hsame _ seat hholder).2 (hinv.listed order hannounced seat hseat)

/-- A request moves to a stage with the same claim or none, without touching
Redis. -/
theorem HoldListed.advance (hinv : HoldListed bookingRef s) {mover : String} {stage : OrderStage}
    (hstage : next.stage = (s.setStage mover stage).stage) (hstore : next.store = s.store)
    (hdrop : stage.toDrop = none)
    (hclaims : stage.claims = none ∨ stage.claims = (s.stage mover).claims)
    (hannounced : stage.announced = none ∨ stage.announced = (s.stage mover).announced) :
    HoldListed bookingRef next := by
  have hmover : next.stage mover = stage := by rw [hstage, HoldState.setStage_same]
  refine hinv.update mover (fun other hother => ?_) (fun other _ showId seat hholder => ?_)
    (fun order own hreleasing => ?_) fun hsame => ?_
  · rw [hstage, HoldState.setStage_other s stage hother]
  · rw [hstore]
    exact ⟨hholder, id⟩
  · rw [hmover] at hreleasing
    rw [hreleasing] at hdrop
    cases hdrop
  · subst hsame
    rw [hmover, hstore]
    refine ⟨fun showId seats hfound => ?_, fun order hfound => ?_⟩
    · rcases hclaims with hnone | hkept
      · rw [hnone] at hfound
        cases hfound
      · exact hinv.kept showId seats (hkept ▸ hfound)
    · rcases hannounced with hnone | hkept
      · rw [hnone] at hfound
        cases hfound
      · exact hinv.listed order (hkept ▸ hfound)

theorem HoldListed.commit (hinv : HoldListed bookingRef s) {payload : Json} {mover : String}
    (h : holdStep s (.commit payload mover) = some next) : HoldListed bookingRef next := by
  rcases commit_cases h with ⟨_, rfl⟩ | ⟨order, held, complete, store, _, _, hhold, rfl⟩
  · exact hinv
  · have hstore : (s.hold order mover).2 = store := by rw [hhold]
    have hreserved : (s.hold order mover).2.reserved = s.store.reserved :=
      HoldStore.setHolds_reserved
    rw [hstore] at hreserved
    refine hinv.update mover (fun other hother => s.setStage_other _ hother)
      (fun other _ showId seat hholder => ⟨?_, ?_⟩) (fun found own hreleasing seat hseat => ?_)
      fun _ => ⟨fun showId seats hclaims seat hseat => ?_, fun found hannounced => ?_⟩
    · rw [← hstore]
      exact s.hold_holder_of_some order hholder
    · rw [hreserved]
      exact id
    · rw [HoldState.setStage_same] at hreleasing
      exact HoldState.hold_claims hhold (hreleasing ▸ rfl) hseat
    · rw [HoldState.setStage_same] at hclaims
      exact HoldState.hold_claims hhold hclaims hseat
    · rw [HoldState.setStage_same, OrderStage.afterHold] at hannounced
      split at hannounced
      next => cases hannounced
      next => split at hannounced <;> cases hannounced

theorem HoldListed.reserve (hinv : HoldListed bookingRef s) {mover : String}
    (h : holdStep s (.reserve mover) = some next) : HoldListed bookingRef next := by
  obtain ⟨order, hstage, rfl⟩ := reserve_cases h
  refine hinv.update mover (fun other hother => s.setStage_other _ hother)
    (fun other _ showId seat hholder => ⟨hholder, fun hseat =>
      HoldStore.mem_reserve.mpr (.inr hseat)⟩) (fun found own hreleasing => ?_) ?_
  · rw [HoldState.setStage_same] at hreleasing
    cases hreleasing
  · rintro rfl
    rw [HoldState.setStage_same]
    refine ⟨fun showId seats hclaims seat hseat => ?_, fun found hannounced seat hseat => ?_⟩
    · exact hinv.kept showId seats (hstage ▸ hclaims) seat hseat
    · obtain rfl := Option.some.inj hannounced
      exact HoldStore.mem_reserve.mpr (.inl ⟨rfl, hseat⟩)

theorem HoldListed.probe (hinv : HoldListed bookingRef s) {mover : String}
    (h : holdStep s (.probe mover) = some next) : HoldListed bookingRef next := by
  obtain ⟨order, held, _, rfl⟩ := probe_cases h
  have hown : ∀ seat ∈ s.store.ownHolds order.showId held mover,
      s.store.holder order.showId seat = some mover :=
    fun seat hseat => (HoldStore.mem_ownHolds.mp hseat).2
  refine hinv.update mover (fun other hother => s.setStage_other _ hother)
    (fun other _ showId seat hholder => ⟨hholder, id⟩) (fun found own hreleasing => ?_)
    fun _ => ⟨fun showId seats hclaims => ?_, fun found hannounced => ?_⟩
  · rw [HoldState.setStage_same] at hreleasing
    obtain ⟨rfl, rfl⟩ := OrderStage.releasing.inj hreleasing
    exact hown
  · rw [HoldState.setStage_same] at hclaims
    obtain ⟨rfl, rfl⟩ := Prod.mk.inj (Option.some.inj hclaims)
    exact hown
  · rw [HoldState.setStage_same] at hannounced
    cases hannounced

theorem HoldListed.release (hinv : HoldListed bookingRef s) {mover : String}
    (h : holdStep s (.release mover) = some next) : HoldListed bookingRef next := by
  obtain ⟨order, own, hstage, rfl⟩ := release_cases h
  refine hinv.update mover (fun other hother => s.setStage_other _ hother)
    (fun other hother showId seat hholder => ?_) (fun found own' hreleasing => ?_)
    fun _ => ⟨fun showId seats hclaims => ?_, fun found hannounced => ?_⟩
  · -- what is deleted is held by the one that deletes it
    have hspared : ¬ (showId = order.showId ∧ seat ∈ own) := by
      rintro ⟨rfl, hseat⟩
      have hmine := hinv.releases mover order own hstage seat hseat
      rw [hholder] at hmine
      exact hother (Option.some.inj hmine)
    exact ⟨HoldStore.drop_holder_eq_some.mpr ⟨hholder, hspared⟩,
      fun hseat => HoldStore.mem_drop.mpr ⟨hseat, hspared⟩⟩
  · rw [HoldState.setStage_same] at hreleasing
    cases hreleasing
  · rw [HoldState.setStage_same] at hclaims
    cases hclaims
  · rw [HoldState.setStage_same] at hannounced
    cases hannounced

theorem OrderStage.toDrop_afterVerdict {stage : OrderStage} {order : ConcertOrder}
    (h : stage.message = some order) (verdict : Verdict) :
    (stage.afterVerdict order verdict).toDrop = none := by
  unfold afterVerdict
  split
  next =>
    cases stage with
    | queued _ | handled _ => rfl
    | unused | granted _ | reserved _ | refused _ _ | releasing _ _ | rejected _ | raised _ =>
        cases h
  next => rfl

theorem HoldListed.step {a : HoldStep} (hinv : HoldListed bookingRef s)
    (hexpire : a.expires = false) (h : holdStep s a = some next) : HoldListed bookingRef next := by
  cases a with
  | commit payload mover => exact hinv.commit h
  | reserve mover => exact hinv.reserve h
  | send mover =>
      obtain ⟨order, hstage, rfl⟩ := send_cases h
      refine hinv.advance rfl rfl rfl (.inr ?_) (.inr ?_)
      · rw [hstage]
        rfl
      · rw [hstage]
        rfl
  | probe mover => exact hinv.probe h
  | release mover => exact hinv.release h
  | raise mover =>
      obtain ⟨stage, hstage, rfl⟩ := raise_cases h
      have hraised : ∃ order, stage = .raised order := by
        cases hfound : s.stage mover with
        | granted order | reserved order | refused order _ | releasing order _ =>
            rw [hfound] at hstage
            exact ⟨order, (Option.some.inj hstage).symm⟩
        | unused | queued _ | handled _ | rejected _ | raised _ =>
            rw [hfound] at hstage
            cases hstage
      obtain ⟨order, rfl⟩ := hraised
      exact hinv.advance rfl rfl rfl (.inl rfl) (.inl rfl)
  | handle mover env codes =>
      obtain ⟨order, verdict, db, hmessage, _, rfl⟩ := handle_cases h
      refine hinv.advance rfl rfl (OrderStage.toDrop_afterVerdict hmessage verdict)
        (.inr (OrderStage.claims_afterVerdict hmessage verdict)) ?_
      unfold OrderStage.afterVerdict
      split
      next => exact .inr rfl
      next => exact .inl rfl
  | expireHold _ _ | expireReserved _ => cases hexpire
  | direct _ _ _ | refund _ _ _ | setSale _ _ =>
      obtain rfl := Option.some.inj h
      exact ⟨hinv.releases, hinv.kept, hinv.listed⟩

/-- A new reference has claimed nothing yet. -/
theorem HoldListed.start (hreleases : ReleasesOwn s) (hunused : s.stage bookingRef = .unused) :
    HoldListed bookingRef s := by
  refine ⟨hreleases, fun showId seats hclaims => ?_, fun order hannounced => ?_⟩
  · rw [hunused] at hclaims
    cases hclaims
  · rw [hunused] at hannounced
    cases hannounced

theorem releasesOwn_initial (db : Db) : ReleasesOwn (.initial db) := by
  intro other order own hreleasing
  cases hreleasing

/-- Until a key expires, the seats of a queued order are in the reserved set. -/
theorem queued_seats_reserved {final : HoldState} {steps : List HoldStep} {order : ConcertOrder}
    (hreleases : ReleasesOwn s) (hunused : s.stage bookingRef = .unused)
    (hsteps : ∀ a ∈ steps, a.expires = false) (hrun : holdMachine.run s steps = some final)
    (hqueued : final.stage bookingRef = .queued order) :
    ∀ seat ∈ order.seats, seat ∈ final.store.reserved order.showId := by
  have hstep : ∀ s a next, HoldListed bookingRef s → a.expires = false →
      holdMachine.step s a = some next → HoldListed bookingRef next :=
    fun _ _ _ hinv hexpire h => hinv.step hexpire h
  have hfinal := Machine.run_invariant_along hstep (.start hreleases hunused)
    (Machine.along_of_forall hsteps) hrun
  exact hfinal.listed order (by rw [hqueued]; rfl)

end Steps

/-! ## The next response -/

/-- The response is about the show: the concert has a header, and the show is one of
the rows that are read from the cache or the database. -/
def Covers (catalog : ConcertCatalog) (metaTtl : Int) (db : Db) (cache : ConcertCache)
    (concertId : Int) (query : Option Int) (showId : Int) : Prop :=
  (concertHeaderForBootstrap catalog concertId cache).1.isSome = true ∧
    showId ∈ (bootstrapRows catalog metaTtl db concertId query cache).map ConcertShow.showId

instance (catalog : ConcertCatalog) (metaTtl : Int) (db : Db) (cache : ConcertCache)
    (concertId : Int) (query : Option Int) (showId : Int) :
    Decidable (Covers catalog metaTtl db cache concertId query showId) :=
  inferInstanceAs (Decidable (_ ∧ _))

section Response

variable {catalog : ConcertCatalog} {metaTtl : Int} {s : HoldState} {cache : ConcertCache}
  {concertId : Int} {query : Option Int} {showId : Int}

/-- A payload that the cache does not have lists what is in the reserved set. -/
theorem entryPayload_takes {showIds : List Int} {row : ConcertShow} {seats : List Seat}
    (hasked : cache.hit row.showId = none → row.showId ∈ showIds)
    (hreserved : ∀ seat ∈ seats, seat ∈ s.store.reserved row.showId) :
    (entryPayload (fun _ => false) s cache showIds row).Takes seats ↔
      ∀ payload ∈ cache.hit row.showId, ∀ seat ∈ seats, seat.key ∈ payload.reservedSeats := by
  unfold entryPayload
  cases hhit : cache.hit row.showId with
  | none =>
      rw [Option.getD_none]
      refine ⟨fun _ payload hpayload => (by cases hpayload), fun _ => ⟨fun seat hseat => ?_, rfl⟩⟩
      change seat.key ∈ SeatKeys.ofShow _ (freshRow s.db row).showId
      rw [freshRow_showId]
      exact snapshot_mem_fetch (hasked hhit) (hreserved seat hseat)
  | some payload =>
      rw [Option.getD_some]
      constructor
      · rintro htakes _ ⟨rfl⟩
        exact htakes.listed
      · intro hlists
        obtain ⟨written, _, _, rfl, _⟩ := hit_written hhit
        exact ⟨hlists _ rfl, rfl⟩

theorem mem_missIds {rows : List ConcertShow} {row : ConcertShow} (hrow : row ∈ rows)
    (hmiss : cache.hit row.showId = none) : row.showId ∈ missIds cache rows :=
  List.mem_map_of_mem (List.mem_filter.mpr ⟨hrow, by rw [hmiss]; rfl⟩)

/-- A response is about a show exactly if it has an entry for it. -/
theorem covers_iff {s : HoldState} :
    Covers catalog metaTtl s.db cache concertId query showId ↔
      ∃ body, (getConcertBookingBootstrap catalog metaTtl (fun _ => false) s concertId query
          cache).1 = some body ∧
        ∃ entry ∈ body.shows, entry.payload.showId = showId := by
  constructor
  · rintro ⟨hheader, hcovered⟩
    obtain ⟨row, hrow, hid⟩ := List.mem_map.mp hcovered
    have hsome : (getConcertBookingBootstrap catalog metaTtl (fun _ => false) s concertId query
        cache).1.isSome = true := by
      refine bootstrap_isSome.mpr ⟨hheader, fun asked hasked => ?_⟩
      unfold bootstrapRows at hrow
      rw [Option.mem_def.mp hasked] at hrow
      rw [Option.mem_toList] at hrow
      exact Option.isSome_of_mem hrow
    obtain ⟨body, hbody⟩ := Option.isSome_iff_exists.mp hsome
    refine ⟨body, hbody, (exists_entry_iff (·.showId = showId) hbody).mpr ⟨row, hrow, ?_⟩⟩
    rw [entryPayload_showId, hid]
  · rintro ⟨body, hbody, hentry⟩
    obtain ⟨row, hrow, hid⟩ := (exists_entry_iff (·.showId = showId) hbody).mp hentry
    rw [entryPayload_showId] at hid
    exact ⟨(bootstrap_isSome.mp (Option.isSome_of_eq_some hbody)).1,
      List.mem_map.mpr ⟨row, hrow, hid⟩⟩

/-- What a response shows of seats in the reserved set. -/
theorem showsTaken_iff {seats : List Seat}
    (hreserved : ∀ seat ∈ seats, seat ∈ s.store.reserved showId) :
    ShowsTaken (getConcertBookingBootstrap catalog metaTtl (fun _ => false) s concertId query
        cache).1 showId seats ↔
      Covers catalog metaTtl s.db cache concertId query showId ∧
        ∀ payload ∈ cache.hit showId, ∀ seat ∈ seats, seat.key ∈ payload.reservedSeats := by
  have htakes : ∀ row ∈ bootstrapRows catalog metaTtl s.db concertId query cache,
      row.showId = showId →
        ((entryPayload (fun _ => false) s cache
            (missIds cache (bootstrapRows catalog metaTtl s.db concertId query cache)) row).Takes
              seats ↔
          ∀ payload ∈ cache.hit showId, ∀ seat ∈ seats, seat.key ∈ payload.reservedSeats) := by
    rintro row hrow rfl
    exact entryPayload_takes (mem_missIds hrow) hreserved
  constructor
  · rintro ⟨body, hbody, hentry, hall⟩
    refine ⟨covers_iff.mpr ⟨body, hbody, hentry⟩, ?_⟩
    obtain ⟨row, hrow, hid⟩ := (exists_entry_iff (·.showId = showId) hbody).mp hentry
    have hrowTakes := (forall_entries_iff
      (fun payload => payload.showId = showId → payload.Takes seats) hbody).mp hall row hrow hid
    rw [entryPayload_showId] at hid
    exact (htakes row hrow hid).mp hrowTakes
  · rintro ⟨hcovers, hlists⟩
    obtain ⟨body, hbody, hentry⟩ := covers_iff.mp hcovers
    refine ⟨body, hbody, hentry, (forall_entries_iff
      (fun payload => payload.showId = showId → payload.Takes seats) hbody).mpr ?_⟩
    intro row hrow hid
    rw [entryPayload_showId] at hid
    exact (htakes row hrow hid).mpr hlists

end Response

/-- Between the answer QUEUED and the handling of the message, with no key expiring
in between and whatever other requests do, a response shows the seats of the order
as taken exactly if it is about the show, and the cache has no snapshot of the show
or one with these seats. -/
theorem queued_seats_shown_iff {s final : HoldState} {steps : List HoldStep}
    {bookingRef : String} {order : ConcertOrder} (hreleases : ReleasesOwn s)
    (hunused : s.stage bookingRef = .unused) (hsteps : ∀ a ∈ steps, a.expires = false)
    (hrun : holdMachine.run s steps = some final)
    (hqueued : final.stage bookingRef = .queued order) (catalog : ConcertCatalog)
    (metaTtl : Int) (cache : ConcertCache) (concertId : Int) (query : Option Int) :
    ShowsTaken (getConcertBookingBootstrap catalog metaTtl (fun _ => false) final concertId query
        cache).1 order.showId order.seats ↔
      Covers catalog metaTtl final.db cache concertId query order.showId ∧
        ∀ payload ∈ cache.hit order.showId, ∀ seat ∈ order.seats,
          seat.key ∈ payload.reservedSeats :=
  showsTaken_iff (queued_seats_reserved hreleases hunused hsteps hrun hqueued)

/-! ## A page that was loaded before the order -/

/-- The concert of the show with two seats. -/
def oneConcertCatalog : ConcertCatalog where
  concerts := ⟨[⟨1, "Concert", none, none, none, none, 120, none, none, "ACTIVE", "N"⟩],
    by decide, by decide⟩
  showDate _ := ⟨⟨2026, 1, 1⟩, 19, 0, 0⟩

/-- The cache after somebody has loaded the booking page with nothing sold. -/
def loadedCache : ConcertCache :=
  (getConcertBookingBootstrap oneConcertCatalog 120 (fun _ => false) (.initial twoSeatDb) 1 none
    .empty).2

theorem oneOrder_run :
    ∃ final order, holdMachine.run (.initial twoSeatDb) (orderSteps "first" 1 [.str "1-1"]) =
        some final ∧ final.stage "first" = .queued order ∧ order.showId = 1 ∧
      cornerSeat ∈ order.seats ∧ ∀ cache ∈ [.empty, loadedCache], ∀ query ∈ [none, some 1],
        Covers oneConcertCatalog 120 final.db cache 1 query 1 := by
  have hfinal : ((holdMachine.run (.initial twoSeatDb) (orderSteps "first" 1 [.str "1-1"])).any
      fun s => (s.stage "first").awaited.any fun order =>
        order.showId = 1 ∧ cornerSeat ∈ order.seats ∧
          ∀ cache ∈ [.empty, loadedCache], ∀ query ∈ [none, some 1],
            Covers oneConcertCatalog 120 s.db cache 1 query 1) = true := by
    decide +kernel
  obtain ⟨final, hrun, hfinal⟩ := (Option.any_eq_true _ _).mp hfinal
  obtain ⟨order, hqueued, hfinal⟩ := (Option.any_eq_true _ _).mp hfinal
  exact ⟨final, order, hrun, OrderStage.awaited_eq_some.mp hqueued, of_decide_eq_true hfinal⟩

/-- The order is answered QUEUED, and both responses still offer its seat. -/
theorem cached_snapshot_hides_hold :
    ∃ final order, holdMachine.run (.initial twoSeatDb) (orderSteps "first" 1 [.str "1-1"]) =
        some final ∧ final.stage "first" = .queued order ∧
      ∀ query ∈ [none, some order.showId],
        Covers oneConcertCatalog 120 final.db loadedCache 1 query order.showId ∧
          ¬ ShowsTaken (getConcertBookingBootstrap oneConcertCatalog 120 (fun _ => false) final 1
            query loadedCache).1 order.showId order.seats := by
  obtain ⟨final, order, hrun, hqueued, hshow, hcorner, hcovers⟩ := oneOrder_run
  have hhit : (loadedCache.hit 1).map ShowPayload.reservedSeats = some [] := by decide +kernel
  obtain ⟨payload, hpayload, hempty⟩ := Option.map_eq_some_iff.mp hhit
  have hreserved := queued_seats_reserved (releasesOwn_initial twoSeatDb) rfl (by decide) hrun
    hqueued
  refine ⟨final, order, hrun, hqueued, fun query hquery => ?_⟩
  rw [hshow] at hquery hreserved ⊢
  refine ⟨hcovers loadedCache (by simp) query hquery, fun hshows => ?_⟩
  have hkey := ((showsTaken_iff hreserved).mp hshows).2 payload hpayload cornerSeat hcorner
  rw [hempty] at hkey
  cases hkey

theorem queued_seats_shown_iff_notLoaded :
    ∃ final order, holdMachine.run (.initial twoSeatDb) (orderSteps "first" 1 [.str "1-1"]) =
        some final ∧ final.stage "first" = .queued order ∧
      ShowsTaken (getConcertBookingBootstrap oneConcertCatalog 120 (fun _ => false) final 1
        (some 1) .empty).1 order.showId order.seats := by
  obtain ⟨final, order, hrun, hqueued, hshow, _, hcovers⟩ := oneOrder_run
  refine ⟨final, order, hrun, hqueued, ?_⟩
  refine (queued_seats_shown_iff (releasesOwn_initial twoSeatDb) rfl (by decide) hrun hqueued
    oneConcertCatalog 120 .empty 1 (some 1)).mpr ⟨?_, fun payload hpayload => by cases hpayload⟩
  rw [hshow]
  exact hcovers .empty (by simp) (some 1) (by simp)

end Ticketing
