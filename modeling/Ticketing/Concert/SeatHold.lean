import Mathlib.Data.List.Nodup
import Ticketing.Foundation.Leases
import Ticketing.Seat

/-!
# Seat holds in Redis

`seat_hold.py`. A seat of a show is held by a key that is set NX with an
expiry, and listed in the reserved set of the show, which expires as a whole.
The functions go through several pipelines; each pipeline is one step, and here
is what each of them does. The key `concert:holdmeta:` is left out, because
nothing reads it.
-/

namespace Ticketing

open Foundation

/-- The hold keys and the reserved sets. References are UUID texts, hence not
empty. -/
structure HoldStore where
  holds : Leases (Int × Seat) String
  reserved : Int → List Seat

/-- The hold keys of some seats of a show. -/
def seatKeys (showId : Int) (seats : List Seat) : List (Int × Seat) :=
  seats.map fun seat => (showId, seat)

theorem mem_seatKeys {showId other : Int} {seats : List Seat} {seat : Seat} :
    (other, seat) ∈ seatKeys showId seats ↔ other = showId ∧ seat ∈ seats := by
  simp only [seatKeys, List.mem_map, Prod.mk.injEq]
  constructor
  · rintro ⟨found, hfound, rfl, rfl⟩
    exact ⟨rfl, hfound⟩
  · rintro ⟨rfl, hseat⟩
    exact ⟨seat, hseat, rfl, rfl⟩

theorem nodup_seatKeys {showId : Int} {seats : List Seat} (hnodup : seats.Nodup) :
    (seatKeys showId seats).Nodup := by
  apply List.Nodup.map _ hnodup
  intro left right hsame
  exact (Prod.mk.inj hsame).2

namespace HoldStore

def empty : HoldStore := ⟨.empty, fun _ => []⟩

/-- The reference that holds the seat. -/
def holder (store : HoldStore) (showId : Int) (seat : Seat) : Option String :=
  store.holds.owner (showId, seat)

/-- The first pipeline of `try_hold_seats` and the loop over its results: the
seats that are held when the loop ends, and whether it went through. -/
def setHolds (store : HoldStore) (showId : Int) (seats : List Seat) (bookingRef : String) :
    (List Seat × Bool) × HoldStore :=
  let (results, holds) := Leases.setNxAll bookingRef (seatKeys showId seats) store.holds
  (Leases.acquired seats results, { store with holds := holds })

/-- The second pipeline of `try_hold_seats`. -/
def reserve (store : HoldStore) (showId : Int) (seats : List Seat) : HoldStore :=
  { store with reserved := fun other =>
      if other = showId then seats ∪ store.reserved showId else store.reserved other }

/-- The first pipeline of `release_seats`: the seats that are still held by the
reference. -/
def ownHolds (store : HoldStore) (showId : Int) (seats : List Seat) (bookingRef : String) :
    List Seat :=
  seats.filter fun seat => store.holder showId seat = some bookingRef

/-- The second pipeline of `release_seats`. -/
def drop (store : HoldStore) (showId : Int) (seats : List Seat) : HoldStore where
  holds := store.holds.del (seatKeys showId seats)
  reserved other :=
    if other = showId then (store.reserved showId).filter (· ∉ seats) else store.reserved other

def expireHold (store : HoldStore) (showId : Int) (seat : Seat) : HoldStore :=
  { store with holds := store.holds.del [(showId, seat)] }

def expireReserved (store : HoldStore) (showId : Int) : HoldStore :=
  { store with reserved := fun other => if other = showId then [] else store.reserved other }

/-- `reserved_seats_snapshot`, with an empty list if Redis cannot answer. -/
def reservedSeatsSnapshot (store : HoldStore) (fails : Int → Bool) (showId : Int) : List Seat :=
  if fails showId then [] else store.reserved showId

/-- `reserved_count`, 0 if Redis cannot answer. -/
def reservedCount (store : HoldStore) (fails : Int → Bool) (showId : Int) : Int :=
  if fails showId then 0 else (store.reserved showId).length

/-! ## What the pipelines do -/

variable {store : HoldStore} {showId : Int} {seats : List Seat} {bookingRef : String}

/-- Nobody holds the seat. -/
def free (store : HoldStore) (showId : Int) (seat : Seat) : Bool :=
  (store.holder showId seat).isNone

theorem free_iff {seat : Seat} :
    store.free showId seat = true ↔ store.holder showId seat = none := by
  simp [free]

/-- Exactly the free ones of the seats get the reference as their holder. -/
theorem setHolds_holder (other : Int) (seat : Seat) :
    (store.setHolds showId seats bookingRef).2.holder other seat =
      if (other = showId ∧ seat ∈ seats) ∧ store.free other seat then some bookingRef
      else store.holder other seat := by
  change (Leases.setNxAll bookingRef (seatKeys showId seats) store.holds).2.owner _ = _
  rw [Leases.setNxAll_owner]
  simp only [mem_seatKeys]
  rfl

@[simp] theorem setHolds_reserved :
    (store.setHolds showId seats bookingRef).2.reserved = store.reserved := rfl

/-- For different seats the loop holds the free seats in front of the first one
that is taken, and goes through if none is. -/
theorem setHolds_acquired (hnodup : seats.Nodup) :
    (store.setHolds showId seats bookingRef).1 =
      (seats.takeWhile (store.free showId), seats.all (store.free showId)) := by
  change Leases.acquired seats
    (Leases.setNxAll bookingRef (seatKeys showId seats) store.holds).1 = _
  rw [Leases.setNxAll_results (nodup_seatKeys hnodup), seatKeys, List.map_map]
  exact Leases.acquired_map (store.free showId)

theorem mem_reserve {other : Int} {seat : Seat} :
    seat ∈ (store.reserve showId seats).reserved other ↔
      (other = showId ∧ seat ∈ seats) ∨ seat ∈ store.reserved other := by
  unfold reserve
  by_cases hsame : other = showId
  · subst hsame
    simp [List.mem_union_iff]
  · simp [hsame]

theorem mem_ownHolds {seat : Seat} :
    seat ∈ store.ownHolds showId seats bookingRef ↔
      seat ∈ seats ∧ store.holder showId seat = some bookingRef := by
  simp [ownHolds]

theorem drop_holder_eq_some {other : Int} {seat : Seat} {holder : String} :
    (store.drop showId seats).holder other seat = some holder ↔
      store.holder other seat = some holder ∧ ¬ (other = showId ∧ seat ∈ seats) := by
  change (store.holds.del (seatKeys showId seats)).owner _ = _ ↔ _
  rw [Leases.del_owner_eq_some, mem_seatKeys]
  rfl

theorem mem_drop {other : Int} {seat : Seat} :
    seat ∈ (store.drop showId seats).reserved other ↔
      seat ∈ store.reserved other ∧ ¬ (other = showId ∧ seat ∈ seats) := by
  unfold drop
  by_cases hsame : other = showId
  · subst hsame
    simp
  · simp [hsame]

theorem expireHold_holder_eq_some {expired : Seat} {other : Int} {seat : Seat} {holder : String} :
    (store.expireHold showId expired).holder other seat = some holder ↔
      store.holder other seat = some holder ∧ ¬ (other = showId ∧ seat = expired) := by
  change (store.holds.del [(showId, expired)]).owner _ = _ ↔ _
  rw [Leases.del_owner_eq_some, List.mem_singleton, Prod.mk.injEq]
  rfl

theorem mem_expireReserved {other : Int} {seat : Seat} :
    seat ∈ (store.expireReserved showId).reserved other ↔
      other ≠ showId ∧ seat ∈ store.reserved other := by
  unfold expireReserved
  by_cases hsame : other = showId
  · simp [hsame]
  · simp [hsame]

end HoldStore

end Ticketing
