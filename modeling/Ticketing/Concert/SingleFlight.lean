import Ticketing.Concert.Bootstrap
import Ticketing.Foundation.Mutex

/-!
# One fill for a missing snapshot

The threads of one process in `_coalesced_fill_show_snapshot`, for any shows. Each
Redis command, each read of the database and each operation on a lock is a step of
its own; what the database and Redis answer for the row, the seats and their number
is up to the step. No call fails.
-/

namespace Ticketing

open Foundation

/-- The arguments of a call. -/
structure FillCall where
  row : ConcertShow
  reservedKeys : Option (List String)

def FillCall.showId (call : FillCall) : Int := call.row.showId

/-- `_lock_for_show_fill`. -/
def lockForShowFill (showId : Int) : Nat := showId.natAbs % 1024

/-- Where a call stands. -/
inductive FillStage where
  /-- in front of the first GET -/
  | called
  /-- the first GET has given a text that is not JSON -/
  | dropping
  | waiting
  /-- with the lock, in front of the second GET -/
  | locked
  | lockedDropping
  /-- the second GET has given nothing -/
  | missing
  | rowRead (row : ConcertShow)
  | keysRead (row : ConcertShow) (reservedKeys : List String)
  | built (payload : ShowPayload)
  /-- with the result, in front of the release of the lock -/
  | leaving (payload : ShowPayload)
  | returned (payload : ShowPayload)

/-- Between the acquisition of the lock and its release. -/
def FillStage.Inside : FillStage → Prop
  | .called | .dropping | .waiting | .returned _ => False
  | .locked | .lockedDropping | .missing | .rowRead _ | .keysRead _ _ | .built _ | .leaving _ =>
      True

structure FillState (Caller : Type) where
  stage : Caller → FillStage
  lock : Nat → Option Caller
  snapshot : Int → Option (Cached ShowPayload)

inductive FillAction (Caller : Type) where
  /-- `redis_client.get(key)`, the first or the second one -/
  | read (t : Caller)
  /-- `redis_client.delete(key)` -/
  | drop (t : Caller)
  | acquire (t : Caller)
  /-- `_fetch_concert_show_row`, if the row names a concert -/
  | fetchRow (t : Caller) (found : Option ConcertShow)
  /-- `_fetch_reserved_seat_keys_by_show` -/
  | fetchKeys (t : Caller) (keys : List String)
  /-- `reserved_count`, and the payload is built -/
  | build (t : Caller) (hold : Int)
  /-- `_store_show_snapshot` -/
  | store (t : Caller)
  | release (t : Caller)

def FillAction.caller {Caller : Type} : FillAction Caller → Caller
  | .read t | .drop t | .acquire t | .fetchRow t _ | .fetchKeys t _ | .build t _ | .store t
  | .release t => t

/-- What `_fetch_concert_show_row` can give for a row; it is only called if the row
names a concert. -/
def FoundFor (row : ConcertShow) (found : Option ConcertShow) : Prop :=
  ∀ fresh ∈ found, 0 < row.concertId ∧ fresh.concertId = row.concertId ∧
    fresh.showId = row.showId

instance (row : ConcertShow) (found : Option ConcertShow) : Decidable (FoundFor row found) :=
  inferInstanceAs (Decidable (∀ fresh ∈ found, _))

section Steps

variable {Caller : Type} [DecidableEq Caller]

namespace FillState

def setStage (s : FillState Caller) (t : Caller) (stage : FillStage) : FillState Caller :=
  { s with stage := Function.update s.stage t stage }

def setLock (s : FillState Caller) (shard : Nat) (holder : Option Caller) : FillState Caller :=
  { s with lock := Function.update s.lock shard holder }

def setSnapshot (s : FillState Caller) (showId : Int) (found : Option (Cached ShowPayload)) :
    FillState Caller :=
  { s with snapshot := Function.update s.snapshot showId found }

end FillState

variable (calls : Caller → FillCall)

/-- What a GET makes of a call: `hit` for a payload, `broken` for a text that is not
JSON, `absent` for no key. -/
def readStage (found : Option (Cached ShowPayload)) (hit : ShowPayload → FillStage)
    (broken absent : FillStage) : FillStage :=
  match found with
  | some (.readable payload) => hit payload
  | some .broken => broken
  | none => absent

/-- One step of one thread. -/
def fillStep (s : FillState Caller) : FillAction Caller → Option (FillState Caller)
  | .read t =>
      let found := s.snapshot (calls t).showId
      match s.stage t with
      | .called => some (s.setStage t (readStage found .returned .dropping .waiting))
      | .locked => some (s.setStage t (readStage found .leaving .lockedDropping .missing))
      | _ => none
  | .drop t =>
      let dropped := s.setSnapshot (calls t).showId none
      match s.stage t with
      | .dropping => some (dropped.setStage t .waiting)
      | .lockedDropping => some (dropped.setStage t .missing)
      | _ => none
  | .acquire t =>
      let shard := lockForShowFill (calls t).showId
      match s.stage t, s.lock shard with
      | .waiting, none => some ((s.setLock shard (some t)).setStage t .locked)
      | _, _ => none
  | .fetchRow t found =>
      match s.stage t with
      | .missing =>
          if FoundFor (calls t).row found then
            let row := found.getD (calls t).row
            some (s.setStage t (match (calls t).reservedKeys with
              | some keys => .keysRead row keys
              | none => .rowRead row))
          else none
      | _ => none
  | .fetchKeys t keys =>
      match s.stage t with
      | .rowRead row => some (s.setStage t (.keysRead row keys))
      | _ => none
  | .build t hold =>
      match s.stage t with
      | .keysRead row keys => some (s.setStage t (.built (showPayloadFromRow row hold keys)))
      | _ => none
  | .store t =>
      match s.stage t with
      | .built payload =>
          some ((s.setSnapshot payload.showId (some (.readable payload))).setStage t
            (.leaving payload))
      | _ => none
  | .release t =>
      match s.stage t with
      | .leaving payload =>
          some ((s.setLock (lockForShowFill (calls t).showId) none).setStage t
            (.returned payload))
      | _ => none

/-- The threads together. -/
def fillMachine : Machine (FillState Caller) (FillAction Caller) := ⟨fillStep calls⟩

variable {calls} {s next : FillState Caller} {t : Caller}

theorem readStep_cases (h : fillStep calls s (.read t) = some next) :
    (s.stage t = .called ∧ next = s.setStage t
      (readStage (s.snapshot (calls t).showId) .returned .dropping .waiting)) ∨
    (s.stage t = .locked ∧ next = s.setStage t
      (readStage (s.snapshot (calls t).showId) .leaving .lockedDropping .missing)) := by
  unfold fillStep at h
  dsimp only at h
  split at h
  next hstage => exact .inl ⟨hstage, (Option.some.inj h).symm⟩
  next hstage => exact .inr ⟨hstage, (Option.some.inj h).symm⟩
  next => cases h

theorem dropStep_cases (h : fillStep calls s (.drop t) = some next) :
    (s.stage t = .dropping ∧
      next = (s.setSnapshot (calls t).showId none).setStage t .waiting) ∨
    (s.stage t = .lockedDropping ∧
      next = (s.setSnapshot (calls t).showId none).setStage t .missing) := by
  unfold fillStep at h
  dsimp only at h
  split at h
  next hstage => exact .inl ⟨hstage, (Option.some.inj h).symm⟩
  next hstage => exact .inr ⟨hstage, (Option.some.inj h).symm⟩
  next => cases h

theorem acquireStep_cases (h : fillStep calls s (.acquire t) = some next) :
    s.stage t = .waiting ∧ s.lock (lockForShowFill (calls t).showId) = none ∧
      next = (s.setLock (lockForShowFill (calls t).showId) (some t)).setStage t .locked := by
  unfold fillStep at h
  dsimp only at h
  split at h
  next hstage hlock => exact ⟨hstage, hlock, (Option.some.inj h).symm⟩
  next => cases h

theorem fetchRowStep_cases {found : Option ConcertShow}
    (h : fillStep calls s (.fetchRow t found) = some next) :
    s.stage t = .missing ∧ ∃ row, row.showId = (calls t).showId ∧
      (next = s.setStage t (.rowRead row) ∨
        ∃ keys, next = s.setStage t (.keysRead row keys)) := by
  unfold fillStep at h
  dsimp only at h
  split at h
  next hstage =>
    split at h
    next hfound =>
      obtain rfl := Option.some.inj h
      refine ⟨hstage, found.getD (calls t).row, ?_, ?_⟩
      · cases found with
        | none => rfl
        | some fresh => exact (hfound fresh rfl).2.2
      · cases (calls t).reservedKeys with
        | none => exact .inl rfl
        | some keys => exact .inr ⟨keys, rfl⟩
    next => cases h
  next => cases h

theorem fetchKeysStep_cases {keys : List String}
    (h : fillStep calls s (.fetchKeys t keys) = some next) :
    ∃ row, s.stage t = .rowRead row ∧ next = s.setStage t (.keysRead row keys) := by
  unfold fillStep at h
  dsimp only at h
  split at h
  next row hstage => exact ⟨row, hstage, (Option.some.inj h).symm⟩
  next => cases h

theorem buildStep_cases {hold : Int} (h : fillStep calls s (.build t hold) = some next) :
    ∃ row keys, s.stage t = .keysRead row keys ∧
      next = s.setStage t (.built (showPayloadFromRow row hold keys)) := by
  unfold fillStep at h
  dsimp only at h
  split at h
  next row keys hstage => exact ⟨row, keys, hstage, (Option.some.inj h).symm⟩
  next => cases h

theorem storeStep_cases (h : fillStep calls s (.store t) = some next) :
    ∃ payload, s.stage t = .built payload ∧
      next = (s.setSnapshot payload.showId (some (.readable payload))).setStage t
        (.leaving payload) := by
  unfold fillStep at h
  dsimp only at h
  split at h
  next payload hstage => exact ⟨payload, hstage, (Option.some.inj h).symm⟩
  next => cases h

theorem releaseStep_cases (h : fillStep calls s (.release t) = some next) :
    ∃ payload, s.stage t = .leaving payload ∧
      next = (s.setLock (lockForShowFill (calls t).showId) none).setStage t
        (.returned payload) := by
  unfold fillStep at h
  dsimp only at h
  split at h
  next payload hstage => exact ⟨payload, hstage, (Option.some.inj h).symm⟩
  next => cases h

end Steps

/-! ## What a run keeps -/

/-- A call for the show has come to this stage, with `found` under the key. -/
def FillStage.Fits (showId : Int) (found : Option (Cached ShowPayload)) : FillStage → Prop
  | .called | .waiting | .locked => True
  | .dropping | .lockedDropping => False
  | .missing => found = none
  | .rowRead row | .keysRead row _ => found = none ∧ row.showId = showId
  | .built payload => found = none ∧ payload.showId = showId
  | .leaving payload | .returned payload => found = some (.readable payload)

/-- What a call has read from the database or built is of its own show. -/
def FillStage.Own (showId : Int) : FillStage → Prop
  | .rowRead row | .keysRead row _ => row.showId = showId
  | .built payload => payload.showId = showId
  | .called | .dropping | .waiting | .locked | .lockedDropping | .missing | .leaving _
  | .returned _ => True

def FillStage.isBuilt : FillStage → Bool
  | .built _ => true
  | _ => false

section Invariant

variable {Caller : Type} (calls : Caller → FillCall) (showId : Int)

/-- The action stores a snapshot of the show. -/
def FillAction.storesFor : FillAction Caller → Bool
  | .store t => (calls t).showId = showId
  | _ => false

/-- The action builds a payload for the show. -/
def FillAction.buildsFor : FillAction Caller → Bool
  | .build t _ => (calls t).showId = showId
  | _ => false

def storeCount (actions : List (FillAction Caller)) : Nat :=
  actions.countP (FillAction.storesFor calls showId)

def buildCount (actions : List (FillAction Caller)) : Nat :=
  actions.countP (FillAction.buildsFor calls showId)

/-- No call has begun, and there is no snapshot of the show. -/
structure FillStart (s : FillState Caller) : Prop where
  called : ∀ t, s.stage t = .called
  unlocked : s.lock = fun _ => none
  absent : s.snapshot showId = none

/-- The locks are kept, and every call has only what belongs to its show. -/
structure FillSound (s : FillState Caller) : Prop where
  guarded : Guarded (fun t => lockForShowFill (calls t).showId) FillStage.Inside s.stage s.lock
  own : ∀ t, (s.stage t).Own (calls t).showId

/-- The calls for the show after the actions `before`: a payload has been built if a
call still carries it, or it is under the key, where it has been stored once. -/
structure OneFill (before : List (FillAction Caller)) (s : FillState Caller) : Prop where
  fits : ∀ t, (calls t).showId = showId → (s.stage t).Fits showId (s.snapshot showId)
  readable : s.snapshot showId ≠ some .broken
  stores : storeCount calls showId before = if (s.snapshot showId).isSome then 1 else 0
  builds_none : s.snapshot showId = none →
    (∀ t, (calls t).showId = showId → (s.stage t).isBuilt = false) →
      buildCount calls showId before = 0
  builds_one : (∃ t, (calls t).showId = showId ∧ (s.stage t).isBuilt = true) ∨
    (s.snapshot showId).isSome = true → buildCount calls showId before = 1

variable {calls} {showId} {s : FillState Caller}

theorem FillStart.sound (h : FillStart showId s) : FillSound calls s := by
  constructor
  · rw [h.unlocked]
    refine .free fun t => ?_
    rw [h.called t]
    exact id
  · intro t
    rw [h.called t]
    trivial

theorem FillStart.oneFill (h : FillStart showId s) : OneFill calls showId [] s := by
  constructor
  · intro t _
    rw [h.called t]
    trivial
  · rw [h.absent]
    simp
  · rw [h.absent]
    rfl
  · intro _ _
    rfl
  · rintro (⟨t, _, hbuilt⟩ | hsome)
    · rw [h.called t] at hbuilt
      cases hbuilt
    · rw [h.absent] at hsome
      cases hsome

end Invariant

section Moves

variable {Caller : Type} [DecidableEq Caller] {calls : Caller → FillCall} {showId : Int}
  {s next : FillState Caller} {before : List (FillAction Caller)} {t : Caller}

theorem FillSound.own_update {stage : FillStage} (h : FillSound calls s)
    (hown : stage.Own (calls t).showId) (other : Caller) :
    (Function.update s.stage t stage other).Own (calls other).showId := by
  by_cases hother : other = t
  · subst hother
    rwa [Function.update_self]
  · rw [Function.update_of_ne hother]
    exact h.own other

theorem FillSound.move {stage : FillStage} (h : FillSound calls s)
    (hinside : stage.Inside ↔ (s.stage t).Inside) (hown : stage.Own (calls t).showId) :
    FillSound calls (s.setStage t stage) :=
  ⟨h.guarded.stay hinside, h.own_update hown⟩

omit [DecidableEq Caller] in
/-- The keys do not count for the locks. -/
theorem FillSound.setSnapshot (h : FillSound calls s) (key : Int)
    (found : Option (Cached ShowPayload)) : FillSound calls (s.setSnapshot key found) :=
  ⟨h.guarded, h.own⟩

theorem FillSound.step {a : FillAction Caller} (h : FillSound calls s)
    (hstep : fillStep calls s a = some next) : FillSound calls next := by
  cases a with
  | read t =>
      rcases readStep_cases hstep with ⟨hstage, rfl⟩ | ⟨hstage, rfl⟩
      all_goals
        apply h.move
        · rw [hstage]
          unfold readStage
          split <;> simp [FillStage.Inside]
        · unfold readStage
          split <;> trivial
  | drop t =>
      rcases dropStep_cases hstep with ⟨hstage, rfl⟩ | ⟨hstage, rfl⟩
      all_goals
        refine (h.setSnapshot _ none).move ?_ trivial
        change FillStage.Inside _ ↔ (s.stage t).Inside
        rw [hstage]
        rfl
  | acquire t =>
      obtain ⟨_, hfree, rfl⟩ := acquireStep_cases hstep
      exact ⟨h.guarded.enter hfree trivial, h.own_update trivial⟩
  | fetchRow t found =>
      obtain ⟨hstage, row, hrow, rfl | ⟨keys, rfl⟩⟩ := fetchRowStep_cases hstep
      · exact h.move (by rw [hstage]; rfl) hrow
      · exact h.move (by rw [hstage]; rfl) hrow
  | fetchKeys t keys =>
      obtain ⟨row, hstage, rfl⟩ := fetchKeysStep_cases hstep
      have hrow := h.own t
      rw [hstage] at hrow
      exact h.move (by rw [hstage]; rfl) hrow
  | build t hold =>
      obtain ⟨row, keys, hstage, rfl⟩ := buildStep_cases hstep
      have hrow := h.own t
      rw [hstage] at hrow
      exact h.move (by rw [hstage]; rfl) hrow
  | store t =>
      obtain ⟨payload, hstage, rfl⟩ := storeStep_cases hstep
      refine (h.setSnapshot _ _).move ?_ trivial
      rw [show (s.setSnapshot _ _).stage t = s.stage t from rfl, hstage]
      rfl
  | release t =>
      obtain ⟨payload, hstage, rfl⟩ := releaseStep_cases hstep
      refine ⟨h.guarded.leave ?_ id, h.own_update trivial⟩
      rw [hstage]
      trivial

omit [DecidableEq Caller] in
/-- Of the calls for one show at most one is between acquisition and release. -/
theorem FillSound.alone (h : FillSound calls s) (ht : (calls t).showId = showId)
    (hinside : (s.stage t).Inside) {other : Caller} (hother : (calls other).showId = showId)
    (hotherInside : (s.stage other).Inside) : other = t :=
  h.guarded.eq_of_inside hotherInside hinside (by rw [hother, ht])

/-- A move that leaves the key of the show alone, and neither builds nor stores. -/
theorem OneFill.move {a : FillAction Caller} {stage : FillStage}
    (h : OneFill calls showId before s) (hsnapshot : next.snapshot showId = s.snapshot showId)
    (hstage : next.stage = Function.update s.stage t stage)
    (hfits : (calls t).showId = showId → stage.Fits showId (s.snapshot showId))
    (hbuilt : (calls t).showId = showId → stage.isBuilt = (s.stage t).isBuilt)
    (hstores : a.storesFor calls showId = false) (hbuilds : a.buildsFor calls showId = false) :
    OneFill calls showId (before ++ [a]) next := by
  have hall : ∀ other, (calls other).showId = showId →
      (next.stage other).Fits showId (s.snapshot showId) ∧
        (next.stage other).isBuilt = (s.stage other).isBuilt := by
    intro other hother
    rw [hstage]
    by_cases hsame : other = t
    · subst hsame
      rw [Function.update_self]
      exact ⟨hfits hother, hbuilt hother⟩
    · rw [Function.update_of_ne hsame]
      exact ⟨h.fits other hother, rfl⟩
  have hcount : storeCount calls showId (before ++ [a]) = storeCount calls showId before ∧
      buildCount calls showId (before ++ [a]) = buildCount calls showId before := by
    simp [storeCount, buildCount, List.countP_append, hstores, hbuilds]
  constructor
  · intro other hother
    rw [hsnapshot]
    exact (hall other hother).1
  · rw [hsnapshot]
    exact h.readable
  · rw [hcount.1, hsnapshot]
    exact h.stores
  · intro hnone hno
    rw [hcount.2]
    rw [hsnapshot] at hnone
    refine h.builds_none hnone fun other hother => ?_
    rw [← (hall other hother).2]
    exact hno other hother
  · intro hone
    rw [hcount.2]
    rw [hsnapshot] at hone
    refine h.builds_one (hone.imp_left ?_)
    rintro ⟨other, hother, hbuilt⟩
    rw [(hall other hother).2] at hbuilt
    exact ⟨other, hother, hbuilt⟩

/-- The first and only payload is built. -/
theorem OneFill.build {row : ConcertShow} {keys : List String} {hold : Int}
    (h : OneFill calls showId before s) (hsound : FillSound calls s)
    (ht : (calls t).showId = showId) (hstage : s.stage t = .keysRead row keys) :
    OneFill calls showId (before ++ [.build t hold])
      (s.setStage t (.built (showPayloadFromRow row hold keys))) := by
  have hfits := h.fits t ht
  rw [hstage] at hfits
  obtain ⟨hnone, hrow⟩ := hfits
  have hnobuilt : ∀ other, (calls other).showId = showId → (s.stage other).isBuilt = false := by
    intro other hother
    rw [Bool.eq_false_iff]
    intro hbuilt
    have hinside : (s.stage other).Inside := by
      cases hfound : s.stage other with
      | built payload => trivial
      | _ => rw [hfound] at hbuilt; cases hbuilt
    obtain rfl := hsound.alone ht (by rw [hstage]; trivial) hother hinside
    rw [hstage] at hbuilt
    cases hbuilt
  have hcount : storeCount calls showId (before ++ [.build t hold]) =
        storeCount calls showId before ∧
      buildCount calls showId (before ++ [.build t hold]) = 1 := by
    have hzero := h.builds_none hnone hnobuilt
    unfold buildCount at hzero
    simp [storeCount, buildCount, List.countP_append, FillAction.storesFor, FillAction.buildsFor,
      ht, hzero]
  constructor
  · intro other hother
    dsimp only [FillState.setStage]
    by_cases hsame : other = t
    · subst hsame
      rw [Function.update_self]
      exact ⟨hnone, hrow⟩
    · rw [Function.update_of_ne hsame]
      exact h.fits other hother
  · exact h.readable
  · rw [hcount.1]
    exact h.stores
  · intro _ hno
    have hbuilt := hno t ht
    dsimp only [FillState.setStage] at hbuilt
    rw [Function.update_self] at hbuilt
    cases hbuilt
  · intro _
    exact hcount.2

/-- The payload that was built is stored, and nobody else is behind the second GET. -/
theorem OneFill.store {payload : ShowPayload} (h : OneFill calls showId before s)
    (hsound : FillSound calls s) (ht : (calls t).showId = showId)
    (hstage : s.stage t = .built payload) :
    OneFill calls showId (before ++ [.store t])
      ((s.setSnapshot payload.showId (some (.readable payload))).setStage t
        (.leaving payload)) := by
  have hfits := h.fits t ht
  rw [hstage] at hfits
  obtain ⟨hnone, hpayload⟩ := hfits
  subst hpayload
  have hcount : storeCount calls payload.showId (before ++ [.store t]) = 1 ∧
      buildCount calls payload.showId (before ++ [.store t]) = 1 := by
    have hzero := h.stores
    have hone := h.builds_one (.inl ⟨t, ht, by rw [hstage]; rfl⟩)
    rw [hnone] at hzero
    unfold storeCount at hzero
    unfold buildCount at hone
    simp [storeCount, buildCount, List.countP_append, FillAction.storesFor, FillAction.buildsFor,
      ht, hzero, hone]
  have hsnapshot : ((s.setSnapshot payload.showId (some (.readable payload))).setStage t
      (.leaving payload)).snapshot payload.showId = some (.readable payload) :=
    Function.update_self ..
  constructor
  · intro other hother
    rw [hsnapshot]
    dsimp only [FillState.setStage, FillState.setSnapshot]
    by_cases hsame : other = t
    · subst hsame
      rw [Function.update_self]
      rfl
    · rw [Function.update_of_ne hsame]
      have hold := h.fits other hother
      rw [hnone] at hold
      have houtside : ¬ (s.stage other).Inside := fun hinside =>
        hsame (hsound.alone ht (by rw [hstage]; trivial) hother hinside)
      cases hfound : s.stage other with
      | called | waiting => trivial
      | dropping | returned _ =>
          rw [hfound] at hold
          cases hold
      | locked | lockedDropping | missing | rowRead _ | keysRead _ _ | built _ | leaving _ =>
          rw [hfound] at houtside
          exact absurd trivial houtside
  · rw [hsnapshot]
    simp
  · rw [hcount.1, hsnapshot]
    rfl
  · intro habsent
    rw [hsnapshot] at habsent
    cases habsent
  · intro _
    exact hcount.2

theorem OneFill.step {a : FillAction Caller} (h : OneFill calls showId before s)
    (hsound : FillSound calls s) (hstep : fillStep calls s a = some next) :
    OneFill calls showId (before ++ [a]) next := by
  cases a with
  | read t =>
      rcases readStep_cases hstep with ⟨hstage, rfl⟩ | ⟨hstage, rfl⟩
      all_goals
        refine h.move rfl rfl (fun ht => ?_) (fun _ => ?_) rfl rfl
        · rw [ht]
          cases hfound : s.snapshot showId with
          | none => trivial
          | some found =>
              cases found with
              | readable payload => rfl
              | broken => exact absurd hfound h.readable
        · rw [hstage]
          unfold readStage
          split <;> rfl
  | drop t =>
      -- the key of the show never holds a text that is not JSON
      have hother : (calls t).showId ≠ showId := by
        intro ht
        have hfits := h.fits t ht
        rcases dropStep_cases hstep with ⟨hstage, _⟩ | ⟨hstage, _⟩
        all_goals
          rw [hstage] at hfits
          exact hfits
      rcases dropStep_cases hstep with ⟨_, rfl⟩ | ⟨_, rfl⟩
      all_goals
        exact h.move (Function.update_of_ne hother.symm _ _) rfl (fun ht => absurd ht hother)
          (fun ht => absurd ht hother) rfl rfl
  | acquire t =>
      obtain ⟨hstage, _, rfl⟩ := acquireStep_cases hstep
      exact h.move rfl rfl (fun _ => trivial) (fun _ => by rw [hstage]; rfl) rfl rfl
  | fetchRow t found =>
      obtain ⟨hstage, row, hrow, hnext⟩ := fetchRowStep_cases hstep
      have hfits : (calls t).showId = showId → s.snapshot showId = none ∧ row.showId = showId := by
        intro ht
        have hfits := h.fits t ht
        rw [hstage] at hfits
        exact ⟨hfits, hrow.trans ht⟩
      rcases hnext with rfl | ⟨keys, rfl⟩
      all_goals exact h.move rfl rfl hfits (fun _ => by rw [hstage]; rfl) rfl rfl
  | fetchKeys t keys =>
      obtain ⟨row, hstage, rfl⟩ := fetchKeysStep_cases hstep
      refine h.move rfl rfl (fun ht => ?_) (fun _ => by rw [hstage]; rfl) rfl rfl
      have hfits := h.fits t ht
      rw [hstage] at hfits
      exact hfits
  | build t hold =>
      obtain ⟨row, keys, hstage, rfl⟩ := buildStep_cases hstep
      by_cases ht : (calls t).showId = showId
      · exact h.build hsound ht hstage
      · exact h.move rfl rfl (fun hsame => absurd hsame ht) (fun hsame => absurd hsame ht) rfl
          (decide_eq_false ht)
  | store t =>
      obtain ⟨payload, hstage, rfl⟩ := storeStep_cases hstep
      by_cases ht : (calls t).showId = showId
      · exact h.store hsound ht hstage
      · have hown := hsound.own t
        rw [hstage] at hown
        have hkey : showId ≠ payload.showId := fun hsame => ht (hown.symm.trans hsame.symm)
        exact h.move (Function.update_of_ne hkey _ _) rfl (fun hsame => absurd hsame ht)
          (fun hsame => absurd hsame ht) (decide_eq_false ht) rfl
  | release t =>
      obtain ⟨payload, hstage, rfl⟩ := releaseStep_cases hstep
      refine h.move rfl rfl (fun ht => ?_) (fun _ => by rw [hstage]; rfl) rfl rfl
      have hfits := h.fits t ht
      rw [hstage] at hfits
      exact hfits

end Moves

/-! ## Every call comes back -/

/-- How many steps a call has before it at most. -/
def FillStage.rank : FillStage → Nat
  | .called => 10
  | .dropping => 9
  | .waiting => 8
  | .locked => 7
  | .lockedDropping => 6
  | .missing => 5
  | .rowRead _ => 4
  | .keysRead _ _ => 3
  | .built _ => 2
  | .leaving _ => 1
  | .returned _ => 0

section Progress

variable {Caller : Type} [DecidableEq Caller] {calls : Caller → FillCall}
  {s next : FillState Caller} {t : Caller}

/-- A step moves its own call on, and no other one. -/
theorem fillStep_moves {a : FillAction Caller} (hstep : fillStep calls s a = some next) :
    (next.stage a.caller).rank < (s.stage a.caller).rank ∧
      ∀ other, other ≠ a.caller → next.stage other = s.stage other := by
  have hmove : ∀ (t : Caller) (moved : FillState Caller) (stage : FillStage),
      moved.stage = s.stage → stage.rank < (s.stage t).rank →
        ((moved.setStage t stage).stage t).rank < (s.stage t).rank ∧
          ∀ other, other ≠ t → (moved.setStage t stage).stage other = s.stage other := by
    intro t moved stage hsame hlower
    dsimp only [FillState.setStage]
    rw [Function.update_self]
    refine ⟨hlower, fun other hother => ?_⟩
    rw [Function.update_of_ne hother, hsame]
  cases a with
  | read t =>
      rcases readStep_cases hstep with ⟨hstage, rfl⟩ | ⟨hstage, rfl⟩
      all_goals
        apply hmove t s _ rfl
        rw [hstage]
        unfold readStage
        split <;> simp [FillStage.rank]
  | drop t =>
      rcases dropStep_cases hstep with ⟨hstage, rfl⟩ | ⟨hstage, rfl⟩
      all_goals
        apply hmove t (s.setSnapshot (calls t).showId none) _ rfl
        rw [hstage]
        simp [FillStage.rank]
  | acquire t =>
      obtain ⟨hstage, _, rfl⟩ := acquireStep_cases hstep
      apply hmove t (s.setLock (lockForShowFill (calls t).showId) (some t)) _ rfl
      rw [hstage]
      simp [FillStage.rank]
  | fetchRow t found =>
      obtain ⟨hstage, row, _, rfl | ⟨keys, rfl⟩⟩ := fetchRowStep_cases hstep
      all_goals
        apply hmove t s _ rfl
        rw [hstage]
        simp [FillStage.rank]
  | fetchKeys t keys =>
      obtain ⟨row, hstage, rfl⟩ := fetchKeysStep_cases hstep
      apply hmove t s _ rfl
      rw [hstage]
      simp [FillStage.rank]
  | build t hold =>
      obtain ⟨row, keys, hstage, rfl⟩ := buildStep_cases hstep
      apply hmove t s _ rfl
      rw [hstage]
      simp [FillStage.rank]
  | store t =>
      obtain ⟨payload, hstage, rfl⟩ := storeStep_cases hstep
      apply hmove t (s.setSnapshot payload.showId (some (.readable payload))) _ rfl
      rw [hstage]
      simp [FillStage.rank]
  | release t =>
      obtain ⟨payload, hstage, rfl⟩ := releaseStep_cases hstep
      apply hmove t (s.setLock (lockForShowFill (calls t).showId) none) _ rfl
      rw [hstage]
      simp [FillStage.rank]

/-- A call that does not wait for its lock can go on. -/
theorem exists_step (hbusy : ∀ payload, s.stage t ≠ .returned payload)
    (hfree : s.stage t = .waiting → s.lock (lockForShowFill (calls t).showId) = none) :
    ∃ a next, fillStep calls s a = some next := by
  cases hstage : s.stage t with
  | called => exact ⟨.read t, _, by simp only [fillStep, hstage]; rfl⟩
  | dropping => exact ⟨.drop t, _, by simp only [fillStep, hstage]; rfl⟩
  | waiting => exact ⟨.acquire t, _, by simp only [fillStep, hstage, hfree hstage]; rfl⟩
  | locked => exact ⟨.read t, _, by simp only [fillStep, hstage]; rfl⟩
  | lockedDropping => exact ⟨.drop t, _, by simp only [fillStep, hstage]; rfl⟩
  | missing =>
      have hfound : FoundFor (calls t).row none := by simp [FoundFor]
      exact ⟨.fetchRow t none, _, by simp only [fillStep, hstage, if_pos hfound]; rfl⟩
  | rowRead row => exact ⟨.fetchKeys t [], _, by simp only [fillStep, hstage]; rfl⟩
  | keysRead row keys => exact ⟨.build t 0, _, by simp only [fillStep, hstage]; rfl⟩
  | built payload => exact ⟨.store t, _, by simp only [fillStep, hstage]; rfl⟩
  | leaving payload => exact ⟨.release t, _, by simp only [fillStep, hstage]; rfl⟩
  | returned payload => exact absurd hstage (hbusy payload)

/-- As long as a call has not returned, there is a step: its own one, or one of the
call that has the lock. -/
theorem FillSound.exists_step (h : FillSound calls s)
    (hbusy : ∀ payload, s.stage t ≠ .returned payload) :
    ∃ a next, fillStep calls s a = some next := by
  cases hlock : s.lock (lockForShowFill (calls t).showId) with
  | none => exact Ticketing.exists_step hbusy fun _ => hlock
  | some holder =>
      obtain ⟨hinside, _⟩ := h.guarded.holder _ holder hlock
      refine @Ticketing.exists_step _ _ calls s holder ?_ ?_
      · intro payload hstage
        rw [hstage] at hinside
        exact hinside
      · intro hstage
        rw [hstage] at hinside
        exact hinside.elim

end Progress

/-! ## Whole runs -/

section Runs

variable {Caller : Type} [DecidableEq Caller] {calls : Caller → FillCall} {showId : Int}
  {s next final : FillState Caller} {before actions : List (FillAction Caller)}

/-- Only what a call has built itself is stored by it. -/
def BuiltFirst (before : List (FillAction Caller)) (s : FillState Caller) : Prop :=
  ∀ t, (s.stage t).isBuilt = true ∨ .store t ∈ before → ∃ hold, .build t hold ∈ before

/-- A payload is there just after it has been built. -/
theorem build_of_isBuilt {a : FillAction Caller} (hstep : fillStep calls s a = some next)
    (hbuilt : (next.stage a.caller).isBuilt = true) : ∃ hold, a = .build a.caller hold := by
  cases a with
  | build t hold => exact ⟨hold, rfl⟩
  | read t =>
      rcases readStep_cases hstep with ⟨_, rfl⟩ | ⟨_, rfl⟩
      all_goals
        revert hbuilt
        simp only [FillAction.caller, FillState.setStage, Function.update_self]
        unfold readStage
        split <;> simp [FillStage.isBuilt]
  | drop t =>
      rcases dropStep_cases hstep with ⟨_, rfl⟩ | ⟨_, rfl⟩
      all_goals simp [FillAction.caller, FillState.setStage, FillStage.isBuilt] at hbuilt
  | acquire t =>
      obtain ⟨_, _, rfl⟩ := acquireStep_cases hstep
      simp [FillAction.caller, FillState.setStage, FillStage.isBuilt] at hbuilt
  | fetchRow t found =>
      obtain ⟨_, row, _, rfl | ⟨keys, rfl⟩⟩ := fetchRowStep_cases hstep
      all_goals simp [FillAction.caller, FillState.setStage, FillStage.isBuilt] at hbuilt
  | fetchKeys t keys =>
      obtain ⟨row, _, rfl⟩ := fetchKeysStep_cases hstep
      simp [FillAction.caller, FillState.setStage, FillStage.isBuilt] at hbuilt
  | store t =>
      obtain ⟨payload, _, rfl⟩ := storeStep_cases hstep
      simp [FillAction.caller, FillState.setStage, FillStage.isBuilt] at hbuilt
  | release t =>
      obtain ⟨payload, _, rfl⟩ := releaseStep_cases hstep
      simp [FillAction.caller, FillState.setStage, FillStage.isBuilt] at hbuilt

theorem BuiltFirst.step {a : FillAction Caller} (h : BuiltFirst before s)
    (hstep : fillStep calls s a = some next) : BuiltFirst (before ++ [a]) next := by
  have hkeep : ∀ t, (∃ hold, .build t hold ∈ before) → ∃ hold, .build t hold ∈ before ++ [a] :=
    fun t hold => hold.imp fun _ => List.mem_append_left [a]
  rintro t (hbuilt | hstored)
  · by_cases hcaller : a.caller = t
    · subst hcaller
      obtain ⟨hold, ha⟩ := build_of_isBuilt hstep hbuilt
      exact ⟨hold, List.mem_append_right before (List.mem_singleton.mpr ha.symm)⟩
    · rw [(fillStep_moves hstep).2 t (Ne.symm hcaller)] at hbuilt
      exact hkeep t (h t (.inl hbuilt))
  · rcases List.mem_append.mp hstored with hold | hlast
    · exact hkeep t (h t (.inr hold))
    · -- it has stored what it had built
      obtain rfl := List.mem_singleton.mp hlast
      obtain ⟨payload, hstage, _⟩ := storeStep_cases hstep
      exact hkeep t (h t (.inl (by rw [hstage]; rfl)))

/-- The number of steps of a call, with those it has before it. -/
theorem steps_le_rank (t : Caller) (hrun : (fillMachine calls).run s actions = some final) :
    actions.countP (fun a => a.caller = t) + (final.stage t).rank ≤ (s.stage t).rank := by
  induction actions generalizing s with
  | nil =>
      obtain rfl := Option.some.inj hrun
      simp
  | cons a rest ih =>
      obtain ⟨middle, hstep, hrest⟩ := (fillMachine calls).run_cons_eq_some.mp hrun
      have hlater := ih hrest
      obtain ⟨hlower, hothers⟩ := fillStep_moves hstep
      rw [List.countP_cons]
      by_cases hcaller : a.caller = t
      · subst hcaller
        simp only [decide_true, if_true]
        omega
      · rw [hothers t (Ne.symm hcaller)] at hlater
        simpa [hcaller] using hlater

/-- Calls for any shows, interleaved in any way, with no snapshot of one show in the
beginning: a call for it that returns has the payload which is under the key, and
which one call alone has built and stored. No call takes more than ten steps, and
while one has not returned there is a step. -/
theorem fill_once (hstart : FillStart showId s)
    (hrun : (fillMachine calls).run s actions = some final) :
    (∀ t payload, (calls t).showId = showId → final.stage t = .returned payload →
      final.snapshot showId = some (.readable payload) ∧
        storeCount calls showId actions = 1 ∧ buildCount calls showId actions = 1) ∧
    (∀ t other payload found, (calls t).showId = showId → (calls other).showId = showId →
      final.stage t = .returned payload → final.stage other = .returned found →
        payload = found) ∧
    storeCount calls showId actions ≤ 1 ∧ buildCount calls showId actions ≤ 1 ∧
    (∀ t, .store t ∈ actions → ∃ hold, .build t hold ∈ actions) ∧
    (∀ t, actions.countP (fun a => a.caller = t) ≤ 10) ∧
    ∀ t, (∀ payload, final.stage t ≠ .returned payload) →
      ∃ a next, (fillMachine calls).step final a = some next := by
  have hunbuilt : BuiltFirst [] s := by
    intro t ht
    rw [hstart.called t] at ht
    simp [FillStage.isBuilt] at ht
  have hinv : FillSound calls final ∧ OneFill calls showId actions final ∧
      BuiltFirst actions final := by
    refine @Machine.run_invariant_history _ _ (fillMachine calls)
      (fun before s => FillSound calls s ∧ OneFill calls showId before s ∧ BuiltFirst before s)
      ?_ [] s final actions ⟨hstart.sound, hstart.oneFill, hunbuilt⟩ hrun
    rintro before s a next ⟨hsound, hone, hbuilt⟩ hstep
    exact ⟨hsound.step hstep, hone.step hsound hstep, hbuilt.step hstep⟩
  obtain ⟨hsound, hone, hbuilt⟩ := hinv
  have hreturned : ∀ t payload, (calls t).showId = showId → final.stage t = .returned payload →
      final.snapshot showId = some (.readable payload) := by
    intro t payload ht hstage
    have hfits := hone.fits t ht
    rwa [hstage] at hfits
  have hstores : storeCount calls showId actions ≤ 1 := by
    rw [hone.stores]
    split <;> simp
  have hbuilds : buildCount calls showId actions ≤ 1 := by
    by_cases hany : (∃ t, (calls t).showId = showId ∧ (final.stage t).isBuilt = true) ∨
        (final.snapshot showId).isSome = true
    · exact (hone.builds_one hany).le
    · obtain ⟨hno, hnone⟩ := not_or.mp hany
      rw [Option.not_isSome_iff_eq_none] at hnone
      rw [hone.builds_none hnone]
      · exact Nat.zero_le 1
      · intro t ht
        rw [Bool.eq_false_iff]
        exact fun h => hno ⟨t, ht, h⟩
  refine ⟨?_, ?_, hstores, hbuilds, fun t ht => hbuilt t (.inr ht), ?_, ?_⟩
  · intro t payload ht hstage
    have hfound := hreturned t payload ht hstage
    have hsome : (final.snapshot showId).isSome = true := by rw [hfound]; rfl
    exact ⟨hfound, by rw [hone.stores, if_pos hsome], hone.builds_one (.inr hsome)⟩
  · intro t other payload found ht hother hstage hotherStage
    have hsame := (hreturned t payload ht hstage).symm.trans
      (hreturned other found hother hotherStage)
    exact Cached.readable.inj (Option.some.inj hsame)
  · intro t
    have hsteps := steps_le_rank t hrun
    rw [hstart.called t] at hsteps
    exact (Nat.le_add_right _ _).trans hsteps
  · intro t hbusy
    exact hsound.exists_step hbusy

end Runs

/-! ## Two calls for one show -/

/-- One call with seats fetched before, and one without. -/
def twoCalls (first : Bool) : FillCall :=
  ⟨twoSeatShow, if first then some ["1-1"] else none⟩

/-- Both have missed before one of them gets the lock. -/
def twoCallSteps : List (FillAction Bool) :=
  [.read true, .read false, .acquire true, .read true, .fetchRow true none, .build true 1,
    .store true, .release true, .acquire false, .read false, .release false]

theorem fill_once_twoCalls :
    ∃ final, (fillMachine twoCalls).run ⟨fun _ => .called, fun _ => none, fun _ => none⟩
        twoCallSteps = some final ∧
      storeCount twoCalls 1 twoCallSteps = 1 ∧
      ∃ payload, payload.reservedSeats = ["1-1"] ∧ ∀ t, final.stage t = .returned payload := by
  have hdone : ((fillMachine twoCalls).run ⟨fun _ => .called, fun _ => none, fun _ => none⟩
      twoCallSteps).any (fun s => match s.stage true, s.stage false with
        | .returned payload, .returned _ => decide (payload.reservedSeats = ["1-1"])
        | _, _ => false) = true := by
    decide +kernel
  obtain ⟨final, hrun, hfinal⟩ := (Option.any_eq_true _ _).mp hdone
  split at hfinal
  next payload found hfirst hsecond =>
    have honce := @fill_once _ _ twoCalls 1 _ final twoCallSteps ⟨fun _ => rfl, rfl, rfl⟩ hrun
    refine ⟨final, hrun, (honce.1 true payload rfl hfirst).2.1, payload,
      of_decide_eq_true hfinal, ?_⟩
    intro t
    cases t with
    | true => exact hfirst
    | false => rw [honce.2.1 true false payload found rfl rfl hfirst hsecond, hsecond]
  next => cases hfinal

end Ticketing
