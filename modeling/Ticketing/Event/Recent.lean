import Ticketing.Event.Service
import Ticketing.Foundation.Past

/-!
# How old a response is

Every response tells what the tables and the counter have been, at some moment that is no
longer ago than the TTL of the copies and what a request needs between its SELECT and its
SETEX. It is shown by what has once been the case, along the whole run.
-/

namespace Ticketing

open Foundation Python

/-! ## Keys -/

theorem seatsKey_ne_listKey (eventId : String) : seatsKey eventId ≠ listKey := by
  intro h
  have hchars := congrArg (fun text => text.toList.head?) h
  simp [seatsKey, listKey] at hchars

theorem availableKey_ne_listKey (eventId : String) : availableKey eventId ≠ listKey := by
  intro h
  have hchars := congrArg (fun text => text.toList.head?) h
  simp [availableKey, listKey] at hchars

theorem seatsKey_ne_availableKey (eventId other : String) :
    seatsKey eventId ≠ availableKey other := by
  intro h
  have hchars := congrArg (fun text => text.toList[4]?) h
  simp [seatsKey, availableKey] at hchars

theorem seatsKey_inj {eventId other : String} (h : seatsKey eventId = seatsKey other) :
    eventId = other := by
  have hchars := congrArg String.toList h
  simpa [seatsKey, String.toList_inj] using hchars

section Recent

variable {Weight : Type} [LinearOrder Weight] {weight : String → Weight}
variable (calls : Nat → EventCall) (start : EventState weight) (slack : Nat)

/-! ## What has been seen -/

/-- At most `slack` milliseconds pass between the SELECT of a request and its SETEX. -/
def Prompt (s : EventState weight) : EventStep weight → Prop
  | .setex request | .fail request true =>
      ∀ since ∈ (s.phase request).since, s.now ≤ since + slack
  | _ => True

instance (s : EventState weight) : DecidablePred (Prompt slack s)
  | .setex request | .fail request true =>
      inferInstanceAs (Decidable (∀ since ∈ (s.phase request).since, s.now ≤ since + slack))
  | .tick _ | .write _ | .count _ _ | .get _ | .selectEvents _ _ | .selectSeats _ _
  | .getCount _ | .fail _ false => isTrue trivial

/-- The tables have listed these events, at a moment that is no more than `age` before. -/
def ListSeen (actions : List (EventStep weight)) (rows : List ListedEvent)
    (moment age : Nat) : Prop :=
  (eventMachine calls).Once start actions fun s => s.db.Lists rows ∧ moment ≤ s.now + age

def SeatsSeen (actions : List (EventStep weight)) (eventId : String) (rows : List EventSeat)
    (moment age : Nat) : Prop :=
  (eventMachine calls).Once start actions fun s =>
    s.db.SeatsAnswer eventId rows ∧ moment ≤ s.now + age

/-- The counter has had the value; or there was none, and the rows have been counted. -/
def CountSeen (actions : List (EventStep weight)) (eventId : String) (rows : List EventSeat)
    (availableCount : Int) (moment age : Nat) : Prop :=
  (eventMachine calls).Once start actions fun s => moment ≤ s.now + age ∧
    (s.redis (availableKey eventId) = some (.count availableCount) ∨
      s.redis (availableKey eventId) = none ∧
        availableCount = rows.countP fun seat => seat.status = .available)

/-- What a copy or a response of the call may say. -/
def Tells (actions : List (EventStep weight)) (leaf : EventColumn → Json) (moment age : Nat)
    (json : Json) : EventCall → Prop
  | .list => ∃ rows, json = listJson leaf rows ∧ ListSeen calls start actions rows moment age
  | .seats eventId => ∃ rows availableCount, json = seatsJson leaf eventId rows availableCount ∧
      SeatsSeen calls start actions eventId rows moment age ∧
      CountSeen calls start actions eventId rows availableCount moment age

/-- What a request has read so far, and what it has answered. -/
def PhaseTells (actions : List (EventStep weight)) (now : Nat) : EventCall → EventPhase → Prop
  | .list, .listing rows since => ListSeen calls start actions rows since 0
  | .seats eventId, .mapping other rows since =>
      other = eventId ∧ since ≤ now ∧ SeatsSeen calls start actions eventId rows since 0
  | .seats eventId, .counted other rows availableCount since =>
      other = eventId ∧ SeatsSeen calls start actions eventId rows since 0 ∧
        CountSeen calls start actions eventId rows availableCount since 0
  | call, .answered json moment => ∃ leaf ∈ [EventColumn.response, EventColumn.copy],
      Tells calls start actions leaf moment (call.ttl + slack) json call
  | _, .idle | _, .missed | _, .failed => True
  | _, _ => False

/-- Redis and the requests tell what has been the case. -/
structure Recent (actions : List (EventStep weight)) (s : EventState weight) : Prop where
  copies : ∀ key value expires, s.redis key = some (.json value expires) →
    ∃ call : EventCall, key = call.key ∧
      Tells calls start actions EventColumn.copy expires (call.ttl + slack) value call
  counts : ∀ key value, s.redis key = some (.count value) → ∃ eventId, key = availableKey eventId
  phases : ∀ request,
    PhaseTells calls start slack actions s.now (calls request) (s.phase request)

variable {calls start slack}
variable {actions : List (EventStep weight)} {call : EventCall} {leaf : EventColumn → Json}
  {moment age now : Nat} {json : Json} {phase : EventPhase} {s : EventState weight}

theorem Tells.append (h : Tells calls start actions leaf moment age json call)
    (more : List (EventStep weight)) :
    Tells calls start (actions ++ more) leaf moment age json call := by
  cases call with
  | list =>
      obtain ⟨rows, hjson, hrows⟩ := h
      exact ⟨rows, hjson, Machine.Once.append hrows more⟩
  | seats eventId =>
      obtain ⟨rows, availableCount, hjson, hrows, hcount⟩ := h
      exact ⟨rows, availableCount, hjson, Machine.Once.append hrows more,
        Machine.Once.append hcount more⟩

/-- What is told later, or with less indulgence, is still told. -/
theorem Tells.later (h : Tells calls start actions leaf moment age json call)
    {moment' age' : Nat} (hage : moment' + age ≤ moment + age') :
    Tells calls start actions leaf moment' age' json call := by
  cases call with
  | list =>
      obtain ⟨rows, hjson, hrows⟩ := h
      exact ⟨rows, hjson, Machine.Once.imp hrows fun s hs => ⟨hs.1, by omega⟩⟩
  | seats eventId =>
      obtain ⟨rows, availableCount, hjson, hrows, hcount⟩ := h
      exact ⟨rows, availableCount, hjson, Machine.Once.imp hrows fun s hs => ⟨hs.1, by omega⟩,
        Machine.Once.imp hcount fun s hs => ⟨by omega, hs.2⟩⟩

theorem phaseTells_answered : PhaseTells calls start slack actions now call (.answered json moment) ↔
    ∃ leaf ∈ [EventColumn.response, EventColumn.copy],
      Tells calls start actions leaf moment (call.ttl + slack) json call := by
  cases call <;> rfl

theorem PhaseTells.append (h : PhaseTells calls start slack actions now call phase)
    (more : List (EventStep weight)) :
    PhaseTells calls start slack (actions ++ more) now call phase := by
  unfold PhaseTells at h ⊢
  split at h
  next => exact Machine.Once.append h more
  next => exact ⟨h.1, h.2.1, Machine.Once.append h.2.2 more⟩
  next => exact ⟨h.1, Machine.Once.append h.2.1 more, Machine.Once.append h.2.2 more⟩
  next =>
    obtain ⟨leaf, hleaf, htells⟩ := h
    exact ⟨leaf, hleaf, htells.append more⟩
  next => trivial
  next => trivial
  next => trivial
  next => exact h.elim

theorem PhaseTells.later (h : PhaseTells calls start slack actions now call phase)
    (milliseconds : Nat) :
    PhaseTells calls start slack actions (now + milliseconds) call phase := by
  unfold PhaseTells at h ⊢
  split at h
  next => exact h
  next => exact ⟨h.1, Nat.le_add_right_of_le h.2.1, h.2.2⟩
  next => exact h
  next => exact h
  next => trivial
  next => trivial
  next => trivial
  next => exact h.elim

/-- In front of SETEX everything has been read. -/
theorem PhaseTells.setex (h : PhaseTells calls start slack actions now call phase)
    {key : String} {ttl : Nat} {value : Json} (hsetex : phase.setex = some (key, ttl, value)) :
    key = call.key ∧ ttl = call.ttl ∧ ∃ since, phase.since = some since ∧
      Tells calls start actions EventColumn.copy since 0 value call ∧
      Tells calls start actions EventColumn.response since 0 phase.response call := by
  cases phase with
  | idle | missed | mapping other rows since | answered json moment | failed => cases hsetex
  | listing rows since =>
      cases hsetex
      cases call with
      | list => exact ⟨rfl, rfl, since, rfl, ⟨rows, rfl, h⟩, ⟨rows, rfl, h⟩⟩
      | seats eventId => exact h.elim
  | counted other rows availableCount since =>
      cases hsetex
      cases call with
      | list => exact h.elim
      | seats eventId =>
          obtain ⟨rfl, hrows, hcount⟩ := h
          exact ⟨rfl, rfl, since, rfl, ⟨rows, availableCount, rfl, hrows, hcount⟩,
            ⟨rows, availableCount, rfl, hrows, hcount⟩⟩

/-! ## Steps -/

theorem Recent.append (h : Recent calls start slack actions s) (more : List (EventStep weight)) :
    Recent calls start slack (actions ++ more) s := by
  refine ⟨fun key value expires hkey => ?_, h.counts, fun request => (h.phases request).append more⟩
  obtain ⟨call, hcall, htells⟩ := h.copies key value expires hkey
  exact ⟨call, hcall, htells.append more⟩

theorem Recent.move (h : Recent calls start slack actions s) {request : Nat}
    (hphase : PhaseTells calls start slack actions s.now (calls request) phase) :
    Recent calls start slack actions (s.move request phase) := by
  refine ⟨h.copies, h.counts, fun other => ?_⟩
  by_cases hsame : other = request
  · subst hsame
    simpa [EventState.move] using hphase
  · simpa [EventState.move, Function.update_of_ne hsame] using h.phases other

theorem Recent.count (h : Recent calls start slack actions s) (eventId : String) (value : Int) :
    Recent calls start slack actions (s.set (availableKey eventId) (.count value)) := by
  refine ⟨fun key copy expires hkey => ?_, fun key other hkey => ?_, h.phases⟩
  all_goals
    by_cases hsame : key = availableKey eventId
    · subst hsame
      rw [EventState.set_redis_self] at hkey
      first | exact ⟨eventId, rfl⟩ | cases hkey
    · rw [s.set_redis_of_ne hsame] at hkey
      first | exact h.copies key copy expires hkey | exact h.counts key other hkey

/-- SETEX of a prompt request. -/
theorem Recent.put (h : Recent calls start slack actions s) {request : Nat}
    (hprompt : ∀ since ∈ (s.phase request).since, s.now ≤ since + slack) :
    Recent calls start slack actions (s.put request) := by
  unfold EventState.put
  split
  next key ttl value hsetex =>
    obtain ⟨rfl, rfl, since, hsince, hcopy, _⟩ := (h.phases request).setex hsetex
    have hlate := hprompt since hsince
    refine ⟨fun key copy expires hkey => ?_, fun key other hkey => ?_, h.phases⟩
    · by_cases hsame : key = (calls request).key
      · subst hsame
        rw [EventState.set_redis_self] at hkey
        cases hkey
        exact ⟨_, rfl, hcopy.later (by omega)⟩
      · rw [s.set_redis_of_ne hsame] at hkey
        exact h.copies key copy expires hkey
    · by_cases hsame : key = (calls request).key
      · subst hsame
        rw [EventState.set_redis_self] at hkey
        cases hkey
      · rw [s.set_redis_of_ne hsame] at hkey
        exact h.counts key other hkey
  next => exact h

/-- A copy belongs to one call. -/
theorem EventCall.key_inj {other : EventCall} (h : call.key = other.key) : call = other := by
  cases call with
  | list =>
      cases other with
      | list => rfl
      | seats eventId => exact absurd h.symm (seatsKey_ne_listKey eventId)
  | seats eventId =>
      cases other with
      | list => exact absurd h (seatsKey_ne_listKey eventId)
      | seats other => rw [seatsKey_inj h]

theorem availableKey_ne_key (eventId : String) (call : EventCall) :
    call.key ≠ availableKey eventId := by
  cases call with
  | list => exact (availableKey_ne_listKey eventId).symm
  | seats other => exact seatsKey_ne_availableKey other eventId

omit [LinearOrder Weight] in
/-- GET does not see a copy that has expired. -/
theorem get_json {key : String} {value : Json} {expires : Nat}
    (h : s.get key = some (.json value expires)) :
    s.redis key = some (.json value expires) ∧ s.now < expires := by
  unfold EventState.get at h
  split at h
  next value' expires' hkey =>
    split at h
    next hlive =>
      cases h
      exact ⟨hkey, hlive⟩
    next => cases h
  next => cases h
  next => cases h

omit [LinearOrder Weight] in
theorem get_count {key : String} {value : Int} (h : s.get key = some (.count value)) :
    s.redis key = some (.count value) := by
  unfold EventState.get at h
  split at h
  next => split at h <;> cases h
  next value' hkey =>
    cases h
    exact hkey
  next => cases h

theorem Recent.get_copy (h : Recent calls start slack actions s) {value : Json} {expires : Nat}
    (hget : s.get call.key = some (.json value expires)) :
    Tells calls start actions EventColumn.copy s.now (call.ttl + slack) value call := by
  obtain ⟨hkey, hlive⟩ := get_json hget
  obtain ⟨other, hother, htells⟩ := h.copies _ _ _ hkey
  obtain rfl := EventCall.key_inj hother
  exact htells.later (by omega)

/-- A counter is read under its own key. -/
theorem Recent.get_available (h : Recent calls start slack actions s) (eventId : String) :
    (∃ value, s.redis (availableKey eventId) = some (.count value) ∧
        s.get (availableKey eventId) = some (.count value)) ∨
      s.redis (availableKey eventId) = none ∧ s.get (availableKey eventId) = none := by
  cases hkey : s.redis (availableKey eventId) with
  | none => exact .inr ⟨rfl, by rw [EventState.get, hkey]⟩
  | some cell =>
      cases cell with
      | json value expires =>
          obtain ⟨call, hcall, _⟩ := h.copies _ _ _ hkey
          exact absurd hcall.symm (availableKey_ne_key eventId call)
      | count value => exact .inl ⟨value, rfl, by rw [EventState.get, hkey]⟩

theorem Recent.step {a : EventStep weight} {next : EventState weight}
    (hrun : (eventMachine calls).run start actions = some s)
    (h : Recent calls start slack actions s) (hprompt : Prompt slack s a)
    (hstep : eventStep calls s a = some next) :
    Recent calls start slack (actions ++ [a]) next := by
  have hkept := h.append [a]
  -- what is the case now has once been the case
  have hnow : ∀ p : EventState weight → Prop, p s →
      (eventMachine calls).Once start (actions ++ [a]) p :=
    fun p hp => (Machine.once_of_run hrun hp).append [a]
  cases a with
  | tick milliseconds =>
      cases hstep
      exact ⟨hkept.copies, hkept.counts, fun request =>
        (hkept.phases request).later milliseconds⟩
  | write db =>
      cases hstep
      exact ⟨hkept.copies, hkept.counts, hkept.phases⟩
  | count eventId value =>
      cases hstep
      exact hkept.count eventId value
  | get request =>
      simp only [eventStep] at hstep
      split at hstep
      next hphase =>
        split at hstep
        next value expires hget =>
          cases hstep
          refine hkept.move (phaseTells_answered.mpr ⟨EventColumn.copy, by simp, ?_⟩)
          exact hkept.get_copy hget
        next value hget =>
          obtain ⟨eventId, heventId⟩ := h.counts _ _ (get_count hget)
          exact absurd heventId (availableKey_ne_key eventId _)
        next =>
          cases hstep
          exact hkept.move (by cases calls request <;> trivial)
      next => cases hstep
  | selectEvents request result =>
      simp only [eventStep] at hstep
      split at hstep
      next hphase hcall =>
        split at hstep
        next hsorted =>
          cases hstep
          refine hkept.move ?_
          rw [hcall]
          exact hnow _ ⟨EventTables.ListAnswer.lists ⟨result, hsorted, rfl⟩, Nat.le_refl _⟩
        next => cases hstep
      next => cases hstep
  | selectSeats request rows =>
      simp only [eventStep] at hstep
      split at hstep
      next eventId hphase hcall =>
        split at hstep
        next hanswer =>
          cases hstep
          refine hkept.move ?_
          rw [hcall]
          exact ⟨rfl, Nat.le_refl _, hnow _ ⟨hanswer, Nat.le_refl _⟩⟩
        next => cases hstep
      next => cases hstep
  | getCount request =>
      simp only [eventStep] at hstep
      split at hstep
      next other rows since hphase =>
        have hmapping := hkept.phases request
        rw [hphase] at hmapping
        cases hcall : calls request with
        | list =>
            rw [hcall] at hmapping
            exact hmapping.elim
        | seats eventId =>
            rw [hcall] at hmapping
            obtain ⟨rfl, hsince, hrows⟩ := hmapping
            rcases h.get_available other with ⟨value, hredis, hget⟩ | ⟨hredis, hget⟩
            · simp only [hget] at hstep
              cases hstep
              refine hkept.move ?_
              rw [hcall]
              exact ⟨rfl, hrows, hnow _ ⟨hsince, .inl hredis⟩⟩
            · simp only [hget] at hstep
              cases hstep
              refine hkept.move ?_
              rw [hcall]
              exact ⟨rfl, hrows, hnow _ ⟨hsince, .inr ⟨hredis, rfl⟩⟩⟩
      next => cases hstep
  | setex request =>
      simp only [eventStep] at hstep
      split at hstep
      next hready =>
        cases hstep
        obtain ⟨⟨key, ttl, value⟩, hsetex⟩ := Option.isSome_iff_exists.mp hready
        obtain ⟨_, _, since, hsince, _, hresponse⟩ := (hkept.phases request).setex hsetex
        have hlate := hprompt since hsince
        refine (hkept.put hprompt).move
          (phaseTells_answered.mpr ⟨EventColumn.response, by simp, ?_⟩)
        exact hresponse.later (by omega)
      next => cases hstep
  | fail request executed =>
      simp only [eventStep] at hstep
      split at hstep
      next => cases hstep
      next =>
        cases hstep
        cases executed with
        | true =>
            exact (hkept.put hprompt).move (by cases calls request <;> trivial)
        | false => exact hkept.move (by cases calls request <;> trivial)

theorem Recent.init (db : EventTables weight) :
    Recent calls (EventState.start db) slack [] (EventState.start db) := by
  refine ⟨fun key value expires hkey => ?_, fun key value hkey => ?_, fun request => ?_⟩
  · cases hkey
  · cases hkey
  · cases calls request <;> trivial

theorem run_recent {db : EventTables weight} {final : EventState weight}
    (hprompt : (eventMachine calls).Along (Prompt slack) (.start db) actions)
    (hrun : (eventMachine calls).run (.start db) actions = some final) :
    Recent calls (.start db) slack actions final :=
  Machine.run_invariant_past (fun _ _ _ _ hbefore h hprompt hstep => h.step hbefore hprompt hstep)
    (Recent.init db) hprompt hrun

/-! ## Responses -/

/-- A binary collation. -/
def codePoints (text : String) : List Nat := text.toList.map Char.toNat

/-- An event with one seat. -/
def galaEvent (status : EventStatus) : Event :=
  ⟨"e1", "Gala", "Hall", ⟨⟨2026, 5, 1⟩, 19, 0, 0⟩, 1, status, none⟩

def galaSeat (status : EventSeatStatus) : EventSeat :=
  ⟨"s1", "e1", "A", "1", 1, "STANDARD", 5000, status⟩

def galaTables (event : EventStatus) (seat : EventSeatStatus) : EventTables codePoints where
  events := [galaEvent event]
  seats := [galaSeat seat]
  events_pk := List.nodup_singleton _
  uq_seat := List.nodup_singleton _

theorem Recent.answered (h : Recent calls start slack actions s) {request : Nat}
    (hphase : s.phase request = .answered json moment) :
    ∃ leaf ∈ [EventColumn.response, EventColumn.copy],
      Tells calls start actions leaf moment ((calls request).ttl + slack) json (calls request) :=
  phaseTells_answered.mp (hphase ▸ h.phases request)

/-- However requests, writes and the other services interleave: what `GET /api/events` says
has been the list of the events at one moment, at most 30 seconds and the slack before. -/
theorem list_response_recent {db : EventTables weight} {final : EventState weight} {request : Nat}
    (hprompt : (eventMachine calls).Along (Prompt slack) (.start db) actions)
    (hrun : (eventMachine calls).run (.start db) actions = some final)
    (hcall : calls request = .list) (hphase : final.phase request = .answered json moment) :
    ∃ rows, json = listJson EventColumn.response rows ∧
      (eventMachine calls).Once (.start db) actions fun s =>
        s.db.Lists rows ∧ moment ≤ s.now + (30000 + slack) := by
  obtain ⟨leaf, hleaf, htells⟩ := (run_recent hprompt hrun).answered hphase
  rw [hcall] at htells
  obtain ⟨rows, rfl, hrows⟩ := htells
  refine ⟨rows, ?_, hrows⟩
  rcases List.mem_pair.mp hleaf with rfl | rfl
  · rfl
  · exact listJson_copy rows

/-- The second request gets the copy of the first, 20 seconds later, when the event is
over. -/
theorem list_response_recent_copy :
    let start := EventState.start (galaTables .onSale .available)
    let actions : List (EventStep codePoints) := [.get 0,
      .selectEvents 0 [(galaTables .onSale .available).summary (galaEvent .onSale)], .setex 0,
      .write (galaTables .finished .sold), .tick 20000, .get 1]
    ∃ rows, (eventMachine fun _ => .list).Once start actions fun s =>
      s.db.Lists rows ∧ 20000 ≤ s.now + (30000 + 0) := by
  intro start actions
  have hend : ((eventMachine fun _ => .list).run start actions).any
      (fun s => (s.phase 1).moment = some 20000) = true := by decide +kernel
  obtain ⟨final, hrun, hmoment⟩ := Option.any_eq_true _ _ |>.mp hend
  obtain ⟨json, hphase⟩ := EventPhase.moment_eq_some (of_decide_eq_true hmoment)
  have hprompt : (eventMachine fun _ => .list).Along (Prompt 0) start actions := by
    decide +kernel
  obtain ⟨rows, _, hrows⟩ := list_response_recent hprompt hrun rfl hphase
  exact ⟨rows, hrows⟩

/-- What `GET /api/events/…/seats` says has been the seats of the event at one moment, and
their counter at another one, both at most 5 seconds and the slack before. -/
theorem seats_response_recent {db : EventTables weight} {final : EventState weight}
    {request : Nat} {eventId : String}
    (hprompt : (eventMachine calls).Along (Prompt slack) (.start db) actions)
    (hrun : (eventMachine calls).run (.start db) actions = some final)
    (hcall : calls request = .seats eventId)
    (hphase : final.phase request = .answered json moment) :
    ∃ rows availableCount,
      (json = seatsJson EventColumn.response eventId rows availableCount ∨
        json = seatsJson EventColumn.copy eventId rows availableCount) ∧
      ((eventMachine calls).Once (.start db) actions fun s =>
        s.db.SeatsAnswer eventId rows ∧ moment ≤ s.now + (5000 + slack)) ∧
      (eventMachine calls).Once (.start db) actions fun s => moment ≤ s.now + (5000 + slack) ∧
        (s.redis (availableKey eventId) = some (.count availableCount) ∨
          s.redis (availableKey eventId) = none ∧
            availableCount = rows.countP fun seat => seat.status = .available) := by
  obtain ⟨leaf, hleaf, htells⟩ := (run_recent hprompt hrun).answered hphase
  rw [hcall] at htells
  obtain ⟨rows, availableCount, rfl, hrows, hcount⟩ := htells
  refine ⟨rows, availableCount, ?_, hrows, hcount⟩
  rcases List.mem_pair.mp hleaf with rfl | rfl
  · exact .inl rfl
  · exact .inr rfl

/-- The copy shows the seat four seconds after it has been sold. -/
theorem seats_response_recent_copy :
    let start := EventState.start (galaTables .onSale .available)
    let actions : List (EventStep codePoints) := [.count "e1" 1, .get 0,
      .selectSeats 0 [galaSeat .available], .getCount 0, .setex 0, .count "e1" 0,
      .write (galaTables .onSale .sold), .tick 4000, .get 1]
    ∃ rows, (eventMachine fun _ => .seats "e1").Once start actions fun s =>
      s.db.SeatsAnswer "e1" rows ∧ 4000 ≤ s.now + (5000 + 0) := by
  intro start actions
  have hend : ((eventMachine fun _ => .seats "e1").run start actions).any
      (fun s => (s.phase 1).moment = some 4000) = true := by decide +kernel
  obtain ⟨final, hrun, hmoment⟩ := Option.any_eq_true _ _ |>.mp hend
  obtain ⟨json, hphase⟩ := EventPhase.moment_eq_some (of_decide_eq_true hmoment)
  have hprompt : (eventMachine fun _ => .seats "e1").Along (Prompt 0) start actions := by
    decide +kernel
  obtain ⟨rows, _, _, hrows, _⟩ := seats_response_recent hprompt hrun rfl hphase
  exact ⟨rows, hrows⟩

end Recent

end Ticketing
