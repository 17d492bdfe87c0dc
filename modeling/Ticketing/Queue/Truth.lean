import Ticketing.Concert.Grid
import Ticketing.Queue.Delivery
import Ticketing.Queue.Status

/-!
# Whether results tell the truth

A result with `ok` false should mean that nothing was booked for the reference.
Three orders of steps break this: the write of a success raises and the handler
falls into its `except` branch after COMMIT; a delivery runs its transaction
although an earlier one has committed; and it runs while another delivery has
failed but not yet written so. Without them results tell the truth.
-/

namespace Ticketing

open Foundation Python

/-- A failure is on its way to the result key. -/
def Phase.failing : Phase → Bool
  | .decided verdict => !verdict.isCommitted
  | .recovering _ => true
  | .received | .checked | .acking | .ended => false

/-- The delivery has committed a booking and is about to write so. -/
def successPending (s : DeliveryState) (delivery : Nat) : Bool :=
  match s.deliveries[delivery]? with
  | some (.decided verdict) => verdict.isCommitted
  | _ => false

/-- The step starts no transaction after a commit for the reference or while a
failure is on its way, and no write of a success raises. -/
def Careful (s : DeliveryState) : DeliveryStep → Prop
  | .process _ _ _ => s.commits = [] ∧ ∀ phase ∈ s.deliveries, phase.failing = false
  | .write delivery outcome _ => successPending s delivery = true → outcome.raises = false
  | _ => True

instance (s : DeliveryState) : ∀ a, Decidable (Careful s a)
  | .process _ _ _ => inferInstanceAs (Decidable (_ ∧ _))
  | .write _ _ _ => inferInstanceAs (Decidable (_ → _))
  | .receive | .check _ _ | .recover _ _ _ | .ack _ _ | .crash _ | .expire | .other _ =>
      isTrue trivial

/-- What users are promised for one run: a failure is stored only while nothing
is booked, and a poll that has said `ok` is not contradicted by a later one
before the key expires. -/
structure ResultsTruthful (body : Json) (db : Db) (steps : List DeliveryStep) : Prop where
  failures : ∀ before a after s, steps = before ++ a :: after →
    (deliveryMachine body).run (.initial db) before = some s →
    ∀ result, storedBy s a = some result → result.ok = false → s.commits = []
  polls : ∀ before between after first second, steps = before ++ (between ++ after) →
    (deliveryMachine body).run (.initial db) before = some first →
    (deliveryMachine body).run first between = some second → .expire ∉ between →
    ∀ bookingRef queued queued',
      okOf (getBookingStatusDict bookingRef first.result queued) = some true →
      okOf (getBookingStatusDict bookingRef second.result queued') ≠ some false

/-! ## The invariant -/

structure TruthInv (s : DeliveryState) : Prop where
  noFailure : s.commits ≠ [] → ∀ phase ∈ s.deliveries, phase.failing = false
  decided : ∀ verdict, .decided verdict ∈ s.deliveries → verdict.isCommitted = true →
    s.commits ≠ []
  stored : ∀ result, s.result = some result → result.ok = true → s.commits ≠ []

theorem TruthInv.initial (db : Db) : TruthInv (.initial db) := by
  constructor <;> simp [DeliveryState.initial]

/-- A delivery that moves to a phase in which it carries no verdict. -/
theorem TruthInv.setPhase {s : DeliveryState} (hinv : TruthInv s) (delivery : Nat) {phase : Phase}
    (hfailing : phase.failing = true → s.commits = [])
    (hdecided : ∀ verdict, phase ≠ .decided verdict) : TruthInv (s.setPhase delivery phase) := by
  refine ⟨fun hcommits other hother => ?_, fun verdict hverdict hcommitted => ?_, hinv.stored⟩
  · rcases List.mem_or_eq_of_mem_set hother with hold | rfl
    · exact hinv.noFailure hcommits other hold
    · by_contra hfails
      exact hcommits (hfailing (by simpa using hfails))
  · rcases List.mem_or_eq_of_mem_set hverdict with hold | hnew
    · exact hinv.decided verdict hold hcommitted
    · exact absurd hnew.symm (hdecided verdict)

theorem TruthInv.put {s : DeliveryState} (hinv : TruthInv s) {result : BookingResult}
    {outcome : RedisWrite} (hok : result.ok = true → s.commits ≠ []) :
    TruthInv (s.put result outcome) := by
  unfold DeliveryState.put
  split
  next =>
    refine ⟨hinv.noFailure, hinv.decided, fun other hother => ?_⟩
    cases hother
    exact hok
  next => exact hinv

theorem TruthInv.commits_of_failing {s : DeliveryState} (hinv : TruthInv s) {delivery : Nat}
    {phase : Phase} (hphase : s.deliveries[delivery]? = some phase)
    (hfailing : phase.failing = true) : s.commits = [] := by
  by_contra hcommits
  rw [hinv.noFailure hcommits phase (List.mem_of_getElem? hphase)] at hfailing
  cases hfailing

theorem Verdict.committedId_eq_none {verdict : Verdict} (h : verdict.isCommitted = false) :
    verdict.committedId = none := by
  cases verdict <;> first | rfl | cases h

theorem Verdict.committedId_ne_none {verdict : Verdict} (h : verdict.isCommitted = true) :
    ∃ id, verdict.committedId = some id := by
  cases verdict <;> first | exact ⟨_, rfl⟩ | cases h

theorem TruthInv.commit {s : DeliveryState} (hinv : TruthInv s) (hcommits : s.commits = [])
    (hquiet : ∀ phase ∈ s.deliveries, phase.failing = false) (delivery : Nat) (verdict : Verdict)
    (db : Db) : TruthInv (s.commit delivery verdict db) := by
  -- before the first commit no success is stored or decided
  have hstored : s.result.all (fun result => !result.ok) = true := by
    cases hresult : s.result with
    | none => rfl
    | some result =>
        by_contra hok
        exact hinv.stored result hresult (by simpa using hok) hcommits
  have hnotDecided : ∀ other, .decided other ∈ s.deliveries → other.isCommitted = false := by
    intro other hother
    by_contra hcommitted
    exact hinv.decided other hother (by simpa using hcommitted) hcommits
  cases hcommitted : verdict.isCommitted with
  | false =>
      have hnone := Verdict.committedId_eq_none hcommitted
      refine ⟨fun hne => ?_, fun other hother hcommitted' => ?_, fun result hresult hok => ?_⟩
      · exact absurd (by simp [DeliveryState.commit, hnone, hcommits]) hne
      · rcases List.mem_or_eq_of_mem_set hother with hold | hnew
        · rw [hnotDecided other hold] at hcommitted'
          cases hcommitted'
        · split at hnew
          next =>
            cases hnew
            rw [hcommitted] at hcommitted'
            cases hcommitted'
          next => cases hnew
      · have hfalse : s.result = some result := hresult
        rw [hfalse] at hstored
        simp [hok] at hstored
  | true =>
      obtain ⟨id, hid⟩ := Verdict.committedId_ne_none hcommitted
      have hne : (s.commit delivery verdict db).commits ≠ [] := by
        simp [DeliveryState.commit, hid]
      refine ⟨fun _ phase hphase => ?_, fun _ _ _ => hne, fun _ _ _ => hne⟩
      rcases List.mem_or_eq_of_mem_set hphase with hold | rfl
      · exact hquiet phase hold
      · split
        next => simp [Phase.failing, hcommitted]
        next => rfl

theorem TruthInv.step {body : Json} {s next : DeliveryState} {a : DeliveryStep}
    (hinv : TruthInv s) (hcareful : Careful s a)
    (h : deliveryStep body s a = some next) : TruthInv next := by
  cases a with
  | receive =>
      rw [receive_eq_some h]
      refine ⟨fun hcommits phase hphase => ?_, fun verdict hverdict => ?_, hinv.stored⟩
      · rcases List.mem_append.mp hphase with hold | hnew
        · exact hinv.noFailure hcommits phase hold
        · rw [List.mem_singleton.mp hnew]
          rfl
      · rcases List.mem_append.mp hverdict with hold | hnew
        · exact hinv.decided verdict hold
        · cases List.mem_singleton.mp hnew
  | check delivery readable =>
      obtain ⟨_, rfl | rfl⟩ := check_eq_some h
      · exact hinv.setPhase delivery (by simp [Phase.failing]) (by simp)
      · exact hinv.setPhase delivery (by simp [Phase.failing]) (by simp)
  | process delivery env codes =>
      rw [(process_eq_some h).2]
      exact hinv.commit hcareful.1 hcareful.2 delivery _ _
  | write delivery outcome message =>
      obtain ⟨verdict, result, hphase, hresult, rfl⟩ := write_eq_some h
      have hok := Verdict.ok_result hresult
      have hput : TruthInv (s.put result outcome) := hinv.put fun hsuccess =>
        hinv.decided verdict (List.mem_of_getElem? hphase) (hok.symm.trans hsuccess)
      refine hput.setPhase delivery (fun hfailing => ?_) fun other => ?_
      · -- only a failure can still be on its way: a success does not raise
        rw [s.commits_put]
        refine hinv.commits_of_failing hphase ?_
        cases hcommitted : verdict.isCommitted with
        | false => simp [Phase.failing, hcommitted]
        | true =>
            have hraises := hcareful (by simp [successPending, hphase, hcommitted])
            simp [DeliveryState.afterWrite, hraises, Phase.failing] at hfailing
      · unfold DeliveryState.afterWrite
        split
        · split <;> simp
        · simp
  | recover delivery rollback outcome =>
      obtain ⟨message, phase, hphase, hended, ⟨_, rfl⟩ | ⟨_, rfl⟩⟩ := recover_eq_some h
      · have hput : TruthInv (s.put (.failure .error (some message)) outcome) :=
          hinv.put fun hsuccess => by cases hsuccess
        refine hput.setPhase delivery (fun hfailing => ?_) fun other => ?_
        · rcases hended with rfl | rfl <;> cases hfailing
        · rcases hended with rfl | rfl <;> simp
      · refine hinv.setPhase delivery (fun hfailing => ?_) fun other => ?_
        · rcases hended with rfl | rfl <;> cases hfailing
        · rcases hended with rfl | rfl <;> simp
  | ack delivery succeeds =>
      rw [ack_eq_some h]
      have hset : TruthInv (s.setPhase delivery .ended) :=
        hinv.setPhase delivery (by simp [Phase.failing]) (by simp)
      exact ⟨hset.noFailure, hset.decided, hset.stored⟩
  | crash delivery =>
      rw [crash_eq_some h]
      exact hinv.setPhase delivery (by simp [Phase.failing]) (by simp)
  | expire =>
      cases h
      exact ⟨hinv.noFailure, hinv.decided, by simp⟩
  | other step =>
      cases h
      exact ⟨hinv.noFailure, hinv.decided, hinv.stored⟩

/-! ## The two promises -/

/-- In a state of a careful run, a failure is written only if nothing is
booked. -/
theorem TruthInv.commits_of_stored {s : DeliveryState} (hinv : TruthInv s) {a : DeliveryStep}
    {result : BookingResult} (hstored : storedBy s a = some result) (hok : result.ok = false) :
    s.commits = [] := by
  unfold storedBy at hstored
  split at hstored
  next delivery outcome message =>
    split at hstored
    next verdict hphase =>
      split at hstored
      next =>
        have hcommitted := Verdict.ok_result hstored
        rw [hok] at hcommitted
        exact hinv.commits_of_failing hphase (by simp [Phase.failing, ← hcommitted])
      next => cases hstored
    next => cases hstored
  next delivery rollback outcome =>
    split at hstored
    next message hphase => exact hinv.commits_of_failing hphase rfl
    next => cases hstored
  next => cases hstored

/-- A success stays under the key until it expires or another success replaces
it. -/
theorem TruthInv.success_step {body : Json} {s next : DeliveryState} {a : DeliveryStep}
    (hinv : TruthInv s) (hexpire : a ≠ .expire) (h : deliveryStep body s a = some next)
    (hsuccess : ∃ result, s.result = some result ∧ result.ok = true) :
    ∃ result, next.result = some result ∧ result.ok = true := by
  obtain ⟨result, hresult, hok⟩ := hsuccess
  obtain ⟨hexpired, _⟩ | hnext := result_step h
  · exact absurd hexpired hexpire
  · rw [hnext]
    cases hstored : storedBy s a with
    | none => exact ⟨result, hresult, hok⟩
    | some other =>
        -- a failure would be written although a booking is committed
        refine ⟨other, rfl, ?_⟩
        by_contra hfailure
        exact hinv.stored result hresult hok
          (hinv.commits_of_stored hstored (by simpa using hfailure))

theorem success_run {body : Json} {first second : DeliveryState} {steps : List DeliveryStep}
    (hinv : TruthInv first) (hcareful : (deliveryMachine body).Along Careful first steps)
    (hrun : (deliveryMachine body).run first steps = some second) (hexpire : .expire ∉ steps)
    (hsuccess : ∃ result, first.result = some result ∧ result.ok = true) :
    ∃ result, second.result = some result ∧ result.ok = true := by
  induction steps generalizing first with
  | nil =>
      obtain rfl : first = second := by simpa using hrun
      exact hsuccess
  | cons a rest ih =>
      obtain ⟨next, hstep, hrest⟩ := (deliveryMachine body).run_cons_eq_some.mp hrun
      rw [List.mem_cons, not_or] at hexpire
      exact ih (hinv.step hcareful.1 hstep) (hcareful.2 next hstep) hrest hexpire.2
        (hinv.success_step (Ne.symm hexpire.1) hstep hsuccess)

/-- In every careful run the results tell the truth. -/
theorem results_truthful {body : Json} {db : Db} {steps : List DeliveryStep}
    (hcareful : (deliveryMachine body).Along Careful (.initial db) steps) :
    ResultsTruthful body db steps := by
  have hinv : ∀ before after s, steps = before ++ after →
      (deliveryMachine body).run (.initial db) before = some s →
      TruthInv s ∧ (deliveryMachine body).Along Careful s after := by
    rintro before after s rfl hrun
    obtain ⟨hbefore, hafter⟩ := (Machine.along_append hrun).mp hcareful
    refine ⟨?_, hafter⟩
    exact Machine.run_invariant_along (fun _ _ _ hinv hcond hstep => hinv.step hcond hstep)
      (.initial db) hbefore hrun
  constructor
  · intro before a after s hsplit hrun result hstored hok
    exact (hinv before (a :: after) s hsplit hrun).1.commits_of_stored hstored hok
  · intro before between after first second hsplit hfirst hsecond hexpire ref queued queued' hok
    obtain ⟨hfirstInv, hafter⟩ := hinv before (between ++ after) first hsplit hfirst
    rw [okOf_getBookingStatusDict] at hok ⊢
    obtain ⟨result, hresult, hok⟩ := success_run hfirstInv
      ((Machine.along_append hsecond).mp hafter).1 hsecond hexpire (Option.map_eq_some_iff.mp hok)
    simp [hresult, hok]

theorem results_truthful_twoSeats :
    ResultsTruthful (concertBody "first" 1 [.str "1-1"]) twoSeatDb
      [.receive, .check 0 true, .process 0 .quiet (fun _ => "CAA000001"), .write 0 .done "",
        .ack 0 true] :=
  results_truthful (by decide)

/-- The booking is committed and the write of its success raises. -/
def successWriteRaises : List DeliveryStep :=
  [.receive, .check 0 true, .process 0 .quiet (fun _ => "CAA000001"),
    .write 0 (.raised true) "Connection closed by server."]

/-- The handler then stores ERROR for the committed booking. -/
theorem committed_booking_reported_failed :
    ¬ ResultsTruthful (concertBody "first" 1 [.str "1-1"]) twoSeatDb
      (successWriteRaises ++ [.recover 0 true .done]) := by
  intro h
  have hcommits : ((deliveryMachine (concertBody "first" 1 [.str "1-1"])).run
      (.initial twoSeatDb) successWriteRaises).map DeliveryState.commits = some [1] := by
    decide +kernel
  have hstored : ((deliveryMachine (concertBody "first" 1 [.str "1-1"])).run
      (.initial twoSeatDb) successWriteRaises).bind (storedBy · (.recover 0 true .done)) =
        some (.failure .error (some "Connection closed by server.")) := by
    decide +kernel
  obtain ⟨s, hrun, hone⟩ := Option.map_eq_some_iff.mp hcommits
  rw [hrun, Option.bind_some] at hstored
  have hnone := h.failures _ _ [] s rfl hrun _ hstored rfl
  rw [hnone] at hone
  cases hone

end Ticketing
