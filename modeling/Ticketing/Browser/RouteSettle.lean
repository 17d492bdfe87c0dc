import Ticketing.Browser.RouteRun

/-!
# How the router settles

What the tab can do by itself has a rank that only goes down, so the chain comes to rest
unless a render needs a script whose element has failed. Such an element stays in the
document: nobody loads the script again, and the chain stands still for good.
-/

namespace Ticketing

open Foundation JavaScript Python

namespace RouteQueue

/-- What can happen next while nobody navigates. -/
def pick (q : RouteQueue) : Option RouteAction :=
  match q.job with
  | none => if 0 < q.queued then some .start else none
  | some ⟨[], _⟩ => some .finish
  | some ⟨step :: _, awaiting⟩ =>
      match step.script with
      | none => some .advance
      | some src =>
          if awaiting = false ∨ q.loader.promiseOf src = some .resolved then some .advance
          else if q.loader.element src = some .loading ∧
              q.loader.promiseOf src = some .pending then some (.load src)
          else none

/-- How far a wait has come: the call, the load, and the step itself. -/
def waited (q : RouteQueue) (job : RouteJob) : Nat :=
  match job with
  | ⟨step :: _, true⟩ =>
      match step.script with
      | some src => if q.loader.promiseOf src = some .resolved then 2 else 1
      | none => 1
  | _ => 0

def jobRank (q : RouteQueue) : Nat :=
  match q.job with
  | none => 0
  | some job => 1 + 3 * job.rest.length - q.waited job

/-- A queued render is worth more than any that has begun. -/
def rank (q : RouteQueue) : Nat := 20 * q.queued + q.jobRank

/-- The first step that is left needs the script. -/
def Needs (q : RouteQueue) (src : String) : Prop :=
  ∃ step rest awaiting, q.job = some ⟨step :: rest, awaiting⟩ ∧ step.script = some src

/-- A script that is needed has failed to load. -/
def Stuck (q : RouteQueue) : Prop :=
  ∃ src, src ≠ "" ∧ q.Needs src ∧ q.loader.element src = some .failed

end RouteQueue

/-- What a tab does that is left alone. -/
def RouteAction.Alone : RouteAction → Prop
  | .start | .advance | .finish | .load _ => True
  | .navigate _ | .throws | .ensure _ | .error _ => False

section Rank

variable {q next : RouteQueue} {a : RouteAction}

theorem RouteAction.Alone.succeeds (h : a.Alone) : a.Succeeds := by
  cases a <;> first | exact h.elim | trivial

theorem RouteQueue.waited_le (q : RouteQueue) (job : RouteJob) : q.waited job ≤ 2 := by
  unfold waited
  split
  · split
    · split <;> decide
    · decide
  · decide

theorem RouteQueue.pick_alone (h : q.pick = some a) : a.Alone := by
  unfold pick at h
  split at h
  next => split at h <;> cases h; trivial
  next => cases h; trivial
  next =>
    split at h
    next => cases h; trivial
    next =>
      split at h
      next => cases h; trivial
      next => split at h <;> cases h; trivial

theorem RouteQueue.jobRank_waiting {step : RouterStep} {rest : List RouterStep} {src : String}
    (hjob : q.job = some ⟨step :: rest, true⟩) (hscript : step.script = some src) :
    q.jobRank =
      3 * rest.length + if q.loader.promiseOf src = some .resolved then 2 else 3 := by
  rw [jobRank, hjob]
  simp only [waited, hscript, List.length_cons]
  split <;> omega

/-- A step that is executed costs what is left of its wait. -/
theorem RouteQueue.rank_runStep {step : RouterStep} {rest : List RouterStep} {awaiting : Bool}
    (hjob : q.job = some ⟨step :: rest, awaiting⟩) : (q.runStep step rest).rank < q.rank := by
  have hwaited := q.waited_le ⟨step :: rest, awaiting⟩
  have hq : q.jobRank = 1 + 3 * (rest.length + 1) - q.waited ⟨step :: rest, awaiting⟩ := by
    rw [jobRank, hjob]
    rfl
  unfold runStep
  split
  next page _ =>
    have hrank : ({ q with page := page, job := some ⟨rest, false⟩ } : RouteQueue).jobRank ≤
        1 + 3 * rest.length := Nat.sub_le _ _
    unfold rank
    dsimp only
    omega
  next =>
    have hrank : q.endJob.jobRank = 0 := rfl
    have hqueued : q.endJob.queued = q.queued := rfl
    unfold rank
    omega

theorem RouteQueue.startJob_rank (hready : 0 < q.queued) :
    ∃ next, q.startJob = some next ∧ next.rank < q.rank := by
  obtain ⟨plan, hplan, _, hshown⟩ := routePlan_shows q.page
  obtain ⟨page, error | steps⟩ := plan
  · refine ⟨_, by rw [startJob, hplan]; rfl, ?_⟩
    change 20 * (q.queued - 1) + 0 < 20 * q.queued + q.jobRank
    omega
  · refine ⟨_, by rw [startJob, hplan]; rfl, ?_⟩
    have hlength : steps.length ≤ 6 := hshown.1
    change 20 * (q.queued - 1) + (1 + 3 * steps.length - _) < 20 * q.queued + q.jobRank
    omega

theorem RouteQueue.advance_run {step : RouterStep} {rest : List RouterStep} {awaiting : Bool}
    (hjob : q.job = some ⟨step :: rest, awaiting⟩)
    (hready : ∀ src ∈ step.script, awaiting = true ∧ q.loader.promiseOf src = some .resolved) :
    q.advance = some (q.runStep step rest) := by
  rw [advance, hjob]
  dsimp only
  split
  next => rfl
  next src hscript =>
    obtain ⟨hawaiting, hresolved⟩ := hready src hscript
    rw [if_neg (by simp [hawaiting]), if_pos hresolved]

theorem RouteQueue.pick_step (h : q.pick = some a) :
    ∃ next, routeStep q a = some next ∧ next.rank < q.rank := by
  unfold pick at h
  split at h
  next hjob =>
    split at h
    next hready =>
      cases h
      obtain ⟨next, hstart, hlower⟩ := startJob_rank hready
      refine ⟨next, ?_, hlower⟩
      rw [routeStep, if_pos ⟨by rw [hjob]; rfl, hready⟩, hstart]
    next => cases h
  next awaiting hjob =>
    cases h
    refine ⟨q.endJob, by simp only [routeStep, hjob], ?_⟩
    have hrank : q.jobRank = 1 := by
      rw [jobRank, hjob]
      cases awaiting <;> rfl
    change 20 * q.queued + 0 < 20 * q.queued + q.jobRank
    omega
  next step rest awaiting hjob =>
    split at h
    next hscript =>
      cases h
      exact ⟨_, advance_run hjob (by simp [hscript]), rank_runStep hjob⟩
    next src hscript =>
      split at h
      next hready =>
        cases h
        cases awaiting with
        | false =>
            let next : RouteQueue := { q with
              loader := q.loader.ensureScript src
              job := some ⟨step :: rest, true⟩ }
            refine ⟨next, by simp only [routeStep, advance, hjob, hscript, if_true]; rfl, ?_⟩
            have hrank : q.jobRank = 1 + 3 * (rest.length + 1) := by rw [jobRank, hjob]; rfl
            have hnext := jobRank_waiting (q := next) rfl hscript
            change 20 * q.queued + next.jobRank < 20 * q.queued + q.jobRank
            split at hnext <;> omega
        | true =>
            have hresolved := hready.resolve_left Bool.true_eq_false.mp
            refine ⟨_, advance_run hjob fun other hother => ⟨rfl, ?_⟩, rank_runStep hjob⟩
            obtain rfl := Option.some.inj (hscript.symm.trans hother)
            exact hresolved
      next hwaits =>
        split at h
        next hloading =>
          cases h
          let next : RouteQueue := { q with
            page := q.page.ensureScript src
            loader := q.loader.loaded src }
          refine ⟨next, by rw [routeStep, if_pos hloading.1], ?_⟩
          obtain ⟨hawaiting, hpending⟩ := not_or.mp hwaits
          obtain rfl := Bool.eq_true_of_not_eq_false hawaiting
          have hrank := jobRank_waiting hjob hscript
          have hnext := jobRank_waiting (q := next) hjob hscript
          have hresolved : next.loader.promiseOf src = some .resolved :=
            ScriptLoader.promiseOf_loaded hloading.2
          rw [if_neg hpending] at hrank
          rw [if_pos hresolved] at hnext
          change 20 * q.queued + next.jobRank < 20 * q.queued + q.jobRank
          omega
        next => cases h

/-- There is always something left to do, except at rest or when stuck. -/
theorem RouteQueue.Sound.atRest_or_stuck (h : q.Sound) (hpick : q.pick = none) :
    q.AtRest ∨ q.Stuck := by
  unfold pick at hpick
  split at hpick
  next hjob =>
    split at hpick
    next => cases hpick
    next hready => exact .inl ⟨hjob, by omega⟩
  next => cases hpick
  next step rest awaiting hjob =>
    split at hpick
    next => cases hpick
    next src hscript =>
      split at hpick
      next => cases hpick
      next hwaits =>
        obtain ⟨hawaiting, hunresolved⟩ := not_or.mp hwaits
        obtain rfl := Bool.eq_true_of_not_eq_false hawaiting
        have hpromise := h.awaited src ⟨step, rest, hjob, hscript⟩
        have hsrc : src ≠ "" := by
          rintro rfl
          exact hunresolved rfl
        have hpending : q.loader.promiseOf src = some .pending := by
          cases hcase : q.loader.promiseOf src with
          | none => exact absurd hcase hpromise
          | some promise =>
              cases promise with
              | pending => rfl
              | resolved => exact absurd hcase hunresolved
        have hmap : q.loader.promise src = some .pending := by
          rwa [ScriptLoader.promiseOf, if_neg hsrc] at hpending
        rcases h.loader.pending src hmap with hloading | hfailed
        · rw [if_pos ⟨hloading, hpending⟩] at hpick
          cases hpick
        · exact .inr ⟨src, hsrc, ⟨step, rest, true, hjob, hscript⟩, hfailed⟩

/-- Only the `error` of an element makes it a failed one. -/
theorem routeStep_not_failed {src : String} (h : q.loader.element src ≠ some .failed)
    (ha : a.Succeeds) (hstep : routeStep q a = some next) :
    next.loader.element src ≠ some .failed := by
  cases a with
  | navigate url =>
      cases hstep
      exact h
  | start =>
      obtain ⟨_, _, hstart⟩ := routeStep_start hstep
      obtain ⟨plan, _, ⟨steps, _, rfl⟩ | ⟨_, rfl⟩⟩ := startJob_cases hstart
      · exact h
      · exact h
  | advance =>
      obtain ⟨step, rest, awaiting, _, ⟨rfl, _⟩ | ⟨called, _, _, rfl⟩⟩ := advance_cases hstep
      · rwa [RouteQueue.runStep_loader]
      · exact ScriptLoader.ensureScript_not_failed h
  | finish =>
      obtain ⟨_, rfl⟩ := routeStep_finish hstep
      exact h
  | throws => exact ha.elim
  | error other => exact ha.elim
  | ensure other =>
      cases hstep
      exact ScriptLoader.ensureScript_not_failed h
  | load other =>
      obtain ⟨_, rfl⟩ := routeStep_load hstep
      exact ScriptLoader.loaded_not_failed h

theorem run_not_failed {src : String} {actions : List RouteAction}
    (h : q.loader.element src ≠ some .failed) (hsucceeds : ∀ a ∈ actions, a.Succeeds)
    (hrun : routeMachine.run q actions = some next) :
    next.loader.element src ≠ some .failed := by
  have hstep : ∀ q a next, q.loader.element src ≠ some .failed → a.Succeeds →
      routeMachine.step q a = some next → next.loader.element src ≠ some .failed :=
    fun q a next h ha hstep => routeStep_not_failed h ha hstep
  have halong : routeMachine.Along (fun _ a => a.Succeeds) q actions :=
    Machine.along_of_forall hsucceeds
  exact Machine.run_invariant_along hstep h halong hrun

/-- A tab that is left alone comes to rest, or gets stuck. -/
theorem RouteQueue.settles (q : RouteQueue) : ∃ actions final, (∀ a ∈ actions, a.Alone) ∧
    routeMachine.run q actions = some final ∧ final.pick = none := by
  have hstep : ∀ q a, pick q = some a →
      ∃ next, routeMachine.step q a = some next ∧ next.rank < q.rank := fun q a => pick_step
  obtain ⟨actions, final, hrun, halong, hfinal⟩ := Machine.exists_run_of_rank hstep q
  exact ⟨actions, final, Machine.forall_of_along (fun _ _ hpick => pick_alone hpick) hrun halong,
    hrun, hfinal⟩

theorem RouteQueue.boot_not_failed (url : Url) (src : String) :
    (RouteQueue.boot url).loader.element src ≠ some .failed := by
  rintro h
  cases h

theorem RouteQueue.requested_of_alone {actions : List RouteAction}
    (halone : ∀ a ∈ actions, a.Alone) (hrun : routeMachine.run q actions = some next) :
    next.requested = q.requested := by
  have hstep : ∀ s a s', s.requested = q.requested → a.Alone →
      routeMachine.step s a = some s' → s'.requested = q.requested := by
    rintro s a s' hs ha hstep
    cases a with
    | start =>
        obtain ⟨_, _, hstart⟩ := routeStep_start hstep
        obtain ⟨plan, _, ⟨steps, _, rfl⟩ | ⟨_, rfl⟩⟩ := startJob_cases hstart
        · exact hs
        · exact hs
    | advance =>
        obtain ⟨step, rest, awaiting, _, ⟨rfl, _⟩ | ⟨called, _, _, rfl⟩⟩ := advance_cases hstep
        · exact (RouteQueue.runStep_requested s step rest).trans hs
        · exact hs
    | finish =>
        obtain ⟨_, rfl⟩ := routeStep_finish hstep
        exact hs
    | load src =>
        obtain ⟨_, rfl⟩ := routeStep_load hstep
        exact hs
    | navigate url | throws | ensure src | error src => exact ha.elim
  have halong : routeMachine.Along (fun _ a => a.Alone) q actions :=
    Machine.along_of_forall halone
  exact Machine.run_invariant_along hstep rfl halong hrun

/-- As long as loads succeed and pages do not throw, every state that is reached settles by
itself, on the page of the URL that was navigated to last. -/
theorem renders_settle {url : Url} {actions : List RouteAction}
    (hsucceeds : ∀ a ∈ actions, a.Succeeds)
    (hrun : routeMachine.run (.boot url) actions = some q) :
    ∃ more final, (∀ a ∈ more, a.Alone) ∧ routeMachine.run q more = some final ∧
      final.AtRest ∧ final.page.mainBody = pageShown q.requested := by
  obtain ⟨more, final, halone, hmore, hpick⟩ := q.settles
  have hwhole : routeMachine.run (.boot url) (actions ++ more) = some final :=
    (Machine.run_append_eq_some _).mpr ⟨q, hrun, hmore⟩
  have hall : ∀ a ∈ actions ++ more, a.Succeeds := by
    rintro a ha
    rcases List.mem_append.mp ha with ha | ha
    · exact hsucceeds a ha
    · exact (halone a ha).succeeds
  have hrest : final.AtRest := by
    refine ((RouteQueue.run_sound hwhole).atRest_or_stuck hpick).resolve_right ?_
    rintro ⟨src, _, _, hfailed⟩
    exact run_not_failed (RouteQueue.boot_not_failed url src) hall hwhole hfailed
  refine ⟨more, final, halone, hmore, hrest, ?_⟩
  rw [← RouteQueue.requested_of_alone halone hmore]
  exact (RouteQueue.run_onItsWay hall hwhole).atRest hrest

theorem renders_settle_overtaken :
    ∃ q, routeMachine.run (.boot rootUrl) (overtakenHome.take 5) = some q ∧
      ∃ more final, (∀ a ∈ more, a.Alone) ∧ routeMachine.run q more = some final ∧
        final.AtRest ∧ final.page.mainBody = pageShown q.requested := by
  have hsome : (routeMachine.run (.boot rootUrl) (overtakenHome.take 5)).isSome = true := rfl
  have hrun := (Option.some_get hsome).symm
  exact ⟨_, hrun, renders_settle (by decide) hrun⟩

/-! ## A script that has failed -/

namespace RouteQueue

/-- The render that is under way makes no more progress. -/
def StandsStill (q : RouteQueue) : Prop :=
  q.job.isSome = true ∧ ∀ actions final, routeMachine.run q actions = some final →
    final.job.map RouteJob.rest = q.job.map RouteJob.rest ∧
      final.page.mainBody = q.page.mainBody ∧ final.loadingLayer = true

end RouteQueue

/-- A promise for a script that has failed is never kept. -/
theorem RouteQueue.Sound.not_resolved (h : q.Sound) {src : String} (hsrc : src ≠ "")
    (hfailed : q.loader.element src = some .failed) :
    q.loader.promiseOf src ≠ some .resolved := by
  rintro hresolved
  rw [ScriptLoader.promiseOf, if_neg hsrc] at hresolved
  cases hfailed.symm.trans (h.loader.resolved src hresolved)

/-- Nothing that happens helps a render whose script has failed. -/
theorem RouteQueue.Sound.step_of_failed (h : q.Sound) {step : RouterStep}
    {rest : List RouterStep} {src : String} (hsrc : src ≠ "") (hscript : step.script = some src)
    (hjob : q.job.map RouteJob.rest = some (step :: rest))
    (hfailed : q.loader.element src = some .failed) (hstep : routeStep q a = some next) :
    next.job.map RouteJob.rest = some (step :: rest) ∧
      next.loader.element src = some .failed ∧ next.page.mainBody = q.page.mainBody := by
  obtain ⟨⟨left, awaiting⟩, hq, hleft⟩ := Option.map_eq_some_iff.mp hjob
  obtain rfl : left = step :: rest := hleft
  have hunresolved := h.not_resolved hsrc hfailed
  cases a with
  | navigate url =>
      cases hstep
      exact ⟨hjob, hfailed, rfl⟩
  | start =>
      obtain ⟨hnone, _⟩ := routeStep_start hstep
      cases hq.symm.trans hnone
  | advance =>
      obtain ⟨step', rest', awaiting', hsame, ⟨_, hready⟩ | ⟨called, _, _, rfl⟩⟩ :=
        advance_cases hstep
      · cases hq.symm.trans hsame
        exact absurd (hready src hscript).2 hunresolved
      · cases hq.symm.trans hsame
        exact ⟨rfl, ScriptLoader.ensureScript_element_of_some hfailed, rfl⟩
  | finish =>
      obtain ⟨⟨awaiting', hsame⟩, _⟩ := routeStep_finish hstep
      cases hq.symm.trans hsame
  | throws =>
      obtain ⟨step', rest', awaiting', page, hsame, hready, _⟩ := routeStep_throws hstep
      cases hq.symm.trans hsame
      exact absurd (hready src hscript).2 hunresolved
  | ensure other =>
      cases hstep
      exact ⟨hjob, ScriptLoader.ensureScript_element_of_some hfailed, rfl⟩
  | load other =>
      obtain ⟨hloading, rfl⟩ := routeStep_load hstep
      have hother : src ≠ other := by
        rintro rfl
        cases hfailed.symm.trans hloading
      refine ⟨hjob, ?_, ensureScript_mainBody other⟩
      simpa only [ScriptLoader.loaded, Function.update_of_ne hother] using hfailed
  | error other =>
      obtain ⟨hloading, rfl⟩ := routeStep_error hstep
      have hother : src ≠ other := by
        rintro rfl
        cases hfailed.symm.trans hloading
      let failed : RouteQueue := { q with loader := q.loader.failed other }
      rcases failed.reject_cases other with ⟨⟨step', rest', hsame, hawaits⟩, _⟩ | ⟨_, hkept⟩
      · -- the render would have to wait for both scripts
        cases hq.symm.trans hsame
        exact absurd (Option.some.inj (hscript.symm.trans hawaits)) hother
      · rw [hkept]
        refine ⟨hjob, ?_, rfl⟩
        simpa only [failed, ScriptLoader.failed, Function.update_of_ne hother] using hfailed

theorem RouteQueue.Sound.standsStill (h : q.Sound) (hstuck : q.Stuck) : q.StandsStill := by
  obtain ⟨src, hsrc, ⟨step, rest, awaiting, hjob, hscript⟩, hfailed⟩ := hstuck
  refine ⟨by rw [hjob]; rfl, fun actions final hrun => ?_⟩
  have hleft : q.job.map RouteJob.rest = some (step :: rest) := by rw [hjob]; rfl
  let inv (s : RouteQueue) : Prop := s.Sound ∧ s.job.map RouteJob.rest = some (step :: rest) ∧
    s.loader.element src = some .failed ∧ s.page.mainBody = q.page.mainBody
  have hstep : ∀ s a s', inv s → routeMachine.step s a = some s' → inv s' := by
    rintro s a s' ⟨hsound, hleft, hfailed, hmainBody⟩ hstep
    obtain ⟨hleft', hfailed', hmainBody'⟩ :=
      hsound.step_of_failed hsrc hscript hleft hfailed hstep
    exact ⟨hsound.step hstep, hleft', hfailed', hmainBody'.trans hmainBody⟩
  obtain ⟨hsound, hfinal, _, hmainBody⟩ :=
    Machine.run_invariant hstep ⟨h, hleft, hfailed, rfl⟩ hrun
  refine ⟨hfinal.trans hleft.symm, hmainBody, hsound.layer.trans ?_⟩
  obtain ⟨job, hsome, _⟩ := Option.map_eq_some_iff.mp hfinal
  rw [hsome]
  rfl

/-- The elements that have failed stay in the document. A render that comes to need such a
script stands still, with the loading layer over the page, whatever happens later; and it
does so in no other case. -/
theorem stands_still_iff {url : Url} {actions : List RouteAction}
    (hrun : routeMachine.run (.boot url) actions = some q) : q.StandsStill ↔ q.Stuck := by
  have hsound := RouteQueue.run_sound hrun
  constructor
  · rintro ⟨hjob, hstill⟩
    by_contra hstuck
    -- left alone, the render would come to its end or get stuck
    obtain ⟨more, final, halone, hmore, hpick⟩ := q.settles
    obtain ⟨hleft, _, _⟩ := hstill more final hmore
    have hfinal : final.Sound := Machine.run_invariant (fun _ _ _ h hstep => h.step hstep)
      hsound hmore
    rcases hfinal.atRest_or_stuck hpick with ⟨hnone, _⟩ |
      ⟨src, hsrc, ⟨step, rest, awaiting, hsame, hscript⟩, hfailed⟩
    · rw [hnone, Option.map_none, eq_comm, Option.map_eq_none_iff] at hleft
      rw [hleft] at hjob
      cases hjob
    · rw [hsame, Option.map_some, eq_comm, Option.map_eq_some_iff] at hleft
      obtain ⟨⟨left, awaiting'⟩, hq, rfl⟩ := hleft
      have hbefore : q.loader.element src ≠ some .failed := fun hfailed' =>
        hstuck ⟨src, hsrc, ⟨step, rest, awaiting', hq, hscript⟩, hfailed'⟩
      exact run_not_failed hbefore (fun a ha => (halone a ha).succeeds) hmore hfailed
  · exact hsound.standsStill

/-- The home page is tried again after its script has failed to load. -/
theorem stands_still_retry : ∃ q, routeMachine.run (.boot rootUrl)
    [.start, .advance, .advance, .error ScriptPath.home, .navigate rootUrl, .start,
      .advance] = some q ∧ q.StandsStill := by
  have hsome : (routeMachine.run (.boot rootUrl) [.start, .advance, .advance,
    .error ScriptPath.home, .navigate rootUrl, .start, .advance]).isSome = true := rfl
  have hrun := (Option.some_get hsome).symm
  refine ⟨_, hrun, (stands_still_iff hrun).mpr ?_⟩
  exact ⟨ScriptPath.home, by decide, ⟨_, _, _, rfl, rfl⟩, rfl⟩

end Rank

end Ticketing
