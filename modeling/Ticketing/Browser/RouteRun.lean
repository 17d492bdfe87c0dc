import Ticketing.Browser.RouteQueue

/-!
# Runs of the router

As long as no script fails to load and no page throws, every render that is queued can be
brought to its end, and whenever the chain is at rest the page of the URL that was
navigated to last is shown. A script that has failed to load is never loaded again: the
next render that needs it waits forever, and so does everything behind it.
-/

namespace Ticketing

open Foundation JavaScript Python

/-! ## Renders that are ahead of each other -/

/-- The same is shown and has been called, and no script is missing. -/
structure RouterPage.Ahead (page next : RouterPage) : Prop where
  mainBody : next.mainBody = page.mainBody
  calls : next.calls = page.calls
  scripts : ∀ path ∈ page.scripts, path ∈ next.scripts

section Ahead

variable {page other next : RouterPage} {step : RouterStep} {rest : List RouterStep}

@[simp] theorem ensureScript_mainBody (path : String) :
    (page.ensureScript path).mainBody = page.mainBody := by
  unfold RouterPage.ensureScript
  split <;> rfl

@[simp] theorem ensureScript_location (path : String) :
    (page.ensureScript path).location = page.location := by
  unfold RouterPage.ensureScript
  split <;> rfl

theorem RouterPage.Ahead.ensureScript (h : page.Ahead other) (path : String) :
    (page.ensureScript path).Ahead (other.ensureScript path) := by
  refine ⟨by simpa using h.mainBody, by simpa using h.calls, fun loaded hloaded => ?_⟩
  rw [mem_ensureScript] at hloaded ⊢
  exact hloaded.imp_left (h.scripts loaded)

theorem RouterPage.ahead_ensureScript (page : RouterPage) (path : String) :
    page.Ahead (page.ensureScript path) :=
  ⟨by simp, by simp, fun _ hloaded => mem_ensureScript.mpr (.inl hloaded)⟩

theorem RouterPage.Ahead.hasGlobal (h : page.Ahead other) {functionName : String}
    (hglobal : page.hasGlobal functionName = true) : other.hasGlobal functionName = true := by
  obtain ⟨entry, hentry, hboth⟩ := List.any_eq_true.mp hglobal
  rw [Bool.and_eq_true, decide_eq_true_eq] at hboth
  refine List.any_eq_true.mpr ⟨entry, hentry, ?_⟩
  rw [Bool.and_eq_true, decide_eq_true_eq]
  exact ⟨h.scripts _ hboth.1, hboth.2⟩

/-- The footer may be rendered, and nothing else. -/
theorem runRouterStep_ensureFooter (page : RouterPage) :
    ∃ footers, runRouterStep page .ensureFooter =
      .ok { page.ensureScript ScriptPath.footer with footers := footers } := by
  unfold runRouterStep
  dsimp only
  split
  · exact ⟨_, rfl⟩
  · exact ⟨_, rfl⟩

theorem runRouterStep_location (h : runRouterStep page step = .ok next) :
    next.location = page.location := by
  cases step with
  | resetPrimarySections | prefetchScripts paths =>
      cases h
      rfl
  | ensureScript path =>
      cases h
      exact ensureScript_location path
  | runPageAction functionName route =>
      unfold runRouterStep at h
      dsimp only at h
      split at h
      · cases h
        rfl
      · cases h
  | ensureFooter =>
      obtain ⟨footers, hfooter⟩ := runRouterStep_ensureFooter page
      cases h.symm.trans hfooter
      exact ensureScript_location _

/-- What can be executed can be executed later. -/
theorem RouterPage.Ahead.runRouterStep (h : page.Ahead other)
    (hstep : runRouterStep page step = .ok next) :
    ∃ later, runRouterStep other step = .ok later ∧ next.Ahead later := by
  cases step with
  | resetPrimarySections =>
      cases hstep
      exact ⟨_, rfl, rfl, h.calls, h.scripts⟩
  | prefetchScripts paths =>
      cases hstep
      exact ⟨_, rfl, h.mainBody, h.calls, h.scripts⟩
  | ensureScript path =>
      cases hstep
      exact ⟨_, rfl, h.ensureScript path⟩
  | runPageAction functionName route =>
      unfold Ticketing.runRouterStep at hstep
      dsimp only at hstep
      split at hstep
      next hglobal =>
        cases hstep
        refine ⟨_, if_pos (h.hasGlobal hglobal), rfl, ?_, h.scripts⟩
        exact congrArg (· ++ [⟨functionName, route⟩]) h.calls
      next => cases hstep
  | ensureFooter =>
      obtain ⟨footers, hfooter⟩ := runRouterStep_ensureFooter page
      obtain ⟨footers', hlater⟩ := runRouterStep_ensureFooter other
      cases hstep.symm.trans hfooter
      have hboth := h.ensureScript ScriptPath.footer
      exact ⟨_, hlater, hboth.mainBody, hboth.calls, hboth.scripts⟩

/-- The steps go through, and what they show in the end. -/
structure Renders (page : RouterPage) (steps : List RouterStep) (shown : Option String) :
    Prop where
  error : (runRouterSteps page steps).error = none
  mainBody : (runRouterSteps page steps).page.mainBody = shown

variable {shown : Option String}

theorem Renders.uncons (h : Renders page (step :: rest) shown) :
    ∃ next, runRouterStep page step = .ok next ∧ Renders next rest shown := by
  obtain ⟨herror, hmainBody⟩ := h
  rw [runRouterSteps_cons] at herror hmainBody
  cases hstep : runRouterStep page step with
  | ok next =>
      rw [hstep] at herror hmainBody
      exact ⟨next, rfl, herror, hmainBody⟩
  | error error =>
      rw [hstep] at herror
      cases herror

theorem Renders.cons (hstep : runRouterStep page step = .ok next) (h : Renders next rest shown) :
    Renders page (step :: rest) shown := by
  have hsteps : runRouterSteps page (step :: rest) = runRouterSteps next rest := by
    rw [runRouterSteps_cons, hstep]
  exact ⟨hsteps ▸ h.error, hsteps ▸ h.mainBody⟩

theorem Renders.ahead {steps : List RouterStep} (h : Renders page steps shown)
    (hahead : page.Ahead other) : Renders other steps shown := by
  induction steps generalizing page other with
  | nil => exact ⟨rfl, hahead.mainBody.trans h.mainBody⟩
  | cons step rest ih =>
      obtain ⟨next, hnext, hrest⟩ := h.uncons
      obtain ⟨later, hlater, hnextAhead⟩ := hahead.runRouterStep hnext
      exact .cons hlater (ih hrest hnextAhead)

end Ahead

/-! ## What a render is going to show -/

/-- Preparations, a page action and the footer. -/
structure Planned (steps : List RouterStep) (action : String) : Prop where
  shape : ∃ prepare route, steps = prepare ++ [.runPageAction action route, .ensureFooter] ∧
    (∀ step ∈ prepare, step.isPreparation = true) ∧ prepare.length ≤ 4

theorem movieSteps_planned (route : Route) : ∃ action, Planned (movieSteps route) action := by
  unfold movieSteps
  split
  · exact ⟨_, [.resetPrimarySections, .ensureScript ScriptPath.movieMain,
      .prefetchScripts [ScriptPath.movieDetail], .ensureScript ScriptPath.movieDetail], none, rfl,
      by decide, by decide⟩
  · exact ⟨_, [.resetPrimarySections, .ensureScript ScriptPath.movieMain,
      .prefetchScripts [ScriptPath.movieDetail]], none, rfl, by decide, by decide⟩

theorem concertSteps_planned (route : Route) : ∃ action, Planned (concertSteps route) action := by
  unfold concertSteps
  split
  · exact ⟨_, [.resetPrimarySections, .ensureScript ScriptPath.concertMain,
      .prefetchScripts [ScriptPath.concertDetail, ScriptPath.concertBooking,
        ScriptPath.concertBookingModal], .ensureScript ScriptPath.concertDetail], none, rfl,
      by decide, by decide⟩
  · exact ⟨_, [.resetPrimarySections, .ensureScript ScriptPath.concertMain,
      .prefetchScripts [ScriptPath.concertDetail, ScriptPath.concertBooking,
        ScriptPath.concertBookingModal]], none, rfl, by decide, by decide⟩

theorem routeSteps_planned (route : Route) : ∃ action, Planned (routeSteps route) action := by
  unfold routeSteps
  split
  · exact movieSteps_planned route
  · split
    · exact concertSteps_planned route
    · split
      · exact movieSteps_planned route
      · exact ⟨_, [.resetPrimarySections, .ensureScript ScriptPath.home,
          .prefetchScripts [ScriptPath.footer, ScriptPath.movieMain, ScriptPath.mypage]], none, rfl,
          by decide, by decide⟩

theorem viewSteps_planned {view : String} {config : ViewConfig}
    (hview : registered view = some config) (route : Route) :
    Planned (viewSteps config route) config.action := by
  obtain ⟨entry, hfind, rfl⟩ := Option.map_eq_some_iff.mp hview
  have hmem := List.mem_of_find?_eq_some hfind
  let prepare (entry : String × ViewConfig) : List RouterStep :=
    .resetPrimarySections :: (entry.2.scripts.map RouterStep.ensureScript ++
      if entry.2.prefetch ≠ [] then [.prefetchScripts entry.2.prefetch] else [])
  have hsteps : ∀ entry ∈ viewRoutes, ∀ step ∈ prepare entry, step.isPreparation = true := by
    decide
  have hlength : ∀ entry ∈ viewRoutes, (prepare entry).length ≤ 4 := by decide
  exact ⟨prepare entry, some route, rfl, hsteps entry hmem, hlength entry hmem⟩

section Plans

variable {page : RouterPage} {steps : List RouterStep} {action : String}

theorem Planned.length_le (h : Planned steps action) : steps.length ≤ 6 := by
  obtain ⟨prepare, route, rfl, _, hlength⟩ := h.shape
  simpa using hlength

/-- Steps that go through show what they call. -/
theorem Planned.renders (h : Planned steps action)
    (herror : (runRouterSteps page steps).error = none) :
    Renders page steps (some action) ∧
      ∃ route, (runRouterSteps page steps).page.calls = page.calls ++ [⟨action, route⟩] := by
  obtain ⟨prepare, route, rfl, hprepare, _⟩ := h.shape
  obtain ⟨next, hnext, hcalls, _, _⟩ := @runRouterSteps_preparation page
    [.runPageAction action route, .ensureFooter] prepare hprepare
  rw [hnext] at herror ⊢
  obtain ⟨called, hcalled, hfooter⟩ := (Renders.mk herror rfl).uncons
  obtain ⟨last, hlast, _⟩ := hfooter.uncons
  obtain ⟨footers, hfooters⟩ := runRouterStep_ensureFooter called
  cases hlast.symm.trans hfooters
  have hrun : runRouterSteps next [.runPageAction action route, .ensureFooter] =
      ⟨{ called.ensureScript ScriptPath.footer with footers := footers }, none⟩ := by
    rw [runRouterSteps_cons, hcalled]
    dsimp only
    rw [runRouterSteps_cons, hfooters]
    rfl
  unfold runRouterStep at hcalled
  dsimp only at hcalled
  split at hcalled
  next =>
    cases hcalled
    refine ⟨⟨by rw [hnext]; exact herror, ?_⟩, route, ?_⟩
    · rw [hnext, hrun]
      exact ensureScript_mainBody _
    · rw [hrun, ← hcalls]
      exact ensureScript_calls _
  next => cases hcalled

theorem normalizeLegacyUrlIfNeeded_ne (page : RouterPage) :
    (normalizeLegacyUrlIfNeeded page).location.pathname ≠ legacyDetailPath := by
  unfold normalizeLegacyUrlIfNeeded
  split
  next h => exact h
  next =>
    let params := page.location.searchParams
    have hfields : (legacyFields params).Of (.object
        [("page", numberOrNull (toPositiveInt (getParam params "page"))),
          ("q", .string (trimmedField (getParam params "q"))),
          ("movie_id", numberOrNull (toPositiveInt (getParam params "movie_id")))]) :=
      ⟨.undefined, .orNull _, .text _, .orNull _, .undefined, .undefined, .undefined⟩
    dsimp only
    rw [hfields.buildUrlFromRoute_eq, RouterPage.replaceState, ofText_toText_url]
    exact (by decide : ("/" : String) ≠ legacyDetailPath)

theorem normalizeLegacyUrlIfNeeded_calls (page : RouterPage) :
    (normalizeLegacyUrlIfNeeded page).calls = page.calls := by
  unfold normalizeLegacyUrlIfNeeded
  split
  next => exact Eq.refl page.calls
  next => exact replaceState_calls _

theorem registered_of_lookupView {view : String} {config : ViewConfig}
    (h : lookupView view = .own config) : registered view = some config := by
  unfold lookupView at h
  split at h
  next own hown => rwa [← ViewLookup.own.inj h]
  next => split at h <;> cases h

/-- A plan calls nothing before it waits, and planning from where it has got to gives the
same plan. -/
theorem routePlan_spec {fuel : Nat} {plan : RoutePlan} (h : routePlan fuel page = some plan) :
    plan.1.calls = page.calls ∧ ∀ steps, plan.2 = .ok steps →
      (∃ action, Planned steps action) ∧ ∀ more, routePlan (more + 1) plan.1 = some plan := by
  induction fuel generalizing page with
  | zero => cases h
  | succ fuel ih =>
      rw [routePlan] at h
      have hcalls := normalizeLegacyUrlIfNeeded_calls page
      have hne := normalizeLegacyUrlIfNeeded_ne page
      generalize normalizeLegacyUrlIfNeeded page = normal at h hcalls hne
      have hstay : normalizeLegacyUrlIfNeeded normal.clearTransientUi = normal.clearTransientUi :=
        if_pos hne
      split at h
      next =>
        have hrest := ih h
        rw [replaceState_calls, clearTransientUi_calls, hcalls] at hrest
        exact hrest
      next hpath =>
        -- nothing is left to be rewritten, so the same branches are taken once more
        have hagain : ∀ more, routePlan (more + 1) normal.clearTransientUi =
            if (getRouteFromUrl normal.location).view ≠ "" then
              planViewRoute (routePlan more) (getRouteFromUrl normal.location).view
                (getRouteFromUrl normal.location) normal.clearTransientUi
            else some (normal.clearTransientUi,
              .ok (routeSteps (getRouteFromUrl normal.location))) := by
          intro more
          rw [routePlan, hstay]
          exact if_neg hpath
        split at h
        next hview =>
          unfold planViewRoute at h
          split at h
          next =>
            have hrest := ih h
            rw [replaceState_calls, clearTransientUi_calls, hcalls] at hrest
            exact hrest
          next =>
            cases h
            exact ⟨hcalls, fun steps hsteps => by cases hsteps⟩
          next config hlookup =>
            cases h
            refine ⟨hcalls, fun steps hsteps => ?_⟩
            cases hsteps
            have hregistered := registered_of_lookupView hlookup
            refine ⟨⟨_, viewSteps_planned hregistered _⟩, fun more => ?_⟩
            rw [hagain, if_pos hview, planViewRoute, hlookup]
        next hview =>
          cases h
          refine ⟨hcalls, fun steps hsteps => ?_⟩
          cases hsteps
          exact ⟨routeSteps_planned _, fun more => by rw [hagain, if_neg hview]⟩

/-- What rendering a URL leaves in the main section: the page of the URL, or nothing if the
view has the name of an inherited property. -/
def pageShown (url : Url) : Option String :=
  if isRootPath url.pathname = true ∧ viewOfUrl url ∈ inheritedNames then none
  else some (pageOfUrl url)

theorem renderRoute_calls
    (hview : ¬ (isRootPath page.location.pathname = true ∧
      viewOfUrl page.location ∈ inheritedNames)) :
    ∃ outcome, (∀ fuel, renderRoute (fuel + 2) page = some outcome) ∧
      outcome.Calls page (pageOfUrl page.location) := by
  by_cases hroot : isRootPath page.location.pathname = true
  · exact renderRoute_root hroot fun hmem => hview ⟨hroot, hmem⟩
  by_cases hlegacy : page.location.pathname = legacyDetailPath
  · obtain ⟨outcome, hrun, hcalls⟩ := renderRoute_legacy hlegacy
    exact ⟨outcome, fun fuel => hrun (fuel + 1), hcalls⟩
  · rw [pageOfUrl, if_neg hlegacy, if_neg hroot]
    exact renderRoute_unknownPath (Bool.eq_false_of_not_eq_true hroot) hlegacy

theorem routePlan_inherited (hroot : isRootPath page.location.pathname = true)
    (hview : viewOfUrl page.location ∈ inheritedNames) (fuel : Nat) :
    routePlan (fuel + 1) page =
      some ({ page.clearTransientUi with mainBody := none }, .error .typeError) := by
  obtain ⟨hlookup, hname⟩ := lookupView_inherited hview
  have hstay : normalizeLegacyUrlIfNeeded page = page := if_pos (ne_legacy_of_isRootPath hroot)
  have hpathname : (getRouteFromUrl page.location).pathname = "/" := if_pos hroot
  have hroute : (getRouteFromUrl page.location).view = viewOfUrl page.location := rfl
  rw [routePlan, hstay, if_neg (by rw [hpathname]; decide), hroute, if_pos hname, planViewRoute,
    hlookup]
  rfl

/-- Two pages that the same outcome calls, from the same calls before. -/
theorem RouteOutcome.Calls.unique {outcome : RouteOutcome} {other : RouterPage}
    {action action' : String} (h : outcome.Calls page action)
    (h' : outcome.Calls other action') (hcalls : other.calls = page.calls) :
    action = action' := by
  obtain ⟨route, hroute⟩ := h.calls
  obtain ⟨route', hroute'⟩ := h'.calls
  rw [hroute, hcalls] at hroute'
  simp only [List.append_cancel_left_eq, List.cons.injEq, PageCall.mk.injEq, and_true] at hroute'
  exact hroute'.1

/-- A plan shows the page of the URL, also if the URL has been rewritten on the way. -/
theorem routePlan_shows (page : RouterPage) :
    ∃ plan, routePlan 2 page = some plan ∧
      pageShown plan.1.location = pageShown page.location ∧
      match plan.2 with
      | .ok steps => steps.length ≤ 6 ∧ Renders plan.1 steps (pageShown page.location)
      | .error _ => plan.1.mainBody = pageShown page.location := by
  by_cases hview : isRootPath page.location.pathname = true ∧
      viewOfUrl page.location ∈ inheritedNames
  · refine ⟨_, routePlan_inherited hview.1 hview.2 1, rfl, ?_⟩
    rw [pageShown, if_pos hview]
  obtain ⟨outcome, hrun, hcalls⟩ := renderRoute_calls hview
  obtain ⟨plan, hplan, houtcome⟩ :=
    Option.map_eq_some_iff.mp ((renderRoute_eq_map 2 page).symm.trans (hrun 0))
  obtain ⟨hsame, hok⟩ := routePlan_spec hplan
  refine ⟨plan, hplan, ?_⟩
  rw [show pageShown page.location = some (pageOfUrl page.location) from if_neg hview]
  obtain ⟨planned, steps | steps⟩ := plan
  · rw [← houtcome] at hcalls
    cases hcalls.error
  obtain ⟨⟨action, hshape⟩, hfixed⟩ := hok steps rfl
  have houtcome : runRouterSteps planned steps = outcome := houtcome
  obtain ⟨hrenders, hcalled⟩ := hshape.renders (houtcome ▸ hcalls.error)
  rw [houtcome] at hcalled
  obtain rfl : action = pageOfUrl page.location :=
    RouteOutcome.Calls.unique ⟨hcalls.error, hcalled⟩ hcalls hsame.symm
  refine ⟨?_, hshape.length_le, hrenders⟩
  -- the same render starts from the URL as it has been rewritten
  by_cases hagain : isRootPath planned.location.pathname = true ∧
      viewOfUrl planned.location ∈ inheritedNames
  · have herror := routePlan_inherited hagain.1 hagain.2 0
    rw [hfixed 0] at herror
    cases congrArg Prod.snd (Option.some.inj herror)
  · obtain ⟨outcome', hrun', hcalls'⟩ := renderRoute_calls hagain
    have hrun'' := (renderRoute_eq_map 2 planned).symm.trans (hrun' 0)
    rw [hfixed 1] at hrun''
    obtain rfl : outcome = outcome' := houtcome.symm.trans (Option.some.inj hrun'')
    rw [pageShown, if_neg hagain, hcalls.unique hcalls' hsame]

end Plans


/-! ## Invariants of the queue -/

namespace RouteQueue

/-- The render that is under way waits for the script. -/
def Awaits (q : RouteQueue) (src : String) : Prop :=
  ∃ step rest, q.job = some ⟨step :: rest, true⟩ ∧ step.script = some src

/-- The loader is sound, whoever waits has got a promise, and the layer covers the page
while a render is under way. -/
structure Sound (q : RouteQueue) : Prop where
  loader : q.loader.Sound
  awaited : ∀ src, q.Awaits src → q.loader.promiseOf src ≠ none
  layer : q.loadingLayer = q.job.isSome

/-- What the main section shows, or will show when the render is through. -/
def Shows (q : RouteQueue) (shown : Option String) : Prop :=
  match q.job with
  | none => q.page.mainBody = shown
  | some job => Renders q.page job.rest shown

/-- The URL, possibly rewritten, is the one that was navigated to, and the last render is
going to show its page. -/
structure OnItsWay (q : RouteQueue) : Prop where
  location : pageShown q.page.location = pageShown q.requested
  shows : q.queued = 0 → q.Shows (pageShown q.requested)

end RouteQueue

section Steps

variable {q next : RouteQueue} {a : RouteAction} {src : String}

theorem RouteQueue.not_awaits_of_none (h : q.job = none) : ¬ q.Awaits src := by
  rintro ⟨step, rest, hjob, _⟩
  rw [h] at hjob
  cases hjob

theorem RouteQueue.not_awaits_runStep (step : RouterStep) (rest : List RouterStep) :
    ¬ (q.runStep step rest).Awaits src := by
  rintro ⟨other, others, hjob, _⟩
  unfold runStep at hjob
  split at hjob <;> cases hjob

@[simp] theorem RouteQueue.runStep_loader (q : RouteQueue) (step : RouterStep)
    (rest : List RouterStep) : (q.runStep step rest).loader = q.loader := by
  unfold runStep
  split <;> rfl

@[simp] theorem RouteQueue.runStep_requested (q : RouteQueue) (step : RouterStep)
    (rest : List RouterStep) : (q.runStep step rest).requested = q.requested := by
  unfold runStep
  split <;> rfl

theorem RouteQueue.Sound.runStep (h : q.Sound) (hjob : q.job.isSome = true) (step : RouterStep)
    (rest : List RouterStep) : (q.runStep step rest).Sound := by
  refine ⟨?_, fun src hawaits => absurd hawaits (not_awaits_runStep step rest), ?_⟩
  · rw [RouteQueue.runStep_loader]
    exact h.loader
  · unfold RouteQueue.runStep
    split
    next => exact h.layer.trans hjob
    next => rfl

theorem RouteQueue.Sound.endJob (h : q.Sound) : q.endJob.Sound :=
  ⟨h.loader, fun _ hawaits => absurd hawaits (not_awaits_of_none rfl), rfl⟩

/-- The render has begun, and the loader has been asked. -/
theorem advance_cases (h : q.advance = some next) :
    ∃ step rest awaiting, q.job = some ⟨step :: rest, awaiting⟩ ∧
      (next = q.runStep step rest ∧
          (∀ src ∈ step.script, awaiting = true ∧ q.loader.promiseOf src = some .resolved) ∨
        ∃ src, step.script = some src ∧ awaiting = false ∧
          next = { q with
            loader := q.loader.ensureScript src
            job := some ⟨step :: rest, true⟩ }) := by
  unfold RouteQueue.advance at h
  split at h
  next step rest awaiting hjob =>
    refine ⟨step, rest, awaiting, hjob, ?_⟩
    split at h
    next hscript => exact .inl ⟨(Option.some.inj h).symm, by simp [hscript]⟩
    next src hscript =>
      split at h
      next hawaiting => exact .inr ⟨src, hscript, hawaiting, (Option.some.inj h).symm⟩
      next hawaiting =>
        split at h
        next hresolved =>
          refine .inl ⟨(Option.some.inj h).symm, fun other hother => ?_⟩
          obtain rfl := Option.some.inj (hscript.symm.trans hother)
          exact ⟨by simpa using hawaiting, hresolved⟩
        next => cases h
  next => cases h

theorem startJob_cases (h : q.startJob = some next) :
    ∃ plan, routePlan 2 q.page = some plan ∧
      ((∃ steps, plan.2 = .ok steps ∧ next = { q with
          page := plan.1
          queued := q.queued - 1
          job := some ⟨steps, false⟩
          loadingLayer := true }) ∨
        (∃ error, plan.2 = .error error) ∧
          next = { q with page := plan.1, queued := q.queued - 1 }.endJob) := by
  obtain ⟨plan, hplan, rfl⟩ := Option.map_eq_some_iff.mp h
  refine ⟨plan, hplan, ?_⟩
  obtain ⟨page, error | steps⟩ := plan
  · exact .inr ⟨⟨error, rfl⟩, rfl⟩
  · exact .inl ⟨steps, rfl, rfl⟩

/-- The steps with their guards. -/
theorem routeStep_start (h : routeStep q .start = some next) :
    q.job = none ∧ 0 < q.queued ∧ q.startJob = some next := by
  unfold routeStep at h
  dsimp only at h
  split at h
  next hready => exact ⟨Option.isNone_iff_eq_none.mp hready.1, hready.2, h⟩
  next => cases h

theorem routeStep_finish (h : routeStep q .finish = some next) :
    (∃ awaiting, q.job = some ⟨[], awaiting⟩) ∧ next = q.endJob := by
  unfold routeStep at h
  dsimp only at h
  split at h
  next awaiting hjob => exact ⟨⟨awaiting, hjob⟩, (Option.some.inj h).symm⟩
  next => cases h

theorem routeStep_throws (h : routeStep q .throws = some next) :
    ∃ step rest awaiting page, q.job = some ⟨step :: rest, awaiting⟩ ∧
      (∀ src ∈ step.script, awaiting = true ∧ q.loader.promiseOf src = some .resolved) ∧
      next = { q with page := page }.endJob := by
  unfold routeStep at h
  dsimp only at h
  split at h
  next step rest awaiting hjob =>
    split at h
    next hready =>
      split at h
      next page _ =>
        exact ⟨step, rest, awaiting, page, hjob, hready.2, (Option.some.inj h).symm⟩
      next => cases h
    next => cases h
  next => cases h

theorem routeStep_load (h : routeStep q (.load src) = some next) :
    q.loader.element src = some .loading ∧
      next = { q with page := q.page.ensureScript src, loader := q.loader.loaded src } := by
  unfold routeStep at h
  dsimp only at h
  split at h
  next hloading => exact ⟨hloading, (Option.some.inj h).symm⟩
  next => cases h

theorem routeStep_error (h : routeStep q (.error src) = some next) :
    q.loader.element src = some .loading ∧
      next = RouteQueue.reject src { q with loader := q.loader.failed src } := by
  unfold routeStep at h
  dsimp only at h
  split at h
  next hloading => exact ⟨hloading, (Option.some.inj h).symm⟩
  next => cases h

/-- A rejection ends the render that waits for the script, and no other. -/
theorem RouteQueue.reject_cases (q : RouteQueue) (src : String) :
    q.Awaits src ∧ q.reject src = q.endJob ∨ ¬ q.Awaits src ∧ q.reject src = q := by
  unfold reject
  split
  next step rest hjob =>
    split
    next hscript => exact .inl ⟨⟨step, rest, hjob, hscript⟩, rfl⟩
    next hscript =>
      refine .inr ⟨?_, rfl⟩
      rintro ⟨other, others, hother, hawaits⟩
      cases hjob.symm.trans hother
      exact hscript hawaits
  next hnone =>
    refine .inr ⟨?_, rfl⟩
    rintro ⟨step, rest, hjob, _⟩
    exact hnone step rest hjob

theorem RouteQueue.Sound.step (h : q.Sound) (hstep : routeStep q a = some next) : next.Sound := by
  cases a with
  | navigate url =>
      cases hstep
      exact ⟨h.loader, h.awaited, h.layer⟩
  | start =>
      obtain ⟨_, _, hstart⟩ := routeStep_start hstep
      obtain ⟨plan, _, ⟨steps, _, rfl⟩ | ⟨_, rfl⟩⟩ := startJob_cases hstart
      · refine ⟨h.loader, ?_, rfl⟩
        rintro src ⟨step, rest, hjob, _⟩
        cases hjob
      · exact RouteQueue.Sound.endJob ⟨h.loader, h.awaited, h.layer⟩
  | advance =>
      obtain ⟨step, rest, awaiting, hjob, ⟨rfl, _⟩ | ⟨src, hscript, _, rfl⟩⟩ :=
        advance_cases hstep
      · exact h.runStep (by rw [hjob]; rfl) step rest
      · refine ⟨h.loader.ensureScript src, ?_, h.layer.trans (by rw [hjob]; rfl)⟩
        rintro other ⟨step', rest', hsame, hother⟩
        cases hsame
        obtain rfl := Option.some.inj (hscript.symm.trans hother)
        exact ScriptLoader.promiseOf_ensureScript
  | finish =>
      obtain ⟨_, rfl⟩ := routeStep_finish hstep
      exact h.endJob
  | throws =>
      obtain ⟨step, rest, awaiting, page, _, _, rfl⟩ := routeStep_throws hstep
      exact RouteQueue.Sound.endJob ⟨h.loader, h.awaited, h.layer⟩
  | ensure src =>
      cases hstep
      exact ⟨h.loader.ensureScript src, fun other hawaits =>
        ScriptLoader.promiseOf_ensureScript_ne_none (h.awaited other hawaits), h.layer⟩
  | load src =>
      obtain ⟨_, rfl⟩ := routeStep_load hstep
      exact ⟨h.loader.loaded src, fun other hawaits =>
        ScriptLoader.promiseOf_loaded_ne_none (h.awaited other hawaits), h.layer⟩
  | error src =>
      obtain ⟨_, rfl⟩ := routeStep_error hstep
      let failed : RouteQueue := { q with loader := q.loader.failed src }
      rcases failed.reject_cases src with ⟨_, hend⟩ | ⟨hother, hsame⟩
      · rw [hend]
        refine ⟨h.loader.failed src, fun _ hawaits => ?_, rfl⟩
        exact absurd hawaits (RouteQueue.not_awaits_of_none rfl)
      · rw [hsame]
        refine ⟨h.loader.failed src, fun other hawaits => ?_, h.layer⟩
        have hne : other ≠ src := by
          rintro rfl
          exact hother hawaits
        rw [ScriptLoader.promiseOf_failed hne]
        exact h.awaited other hawaits

theorem RouteQueue.boot_sound (url : Url) : (RouteQueue.boot url).Sound :=
  ⟨ScriptLoader.sound_empty, fun _ hawaits => absurd hawaits (not_awaits_of_none rfl), rfl⟩

theorem RouteQueue.run_sound {url : Url} {actions : List RouteAction}
    (hrun : routeMachine.run (.boot url) actions = some q) : q.Sound :=
  Machine.run_invariant (fun _ _ _ h hstep => h.step hstep) (boot_sound url) hrun

/-! ## The chain at rest -/

/-- Loads succeed, and pages do not throw. -/
def RouteAction.Succeeds : RouteAction → Prop
  | .throws | .error _ => False
  | .navigate _ | .start | .advance | .finish | .ensure _ | .load _ => True

instance : DecidablePred RouteAction.Succeeds
  | .throws | .error _ => .isFalse id
  | .navigate _ | .start | .advance | .finish | .ensure _ | .load _ => .isTrue trivial

theorem RouteQueue.OnItsWay.runStep (h : q.OnItsWay) {step : RouterStep} {rest : List RouterStep}
    {awaiting : Bool} (hjob : q.job = some ⟨step :: rest, awaiting⟩) :
    (q.runStep step rest).OnItsWay := by
  unfold RouteQueue.runStep
  cases hstep : runRouterStep q.page step with
  | ok page =>
      refine ⟨(congrArg pageShown (runRouterStep_location hstep)).trans h.location, fun hlast => ?_⟩
      have hshows := h.shows hlast
      simp only [RouteQueue.Shows, hjob] at hshows
      obtain ⟨next, hnext, hrest⟩ := hshows.uncons
      cases hstep.symm.trans hnext
      exact hrest
  | error error =>
      refine ⟨h.location, fun hlast => ?_⟩
      have hshows := h.shows hlast
      simp only [RouteQueue.Shows, hjob] at hshows
      obtain ⟨next, hnext, _⟩ := hshows.uncons
      cases hstep.symm.trans hnext

theorem RouteQueue.OnItsWay.startJob (h : q.OnItsWay) (hstart : q.startJob = some next) :
    next.OnItsWay := by
  obtain ⟨plan, hplan, hcases⟩ := startJob_cases hstart
  obtain ⟨plan', hplan', hlocation, hshown⟩ := routePlan_shows q.page
  obtain rfl := Option.some.inj (hplan'.symm.trans hplan)
  rcases hcases with ⟨steps, hsteps, rfl⟩ | ⟨⟨error, herror⟩, rfl⟩
  · rw [hsteps] at hshown
    exact ⟨hlocation.trans h.location, fun _ => h.location ▸ hshown.2⟩
  · rw [herror] at hshown
    exact ⟨hlocation.trans h.location, fun _ => hshown.trans h.location⟩

theorem RouteQueue.OnItsWay.step (h : q.OnItsWay) (ha : a.Succeeds)
    (hstep : routeStep q a = some next) : next.OnItsWay := by
  cases a with
  | navigate url =>
      cases hstep
      exact ⟨rfl, fun hlast => absurd hlast (Nat.succ_ne_zero _)⟩
  | start =>
      obtain ⟨_, _, hstart⟩ := routeStep_start hstep
      exact h.startJob hstart
  | advance =>
      obtain ⟨step, rest, awaiting, hjob, ⟨rfl, _⟩ | ⟨src, _, _, rfl⟩⟩ := advance_cases hstep
      · exact h.runStep hjob
      · refine ⟨h.location, fun hlast => ?_⟩
        have hshows := h.shows hlast
        simpa only [RouteQueue.Shows, hjob] using hshows
  | finish =>
      obtain ⟨⟨awaiting, hjob⟩, rfl⟩ := routeStep_finish hstep
      refine ⟨h.location, fun hlast => ?_⟩
      have hshows := h.shows hlast
      simp only [RouteQueue.Shows, hjob] at hshows
      exact hshows.mainBody
  | throws => exact ha.elim
  | error src => exact ha.elim
  | ensure src =>
      cases hstep
      exact ⟨h.location, h.shows⟩
  | load src =>
      obtain ⟨_, rfl⟩ := routeStep_load hstep
      refine ⟨(congrArg pageShown (ensureScript_location src)).trans h.location, fun hlast => ?_⟩
      have hshows := h.shows hlast
      unfold RouteQueue.Shows at hshows ⊢
      dsimp only
      split
      next hjob =>
        rw [hjob] at hshows
        exact (ensureScript_mainBody src).trans hshows
      next job hjob =>
        rw [hjob] at hshows
        exact hshows.ahead (q.page.ahead_ensureScript src)

theorem RouteQueue.boot_onItsWay (url : Url) : (RouteQueue.boot url).OnItsWay :=
  ⟨rfl, fun hlast => by cases hlast⟩

/-- Nothing is under way and nothing is queued. -/
def RouteQueue.AtRest (q : RouteQueue) : Prop := q.job = none ∧ q.queued = 0

instance : DecidablePred RouteQueue.AtRest := fun q =>
  inferInstanceAs (Decidable (q.job = none ∧ q.queued = 0))

theorem RouteQueue.run_onItsWay {url : Url} {actions : List RouteAction}
    (hsucceeds : ∀ a ∈ actions, a.Succeeds)
    (hrun : routeMachine.run (.boot url) actions = some q) : q.OnItsWay :=
  Machine.run_invariant_along (fun _ _ _ h ha hstep => h.step ha hstep) (boot_onItsWay url)
    (Machine.along_of_forall hsucceeds) hrun

theorem RouteQueue.OnItsWay.atRest (h : q.OnItsWay) (hrest : q.AtRest) :
    q.page.mainBody = pageShown q.requested := by
  have hshows := h.shows hrest.2
  simpa only [RouteQueue.Shows, hrest.1] using hshows

/-- However navigations, renders and loads of scripts interleave: at rest the page of the
URL that was navigated to last is shown, without the layer. -/
theorem rest_shows_requested {url : Url} {actions : List RouteAction}
    (hsucceeds : ∀ a ∈ actions, a.Succeeds)
    (hrun : routeMachine.run (.boot url) actions = some q) (hrest : q.AtRest) :
    q.page.mainBody = pageShown q.requested ∧ q.loadingLayer = false :=
  ⟨(RouteQueue.run_onItsWay hsucceeds hrun).atRest hrest,
    (RouteQueue.run_sound hrun).layer.trans (by rw [hrest.1]; rfl)⟩

/-- The home page is under way when the list of concerts is navigated to. -/
def overtakenHome : List RouteAction :=
  [.start, .advance, .advance, .navigate ⟨"/", "c_page=1"⟩, .load ScriptPath.home, .advance,
    .advance, .advance, .advance, .load ScriptPath.footer, .advance, .finish,
    .start, .advance, .advance, .load ScriptPath.concertMain, .advance, .advance, .advance,
    .advance, .advance, .finish]

theorem rest_shows_requested_overtaken :
    ∃ q, routeMachine.run (.boot rootUrl) overtakenHome = some q ∧
      q.page.mainBody = pageShown q.requested ∧ q.loadingLayer = false := by
  have hend : (routeMachine.run (.boot rootUrl) overtakenHome).any
      (fun q => decide q.AtRest) = true := by decide +kernel
  obtain ⟨q, hrun, hrest⟩ := Option.any_eq_true _ _ |>.mp hend
  exact ⟨q, hrun, rest_shows_requested (by decide) hrun (of_decide_eq_true hrest)⟩

end Steps

end Ticketing
