import Ticketing.Browser.Render
import Ticketing.Browser.ScriptLoader
import Ticketing.Foundation.Machine

/-!
# The queue of renders

`queueRender` and `navigate`: each navigation rewrites the URL at once and appends a render
to a chain of promises. A render reads the URL when its turn comes and then waits for one
script after the other, while more navigations and other users of the loader come.
-/

namespace Ticketing

open Foundation JavaScript Python

/-! ## Up to the first wait -/

/-- What a render does before it waits: the page as it then is, and its steps or the error
that it throws. -/
def RoutePlan : Type := RouterPage × Except RouteError (List RouterStep)

/-- `renderViewRoute`, where `again` is `renderRoute`. -/
def planViewRoute (again : RouterPage → Option RoutePlan) (view : String) (route : Route)
    (page : RouterPage) : Option RoutePlan :=
  match lookupView view with
  | .undefined => again (page.replaceState rootUrl)
  | .inherited => some ({ page with mainBody := none }, .error .typeError)
  | .own config => some (page, .ok (viewSteps config route))

/-- `renderRoute`, with fuel for the calls of itself. -/
def routePlan : Nat → RouterPage → Option RoutePlan
  | 0, _ => none
  | fuel + 1, page =>
      let page := normalizeLegacyUrlIfNeeded page
      let route := getRouteFromUrl page.location
      let page := page.clearTransientUi
      if !isRootPath route.pathname && route.pathname ≠ "/" then
        routePlan fuel (page.replaceState rootUrl)
      else if route.view ≠ "" then planViewRoute (routePlan fuel) route.view route page
      else some (page, .ok (routeSteps route))

/-- The rest of the render, if nothing else happens. -/
def RoutePlan.run (plan : RoutePlan) : RouteOutcome :=
  match plan.2 with
  | .ok steps => runRouterSteps plan.1 steps
  | .error error => ⟨plan.1, some error⟩

theorem renderViewRoute_eq_map {again : RouterPage → Option RouteOutcome}
    {plan : RouterPage → Option RoutePlan}
    (hagain : ∀ page, again page = (plan page).map RoutePlan.run) (view : String) (route : Route)
    (page : RouterPage) :
    renderViewRoute again view route page =
      (planViewRoute plan view route page).map RoutePlan.run := by
  unfold renderViewRoute planViewRoute
  cases lookupView view with
  | undefined => exact hagain _
  | inherited => rfl
  | own config => rfl

theorem renderRoute_eq_map (fuel : Nat) (page : RouterPage) :
    renderRoute fuel page = (routePlan fuel page).map RoutePlan.run := by
  induction fuel generalizing page with
  | zero => rfl
  | succ fuel ih =>
      rw [renderRoute, routePlan]
      split
      · exact ih _
      · split
        · exact renderViewRoute_eq_map ih _ _ _
        · rfl

/-! ## The queue -/

/-- A render that has begun: the steps that are left, and whether the first of them waits
for its script. -/
structure RouteJob where
  rest : List RouterStep
  awaiting : Bool
deriving DecidableEq

/-- The script that a step waits for. -/
def RouterStep.script : RouterStep → Option String
  | .ensureScript path => some path
  | .ensureFooter => some ScriptPath.footer
  | .resetPrimarySections | .prefetchScripts _ | .runPageAction _ _ => none

/-- Whether a step runs code of a page, which may throw. -/
def RouterStep.callsPage : RouterStep → Bool
  | .runPageAction _ _ | .ensureFooter => true
  | .resetPrimarySections | .prefetchScripts _ | .ensureScript _ => false

structure RouteQueue where
  page : RouterPage
  loader : ScriptLoader
  job : Option RouteJob
  /-- the renders that are behind the job in the chain -/
  queued : Nat
  /-- the layer that covers the page while a render is under way -/
  loadingLayer : Bool
  /-- the URL that was navigated to last -/
  requested : Url

inductive RouteAction where
  /-- `navigate`, or a `popstate` event -/
  | navigate (url : Url)
  /-- the next render begins -/
  | start
  /-- the render goes on -/
  | advance
  | finish
  /-- a page action or the footer throws -/
  | throws
  /-- other code calls `ensureScript` -/
  | ensure (src : String)
  | load (src : String)
  | error (src : String)
deriving DecidableEq

namespace RouteQueue

/-- The render is over, and the chain goes on. -/
def endJob (q : RouteQueue) : RouteQueue := { q with job := none, loadingLayer := false }

/-- The rejection reaches the render that waits for the script. -/
def reject (src : String) (q : RouteQueue) : RouteQueue :=
  match q.job with
  | some ⟨step :: _, true⟩ => if step.script = some src then q.endJob else q
  | _ => q

/-- The first step is executed; a step that throws ends the render. -/
def runStep (q : RouteQueue) (step : RouterStep) (rest : List RouterStep) : RouteQueue :=
  match runRouterStep q.page step with
  | .ok page => { q with page := page, job := some ⟨rest, false⟩ }
  | .error _ => q.endJob

def startJob (q : RouteQueue) : Option RouteQueue :=
  -- two rounds are enough: the second one is at the root
  (routePlan 2 q.page).map fun plan =>
    let q := { q with page := plan.1, queued := q.queued - 1 }
    match plan.2 with
    | .ok steps => { q with job := some ⟨steps, false⟩, loadingLayer := true }
    | .error _ => q.endJob

def advance (q : RouteQueue) : Option RouteQueue :=
  match q.job with
  | some ⟨step :: rest, awaiting⟩ =>
      match step.script with
      | none => some (q.runStep step rest)
      | some src =>
          if awaiting = false then
            some { q with
              loader := q.loader.ensureScript src
              job := some ⟨step :: rest, true⟩ }
          else if q.loader.promiseOf src = some .resolved then some (q.runStep step rest)
          else none
  | _ => none

end RouteQueue

def routeStep (q : RouteQueue) : RouteAction → Option RouteQueue
  | .navigate url =>
      some { q with
        page := q.page.replaceState url
        requested := url
        queued := q.queued + 1 }
  | .start => if q.job.isNone ∧ 0 < q.queued then q.startJob else none
  | .advance => q.advance
  | .finish =>
      match q.job with
      | some ⟨[], _⟩ => some q.endJob
      | _ => none
  | .throws =>
      match q.job with
      | some ⟨step :: _, awaiting⟩ =>
          if step.callsPage = true ∧
              (∀ src ∈ step.script, awaiting = true ∧
                q.loader.promiseOf src = some .resolved) then
            match runRouterStep q.page step with
            | .ok page => some { q with page := page }.endJob
            | .error _ => none
          else none
      | _ => none
  | .ensure src => some { q with loader := q.loader.ensureScript src }
  | .load src =>
      if q.loader.element src = some .loading then
        some { q with page := q.page.ensureScript src, loader := q.loader.loaded src }
      else none
  | .error src =>
      if q.loader.element src = some .loading then
        some (RouteQueue.reject src { q with loader := q.loader.failed src })
      else none

def routeMachine : Machine RouteQueue RouteAction := ⟨routeStep⟩

/-- The tab as `boot` leaves it: one render is queued for its URL. -/
def RouteQueue.boot (url : Url) : RouteQueue where
  page := openedPage url []
  loader := .empty
  job := none
  queued := 1
  loadingLayer := false
  requested := url

end Ticketing
