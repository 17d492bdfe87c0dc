import Mathlib.Logic.Function.Basic
import Mathlib.Tactic.Common

/-!
# Loading scripts once

`ensureScript` of `app-config.js`: one promise for each source, kept until the load of its
element fails, and one element for each source, which nobody removes. An element fires
`load` or `error`, once.
-/

namespace Ticketing

/-- What has become of the `<script>` element of a source. -/
inductive ScriptElement where
  | loading
  /-- `dataset.loaded` -/
  | loaded
  | failed
deriving DecidableEq, Repr

/-- A promise of `scriptPromiseMap`. One that is rejected is deleted with that. -/
inductive ScriptPromise where
  | pending
  | resolved
deriving DecidableEq, Repr

structure ScriptLoader where
  element : String → Option ScriptElement
  promise : String → Option ScriptPromise

namespace ScriptLoader

/-- No script has been asked for. -/
def empty : ScriptLoader := ⟨fun _ => none, fun _ => none⟩

/-- What the promise of a new call is. Listeners on an element that has failed are never
called. -/
def newPromise : Option ScriptElement → ScriptPromise
  | some .loaded => .resolved
  | some .loading | some .failed | none => .pending

def ensureScript (src : String) (l : ScriptLoader) : ScriptLoader :=
  if src = "" then l
  else
    match l.promise src with
    | some _ => l
    | none =>
        { element := Function.update l.element src (some ((l.element src).getD .loading))
          promise := Function.update l.promise src (some (newPromise (l.element src))) }

/-- The promise that a call has got; without a source it is kept at once. -/
def promiseOf (src : String) (l : ScriptLoader) : Option ScriptPromise :=
  if src = "" then some .resolved else l.promise src

/-- The element fires `load`. -/
def loaded (src : String) (l : ScriptLoader) : ScriptLoader where
  element := Function.update l.element src (some .loaded)
  promise := Function.update l.promise src ((l.promise src).map fun _ => .resolved)

/-- The element fires `error`, and the promise is deleted. -/
def failed (src : String) (l : ScriptLoader) : ScriptLoader where
  element := Function.update l.element src (some .failed)
  promise := Function.update l.promise src none

end ScriptLoader

/-- Every promise waits for an element, or has been kept. -/
structure ScriptLoader.Sound (l : ScriptLoader) : Prop where
  pending : ∀ src, l.promise src = some .pending →
    l.element src = some .loading ∨ l.element src = some .failed
  resolved : ∀ src, l.promise src = some .resolved → l.element src = some .loaded
  loading : ∀ src, l.element src = some .loading → l.promise src = some .pending

namespace ScriptLoader

variable {l : ScriptLoader} {src other : String}

theorem sound_empty : empty.Sound := by
  constructor <;> simp [empty]

/-- A call has got a promise. -/
theorem promiseOf_ensureScript : (l.ensureScript src).promiseOf src ≠ none := by
  unfold promiseOf ensureScript
  split
  · simp
  · cases hpromise : l.promise src with
    | some promise => simp [hpromise]
    | none => simp

theorem promise_ensureScript_of_some {promise : ScriptPromise}
    (h : l.promise other = some promise) : (l.ensureScript src).promise other = some promise := by
  unfold ensureScript
  split
  · exact h
  · split
    · exact h
    next hnone =>
      have hother : other ≠ src := by
        rintro rfl
        cases h.symm.trans hnone
      simpa [Function.update_of_ne hother] using h

/-- Promises are kept by calls, and by loads. -/
theorem promiseOf_ensureScript_ne_none (h : l.promiseOf other ≠ none) :
    (l.ensureScript src).promiseOf other ≠ none := by
  unfold promiseOf at h ⊢
  split
  · simp
  next hother =>
    rw [if_neg hother] at h
    obtain ⟨promise, hpromise⟩ := Option.ne_none_iff_exists'.mp h
    rw [promise_ensureScript_of_some hpromise]
    simp

theorem promiseOf_loaded_ne_none (h : l.promiseOf other ≠ none) :
    (l.loaded src).promiseOf other ≠ none := by
  unfold promiseOf loaded at *
  split
  · simp
  next hother =>
    rw [if_neg hother] at h
    by_cases hsame : other = src
    · subst hsame
      simpa using h
    · simpa [Function.update_of_ne hsame] using h

/-- A load keeps the promise. -/
theorem promiseOf_loaded {promise : ScriptPromise} (h : l.promiseOf src = some promise) :
    (l.loaded src).promiseOf src = some .resolved := by
  unfold promiseOf loaded at *
  split
  · rfl
  next hsrc =>
    rw [if_neg hsrc] at h
    simp [h]

theorem promiseOf_failed (hother : other ≠ src) :
    (l.failed src).promiseOf other = l.promiseOf other := by
  simp [promiseOf, failed, Function.update_of_ne hother]

theorem ensureScript_element_of_some {element : ScriptElement}
    (h : l.element other = some element) : (l.ensureScript src).element other = some element := by
  unfold ensureScript
  split
  · exact h
  · split
    · exact h
    · by_cases hsame : other = src
      · subst hsame
        simp [h]
      · simpa [Function.update_of_ne hsame] using h

theorem ensureScript_not_failed (h : l.element other ≠ some .failed) :
    (l.ensureScript src).element other ≠ some .failed := by
  unfold ensureScript
  split
  · exact h
  · split
    · exact h
    · by_cases hsame : other = src
      · subst hsame
        cases helement : l.element other with
        | none => simp
        | some element => simpa [helement] using h
      · simpa [Function.update_of_ne hsame] using h

theorem loaded_not_failed (h : l.element other ≠ some .failed) :
    (l.loaded src).element other ≠ some .failed := by
  by_cases hsame : other = src
  · subst hsame
    simp [loaded]
  · simpa [loaded, Function.update_of_ne hsame] using h

theorem Sound.ensureScript (h : l.Sound) (src : String) : (l.ensureScript src).Sound := by
  by_cases hsrc : src = ""
  · rwa [ScriptLoader.ensureScript, if_pos hsrc]
  cases hpromise : l.promise src with
  | some promise =>
      have hsame : l.ensureScript src = l := by
        rw [ScriptLoader.ensureScript, if_neg hsrc, hpromise]
      rwa [hsame]
  | none =>
      have hnew : l.ensureScript src =
          ⟨Function.update l.element src (some ((l.element src).getD .loading)),
            Function.update l.promise src (some (newPromise (l.element src)))⟩ := by
        rw [ScriptLoader.ensureScript, if_neg hsrc, hpromise]
      rw [hnew]
      refine ⟨fun other => ?_, fun other => ?_, fun other => ?_⟩
      all_goals
        by_cases hsame : other = src
        · subst hsame
          have hnot : l.element other ≠ some .loading := fun hloading => by
            simp [h.loading other hloading] at hpromise
          cases helement : l.element other with
          | none => simp [newPromise]
          | some element => cases element <;> simp_all [newPromise]
        · simp only [Function.update_of_ne hsame]
          first | exact h.pending other | exact h.resolved other | exact h.loading other

theorem Sound.loaded (h : l.Sound) (src : String) : (l.loaded src).Sound := by
  refine ⟨fun other => ?_, fun other => ?_, fun other => ?_⟩
  all_goals
    by_cases hsame : other = src
    · subst hsame
      simp [ScriptLoader.loaded]
    · simp only [ScriptLoader.loaded, Function.update_of_ne hsame]
      first | exact h.pending other | exact h.resolved other | exact h.loading other

theorem Sound.failed (h : l.Sound) (src : String) : (l.failed src).Sound := by
  refine ⟨fun other => ?_, fun other => ?_, fun other => ?_⟩
  all_goals
    by_cases hsame : other = src
    · subst hsame
      simp [ScriptLoader.failed]
    · simp only [ScriptLoader.failed, Function.update_of_ne hsame]
      first | exact h.pending other | exact h.resolved other | exact h.loading other

end ScriptLoader

end Ticketing
