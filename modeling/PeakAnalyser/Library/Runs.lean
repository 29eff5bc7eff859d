import Mathlib.Logic.Relation

/-!
# Runs of a computed step function

A system is a function `step : State → Label → Option State`; `none` says that
the label is not enabled. `Run step ok` is its finite reachability, restricted
to steps whose source state and label satisfy `ok`. Nothing here knows what the
states are.
-/

namespace Runs

set_option autoImplicit false

universe u v w

variable {State : Type u} {Label : Type v}

/-- Finite reachability by steps whose source state and label satisfy `ok`. -/
inductive Run (step : State → Label → Option State) (ok : State → Label → Prop) :
    State → State → Prop where
  | refl (s : State) : Run step ok s s
  | tail {s t u : State} {l : Label} :
      Run step ok s t → ok t l → step t l = some u → Run step ok s u

/-- The unrestricted step condition. -/
def always (_ : State) (_ : Label) : Prop := True

instance (s : State) (l : Label) : Decidable (always s l) := .isTrue trivial

namespace Run

variable {step : State → Label → Option State} {ok : State → Label → Prop} {s t u : State}

theorem single {l : Label} (hok : ok s l) (h : step s l = some t) : Run step ok s t :=
  .tail (.refl s) hok h

theorem trans (hst : Run step ok s t) (htu : Run step ok t u) : Run step ok s u := by
  induction htu with
  | refl => exact hst
  | tail _ hok h ih => exact .tail ih hok h

theorem head {l : Label} (hok : ok s l) (h : step s l = some t) (htu : Run step ok t u) :
    Run step ok s u :=
  (single hok h).trans htu

theorem mono {ok' : State → Label → Prop} (hle : ∀ a l, ok a l → ok' a l)
    (h : Run step ok s t) : Run step ok' s t := by
  induction h with
  | refl => exact .refl _
  | tail _ hok hs ih => exact .tail ih (hle _ _ hok) hs

/-- A predicate kept by every admitted step holds along the run. -/
theorem invariant {P : State → Prop} (keep : ∀ a l b, P a → ok a l → step a l = some b → P b)
    (h : Run step ok s t) (base : P s) : P t := by
  induction h with
  | refl => exact base
  | tail _ hok hs ih => exact keep _ _ _ ih hok hs

/-- An observation that no admitted step changes while `P` holds is constant. -/
theorem constant {P : State → Prop} {Value : Type w} (observe : State → Value)
    (keep : ∀ a l b, P a → ok a l → step a l = some b → P b ∧ observe b = observe a)
    (h : Run step ok s t) (base : P s) : observe t = observe s := by
  have both : P t ∧ observe t = observe s :=
    invariant (P := fun a => P a ∧ observe a = observe s)
      (fun a l b ⟨hP, ho⟩ hok hs =>
        ⟨(keep a l b hP hok hs).1, (keep a l b hP hok hs).2.trans ho⟩) h ⟨base, rfl⟩
  exact both.2

/-- Strengthening: a predicate already known of all reachable states may be used
in the step condition. -/
theorem strengthen {P : State → Prop} (keep : ∀ a l b, P a → ok a l → step a l = some b → P b)
    (h : Run step ok s t) (base : P s) : Run step (fun a l => P a ∧ ok a l) s t := by
  induction h with
  | refl => exact .refl _
  | tail hr hok hs ih => exact .tail ih ⟨invariant keep hr base, hok⟩ hs

end Run

section Execution

variable (step : State → Label → Option State) (ok : State → Label → Prop)
variable [∀ s l, Decidable (ok s l)]

/-- Executes a list of labels, stopping at the first that is not admitted or not enabled. -/
def exec : State → List Label → Option State
  | s, [] => some s
  | s, l :: ls => if ok s l then (step s l).bind fun t => exec t ls else none

/-- The labels can be executed and lead to a state that passes the test. -/
def reaches (s : State) (ls : List Label) (test : State → Bool) : Bool :=
  (exec step ok s ls).any test

variable {step ok}

theorem run_of_exec {s t : State} {ls : List Label} (h : exec step ok s ls = some t) :
    Run step ok s t := by
  induction ls generalizing s with
  | nil =>
    obtain rfl := Option.some.inj h
    exact .refl s
  | cons l ls ih =>
    simp only [exec] at h
    split at h
    · rename_i hok
      obtain ⟨a, ha, hrest⟩ := Option.bind_eq_some_iff.mp h
      exact Run.head hok ha (ih hrest)
    · simp at h

/-- How a concrete execution yields a run of the system. -/
theorem run_of_reaches {s : State} {ls : List Label} {test : State → Bool}
    (h : reaches step ok s ls test = true) : ∃ t, Run step ok s t ∧ test t = true := by
  obtain ⟨t, ht, htest⟩ := (Option.any_eq_true test (exec step ok s ls)).mp h
  exact ⟨t, run_of_exec ht, htest⟩

end Execution

end Runs
