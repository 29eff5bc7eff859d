import PeakAnalyser.Library.Runs

/-!
# Two executions in lockstep

A relation between two systems that every pair of corresponding steps keeps is kept
by a pair of executions. The two label lists may differ in what the relation does
not speak of.
-/

namespace Lockstep

set_option autoImplicit false

open Runs

universe u v

section Options

variable {α β α' β' : Type u} {R : α → β → Prop} {S : α' → β' → Prop}

theorem rel_bind {o : Option α} {o' : Option β} {f : α → Option α'} {g : β → Option β'}
    (h : Option.Rel R o o') (hfg : ∀ a b, R a b → Option.Rel S (f a) (g b)) :
    Option.Rel S (o.bind f) (o'.bind g) := by
  cases h with
  | none => exact .none
  | some hab => exact hfg _ _ hab

theorem rel_bind_same {γ : Type u} (o : Option γ) {f : γ → Option α'} {g : γ → Option β'}
    (hfg : ∀ c, Option.Rel S (f c) (g c)) : Option.Rel S (o.bind f) (o.bind g) := by
  cases o with
  | none => exact .none
  | some c => exact hfg c

theorem rel_map {o : Option α} {o' : Option β} {f : α → α'} {g : β → β'}
    (h : Option.Rel R o o') (hfg : ∀ a b, R a b → S (f a) (g b)) :
    Option.Rel S (o.map f) (o'.map g) := by
  cases h with
  | none => exact .none
  | some hab => exact .some (hfg _ _ hab)

/-- What the related values have in common can be read off either side. -/
theorem map_eq_of_rel {γ : Type v} {o : Option α} {o' : Option β} {f : α → γ} {g : β → γ}
    (h : Option.Rel R o o') (hfg : ∀ a b, R a b → f a = g b) : o.map f = o'.map g := by
  cases h with
  | none => rfl
  | some hab => exact congrArg some (hfg _ _ hab)

end Options

section Executions

variable {State State' : Type u} {Label : Type v} {Label' : Type v}
variable {step : State → Label → Option State} {step' : State' → Label' → Option State'}
variable {R : State → State' → Prop}

/-- The executions of two label lists, paired label by label, keep what each pair of steps
keeps. -/
theorem rel_exec {pairs : List (Label × Label')}
    (keep : ∀ a b, ∀ p ∈ pairs, R a b → Option.Rel R (step a p.1) (step' b p.2)) {a : State}
    {b : State'} (h : R a b) :
    Option.Rel R (exec step always a (pairs.map Prod.fst))
      (exec step' always b (pairs.map Prod.snd)) := by
  induction pairs generalizing a b with
  | nil => exact .some h
  | cons p rest ih =>
    have hfirst : Option.Rel R (step a p.1) (step' b p.2) := keep a b p List.mem_cons_self h
    simp only [List.map_cons, exec]
    rw [if_pos (show always a p.1 from trivial), if_pos (show always b p.2 from trivial)]
    refine rel_bind hfirst fun c d hcd => ih (fun a b q hq => ?_) hcd
    exact keep a b q (List.mem_cons_of_mem p hq)

end Executions

end Lockstep
