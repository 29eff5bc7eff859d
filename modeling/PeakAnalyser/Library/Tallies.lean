import PeakAnalyser.Library.Runs

/-!
# A tally beside a run

`tallied step count` is the system `step` with a value beside its state that no step reads.
`count` says what a step makes of the value.
-/

namespace Runs

set_option autoImplicit false

universe u v w

variable {State : Type u} {Label : Type v} {Tally : Type w}

def tallied (step : State → Label → Option State) (count : State → Label → State → Tally → Tally)
    (s : State × Tally) (l : Label) : Option (State × Tally) :=
  (step s.1 l).map fun t => (t, count s.1 l t s.2)

variable {step : State → Label → Option State} {count : State → Label → State → Tally → Tally}
variable {ok : State × Tally → Label → Prop} {s t : State × Tally}

theorem tallied_eq_some {l : Label} :
    tallied step count s l = some t ↔ step s.1 l = some t.1 ∧ t.2 = count s.1 l t.1 s.2 := by
  constructor
  · intro h
    obtain ⟨next, hnext, rfl⟩ := Option.map_eq_some_iff.mp h
    exact ⟨hnext, rfl⟩
  · intro h
    obtain ⟨hnext, hcount⟩ := h
    exact Option.map_eq_some_iff.mpr ⟨t.1, hnext, Prod.ext rfl hcount.symm⟩

end Runs
