import Mathlib.Logic.Relation

/-! Runs that keep the states they go through. What holds of a whole run, and not only of its
last state, is said of its trace. -/
namespace Perun
variable {σ : Type} {step : σ → σ → Prop} {first last : σ} {states : List σ}

/-- The states of a run from `first`, in order. The last of them is where the run is. -/
inductive Trace (step : σ → σ → Prop) (first : σ) : List σ → σ → Prop
  | start : Trace step first [first] first
  | goes (states : List σ) (before after : σ) (earlier : Trace step first states before)
      (stepped : step before after) : Trace step first (states ++ [after]) after

namespace Trace

/-- Without its states a trace is a run. -/
theorem reaches (trace : Trace step first states last) : Relation.ReflTransGen step first last := by
  induction trace with
  | start => exact Relation.ReflTransGen.refl
  | goes states before after earlier stepped ih => exact ih.tail stepped

theorem of_reaches (reaches : Relation.ReflTransGen step first last) :
    ∃ states, Trace step first states last := by
  induction reaches with
  | refl => exact ⟨[first], .start⟩
  | tail _ stepped ih =>
      obtain ⟨states, earlier⟩ := ih
      exact ⟨_, .goes states _ _ earlier stepped⟩

end Trace
end Perun
