import Mathlib.Data.List.Basic

/-!
# Traces of a step relation

A trace leads from one state to another by steps that each consume one item.
Traces compose, and cutting the items anywhere cuts the trace.
-/

namespace StepTrace

variable {σ α : Type}
variable {step : σ → α → σ → Prop}

/-- The items of a list, consumed one after the other. -/
inductive Trace (step : σ → α → σ → Prop) : σ → List α → σ → Prop where
  | nil (state : σ) :
      Trace step state [] state
  | cons
      {before between after : σ}
      {item : α}
      {later : List α}
      (first : step before item between)
      (rest : Trace step between later after) :
      Trace step before (item :: later) after

namespace Trace

variable {before between after : σ}
variable {first second items : List α}

/-- One step is a trace. -/
theorem single
    {item : α}
    (once : step before item after) :
    Trace step before [item] after :=
  .cons once (.nil after)

/-- Traces compose. -/
theorem append
    (trace : Trace step before first between)
    (continued : Trace step between second after) :
    Trace step before (first ++ second) after := by
  induction trace with
  | nil state =>
      exact continued
  | cons once rest inductionHypothesis =>
      exact .cons once (inductionHypothesis continued)

/-- Cutting the items cuts the trace. -/
theorem exists_of_append
    (trace : Trace step before (first ++ second) after) :
    ∃ between,
      Trace step before first between ∧
        Trace step between second after := by
  induction first generalizing before with
  | nil =>
      exact ⟨before, .nil before, trace⟩
  | cons item later inductionHypothesis =>
      cases trace with
      | cons once rest =>
          obtain ⟨between, front, back⟩ := inductionHypothesis rest
          exact ⟨between, .cons once front, back⟩

/-- A prefix of the items has a trace of its own. -/
theorem exists_of_prefix
    (trace : Trace step before items after)
    (isPrefix : first <+: items) :
    ∃ between, Trace step before first between := by
  obtain ⟨second, rfl⟩ := isPrefix
  obtain ⟨between, front, _⟩ := trace.exists_of_append
  exact ⟨between, front⟩

/-- What every step shows about its item holds of all items. -/
theorem forall_mem
    {property : α → Prop}
    (each :
      ∀ {before item after}, step before item after → property item)
    (trace : Trace step before items after) :
    ∀ item ∈ items, property item := by
  induction trace with
  | nil state =>
      simp
  | cons once rest inductionHypothesis =>
      intro item member
      rcases List.mem_cons.mp member with isFirst | inRest
      · rw [isFirst]
        exact each once
      · exact inductionHypothesis item inRest

/-- Items that can be consumed in any state without moving it have a trace. -/
theorem of_forall_stays
    (stays : ∀ item ∈ items, step before item before) :
    Trace step before items before := by
  induction items with
  | nil =>
      exact .nil before
  | cons item later inductionHypothesis =>
      exact .cons (stays item (by simp))
        (inductionHypothesis fun other member =>
          stays other (by simp [member]))

end Trace

end StepTrace
