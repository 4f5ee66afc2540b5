import Mathlib.Data.List.Basic

/-!
# Unwinding

A machine serves several parties and yields outputs to one of them.  When a
relation to a second machine is kept both by operations of others, which the
second machine does not see, and by all others, which it performs too, then
deleting the operations of others from a run changes no output.
-/

namespace Unwinding

variable {σ τ ι κ ω : Type}

/-- A deterministic machine with outputs. -/
structure Machine (σ ι ω : Type) where
  step : σ → ι → σ
  output : σ → ι → List ω

namespace Machine

variable (machine : Machine σ ι ω)

/-- The state after a run. -/
def run (state : σ) (operations : List ι) : σ :=
  operations.foldl machine.step state

/-- The outputs of a run. -/
def outputs (state : σ) : List ι → List ω
  | [] => []
  | operation :: later =>
      machine.output state operation ++
        outputs (machine.step state operation) later

end Machine

/-- Hidden operations keep the relation, and visible ones do on both sides. -/
structure Unwinds
    (whole : Machine σ ι ω)
    (part : Machine τ κ ω)
    (shown : ι → Option κ)
    (Related : σ → τ → Prop) : Prop where
  hidden :
    ∀ state view operation, Related state view → shown operation = none →
      Related (whole.step state operation) view ∧
        whole.output state operation = []
  visible :
    ∀ state view operation own, Related state view →
      shown operation = some own →
        Related (whole.step state operation) (part.step view own) ∧
          whole.output state operation = part.output view own

namespace Unwinds

variable {whole : Machine σ ι ω}
variable {part : Machine τ κ ω}
variable {shown : ι → Option κ}
variable {Related : σ → τ → Prop}
variable {state : σ}
variable {view : τ}

/-- The relation holds after every run, without the hidden operations. -/
theorem related_run
    (unwinds : Unwinds whole part shown Related)
    (related : Related state view)
    (operations : List ι) :
    Related (whole.run state operations)
      (part.run view (operations.filterMap shown)) := by
  induction operations generalizing state view with
  | nil =>
      exact related
  | cons operation later inductionHypothesis =>
      cases isShown : shown operation with
      | none =>
          rw [List.filterMap_cons_none isShown]
          exact inductionHypothesis
            (unwinds.hidden state view operation related isShown).1
      | some own =>
          rw [List.filterMap_cons_some isShown]
          exact inductionHypothesis
            (unwinds.visible state view operation own related isShown).1

/-- The outputs of a run are those without the hidden operations. -/
theorem outputs_eq
    (unwinds : Unwinds whole part shown Related)
    (related : Related state view)
    (operations : List ι) :
    whole.outputs state operations =
      part.outputs view (operations.filterMap shown) := by
  induction operations generalizing state view with
  | nil =>
      rfl
  | cons operation later inductionHypothesis =>
      cases isShown : shown operation with
      | none =>
          obtain ⟨stillRelated, silent⟩ :=
            unwinds.hidden state view operation related isShown
          rw [List.filterMap_cons_none isShown, Machine.outputs, silent,
            List.nil_append]
          exact inductionHypothesis stillRelated
      | some own =>
          obtain ⟨stillRelated, sameOutput⟩ :=
            unwinds.visible state view operation own related isShown
          rw [List.filterMap_cons_some isShown, Machine.outputs,
            Machine.outputs, sameOutput, inductionHypothesis stillRelated]

end Unwinds

end Unwinding
