import Mathlib.Data.List.Basic

/-!
# Loops that make passes

The body of a loop either leaves a state for another pass or ends the loop
with a result.  A measure that every repeated pass shortens by a stride bounds
the number of passes.
-/

namespace PassLoop

variable {σ ρ : Type}

/-- How one pass through the body of a loop ends. -/
inductive Pass (σ ρ : Type) where
  | again (state : σ)
  | done (result : ρ)
  deriving Repr, DecidableEq

/-- The result of a loop that is given a number of passes. -/
def within (pass : σ → Pass σ ρ) : Nat → σ → Option ρ
  | 0, _ => none
  | passes + 1, state =>
      match pass state with
      | .again next => within pass passes next
      | .done result => some result

variable {pass : σ → Pass σ ρ}
variable {measure : σ → Nat}
variable {stride passes : Nat}
variable {state next : σ}
variable {result : ρ}

theorem within_again
    (again : pass state = .again next) :
    within pass (passes + 1) state = within pass passes next := by
  simp only [within, again]

theorem within_done
    (done : pass state = .done result) :
    within pass (passes + 1) state = some result := by
  simp only [within, done]

/-- Every pass that is followed by another shortens the measure. -/
def Shortens
    (pass : σ → Pass σ ρ)
    (measure : σ → Nat)
    (stride : Nat) : Prop :=
  ∀ state next, pass state = .again next →
    measure next + stride ≤ measure state

/-- More passes than strides fit into the measure are enough. -/
theorem exists_within
    (shortens : Shortens pass measure stride)
    (enough : measure state < passes * stride) :
    ∃ result, within pass passes state = some result := by
  induction passes generalizing state with
  | zero =>
      omega
  | succ passes inductionHypothesis =>
      cases ends : pass state with
      | done result =>
          exact ⟨result, within_done ends⟩
      | again next =>
          have shorter := shortens state next ends
          rw [Nat.add_mul, Nat.one_mul] at enough
          rw [within_again ends]
          exact inductionHypothesis (by omega)

/-- Induction over the passes, from the one that ends the loop backwards. -/
theorem of_within
    {motive : σ → ρ → Prop}
    (atDone :
      ∀ state result, pass state = .done result → motive state result)
    (atAgain :
      ∀ state next result, pass state = .again next →
        motive next result → motive state result)
    (ended : within pass passes state = some result) :
    motive state result := by
  induction passes generalizing state with
  | zero =>
      cases ended
  | succ passes inductionHypothesis =>
      cases ends : pass state with
      | done last =>
          rw [within_done ends] at ended
          cases ended
          exact atDone state result ends
      | again next =>
          rw [within_again ends] at ended
          exact atAgain state next result ends
            (inductionHypothesis ended)

/-- A function that every pass respects is computed in that many passes. -/
theorem within_eq_some
    {answer : σ → ρ}
    (shortens : Shortens pass measure stride)
    (atDone :
      ∀ state result, pass state = .done result → answer state = result)
    (atAgain :
      ∀ state next, pass state = .again next → answer state = answer next)
    (enough : measure state < passes * stride) :
    within pass passes state = some (answer state) := by
  obtain ⟨result, ended⟩ := exists_within shortens enough
  have answered : answer state = result :=
    of_within (motive := fun state result => answer state = result)
      atDone
      (fun state next result again rest =>
        (atAgain state next again).trans rest)
      ended
  rw [ended, answered]

end PassLoop
