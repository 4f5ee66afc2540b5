import Mathlib.Data.List.MinMax
import Mathlib.Data.Nat.Dist
import Mathlib.Data.Prod.Lex
import Mathlib.Algebra.Order.Field.Basic
import Mathlib.Algebra.Order.Ring.Rat
import Mathlib.Tactic.FieldSimp
import Mathlib.Tactic.Ring

/-!
# The nearest rate in a list

A choice by a key takes the first item with the least key.  Rates are fractions;
two of them are compared by their distance to a whole number of units.
-/

namespace NearestRate

section FirstMinimum

variable {α β : Type} [LinearOrder β] {key : α → β}

/-- The item has the least key, and all items before it a greater one. -/
def FirstMinimum (key : α → β) (items : List α) (item : α) : Prop :=
  ∃ before after,
    items = before ++ item :: after ∧
      (∀ other ∈ before, key item < key other) ∧
      ∀ other ∈ after, key item ≤ key other

theorem FirstMinimum.le
    {items : List α}
    {item : α}
    (isFirst : FirstMinimum key items item) :
    ∀ other ∈ items, key item ≤ key other := by
  obtain ⟨before, after, rfl, strict, weak⟩ := isFirst
  intro other member
  rcases List.mem_append.mp member with earlier | later
  · exact (strict other earlier).le
  · rcases List.mem_cons.mp later with rfl | later
    · exact le_rfl
    · exact weak other later

/-- The chosen item is the first minimum, by induction from the right. -/
theorem FirstMinimum.of_argmin
    {items : List α}
    {item : α}
    (chosen : items.argmin key = some item) :
    FirstMinimum key items item := by
  induction items using List.reverseRecOn generalizing item with
  | nil =>
      simp at chosen
  | append_singleton items last inductionHypothesis =>
      rw [List.argmin_concat] at chosen
      cases found : items.argmin key with
      | none =>
          rw [List.argmin_eq_none] at found
          simp only [found, List.argmin_nil, Option.some_inj] at chosen
          exact ⟨[], [], by simp [found, chosen], by simp, by simp⟩
      | some current =>
          have isFirst := inductionHypothesis found
          simp only [found] at chosen
          split at chosen
          · rename_i smaller
            obtain rfl := Option.some.inj chosen
            exact ⟨items, [], rfl,
              fun other member =>
                smaller.trans_le (isFirst.le other member),
              by simp⟩
          · rename_i notSmaller
            obtain rfl := Option.some.inj chosen
            obtain ⟨before, after, rfl, strict, weak⟩ := isFirst
            refine ⟨before, after ++ [last], by simp, strict, ?_⟩
            intro other member
            rcases List.mem_append.mp member with earlier | isLast
            · exact weak other earlier
            · rw [List.mem_singleton.mp isLast]
              exact not_lt.mp notSmaller

/-- The first minimum is chosen, by induction on what follows it. -/
theorem FirstMinimum.argmin
    {items : List α}
    {item : α}
    (isFirst : FirstMinimum key items item) :
    items.argmin key = some item := by
  obtain ⟨before, after, rfl, strict, weak⟩ := isFirst
  induction after using List.reverseRecOn with
  | nil =>
      rw [List.argmin_concat]
      cases found : before.argmin key with
      | none =>
          rfl
      | some current =>
          have member := List.argmin_mem (Option.mem_def.mpr found)
          simp [strict current member]
  | append_singleton after last inductionHypothesis =>
      have earlier :=
        inductionHypothesis fun other member =>
          weak other (List.mem_append_left _ member)
      have notSmaller : ¬ key last < key item :=
        not_lt.mpr (weak last (by simp))
      have regrouped :
          before ++ item :: (after ++ [last]) =
            (before ++ item :: after) ++ [last] := by
        simp
      rw [regrouped, List.argmin_concat, earlier]
      simp [notSmaller]

/-- A choice by a key takes the first minimum. -/
theorem argmin_eq_some_iff_firstMinimum
    {items : List α}
    {item : α} :
    items.argmin key = some item ↔ FirstMinimum key items item :=
  ⟨FirstMinimum.of_argmin, FirstMinimum.argmin⟩

/-- Behind the first minimum come the items with the same key. -/
theorem FirstMinimum.idxOf_lt
    [DecidableEq α]
    {items : List α}
    {item other : α}
    (isFirst : FirstMinimum key items item)
    (same : key other = key item)
    (differs : other ≠ item) :
    items.idxOf item < items.idxOf other := by
  obtain ⟨before, after, rfl, strict, _⟩ := isFirst
  have itemLater : item ∉ before := fun member =>
    (strict item member).false
  have otherLater : other ∉ before := fun member =>
    (strict other member).ne same.symm
  rw [List.idxOf_append_of_notMem itemLater,
    List.idxOf_append_of_notMem otherLater, List.idxOf_cons_self,
    List.idxOf_cons_ne _ differs.symm]
  omega

end FirstMinimum

section Rate

variable {requested numerator denominator : ℕ}
variable {numerator' denominator' : ℕ}

/-- How far a rate is from the requested one. -/
def rateDistance (requested numerator denominator : ℕ) : ℚ :=
  |(requested : ℚ) - numerator / denominator|

/-- The distance in units of one over the denominator. -/
def scaledDistance (requested numerator denominator : ℕ) : ℕ :=
  Nat.dist (requested * denominator) numerator

theorem rateDistance_eq (positive : 0 < denominator) :
    rateDistance requested numerator denominator =
      scaledDistance requested numerator denominator / denominator := by
  have nonzero : (denominator : ℚ) ≠ 0 :=
    Nat.cast_ne_zero.mpr positive.ne'
  have common :
      (requested : ℚ) - numerator / denominator =
        ((requested * denominator : ℕ) - numerator) / denominator := by
    push_cast
    field_simp
  have scaled :
      |((requested * denominator : ℕ) : ℚ) - numerator| =
        scaledDistance requested numerator denominator := by
    rw [scaledDistance, Nat.dist]
    rcases Nat.le_total (requested * denominator) numerator with le | le
    · rw [abs_of_nonpos (by simpa using mod_cast le),
        Nat.sub_eq_zero_of_le le, Nat.zero_add, Nat.cast_sub le]
      ring
    · rw [abs_of_nonneg (by simpa using mod_cast le),
        Nat.sub_eq_zero_of_le le, Nat.add_zero, Nat.cast_sub le]
  rw [rateDistance, common, abs_div, scaled, Nat.abs_cast]

/-- Rates are compared by their distances times the other denominator. -/
theorem rateDistance_le_iff
    (positive : 0 < denominator)
    (positive' : 0 < denominator') :
    rateDistance requested numerator denominator ≤
        rateDistance requested numerator' denominator' ↔
      scaledDistance requested numerator denominator * denominator' ≤
        scaledDistance requested numerator' denominator' *
          denominator := by
  rw [rateDistance_eq positive, rateDistance_eq positive',
    div_le_div_iff₀ (Nat.cast_pos.mpr positive)
      (Nat.cast_pos.mpr positive')]
  exact mod_cast Iff.rfl

theorem rateDistance_nonneg :
    0 ≤ rateDistance requested numerator denominator :=
  abs_nonneg _

/-- A scaled distance is the distance times the denominator. -/
theorem scaledDistance_eq (positive : 0 < denominator) :
    (scaledDistance requested numerator denominator : ℚ) =
      rateDistance requested numerator denominator * denominator := by
  rw [rateDistance_eq positive,
    div_mul_cancel₀ _ (Nat.cast_ne_zero.mpr positive.ne')]

/--
Scaled distances are compared as the factor between the denominators is with
the factor between the distances.
-/
theorem scaledDistance_lt_iff
    (positive : 0 < denominator)
    (positive' : 0 < denominator')
    (inexact : rateDistance requested numerator denominator ≠ 0) :
    scaledDistance requested numerator denominator <
        scaledDistance requested numerator' denominator' ↔
      (denominator : ℚ) / denominator' <
        rateDistance requested numerator' denominator' /
          rateDistance requested numerator denominator := by
  rw [div_lt_div_iff₀ (Nat.cast_pos.mpr positive')
      (rateDistance_nonneg.lt_of_ne' inexact),
    ← scaledDistance_eq positive', mul_comm, ← scaledDistance_eq positive,
    Nat.cast_lt]

/-- The same for equal scaled distances. -/
theorem scaledDistance_eq_iff
    (positive : 0 < denominator)
    (positive' : 0 < denominator')
    (inexact : rateDistance requested numerator denominator ≠ 0) :
    scaledDistance requested numerator denominator =
        scaledDistance requested numerator' denominator' ↔
      (denominator : ℚ) / denominator' =
        rateDistance requested numerator' denominator' /
          rateDistance requested numerator denominator := by
  rw [div_eq_div_iff (Nat.cast_ne_zero.mpr positive'.ne') inexact,
    ← scaledDistance_eq positive', mul_comm, ← scaledDistance_eq positive,
    Nat.cast_inj]

end Rate

end NearestRate
