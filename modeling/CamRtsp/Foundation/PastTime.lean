import Mathlib.Data.List.Basic

/-!
# What has held since

`Since` is the past-time operator on finite histories: something has opened,
and nothing behind it has closed.  A history may come in batches, one for each
step of a machine; `exists_of_flatMap` finds the batch of an item.
-/

namespace PastTime

variable {α β : Type}
variable {opens closes : α → Prop}
variable {history : List α}

/-- Some item of the history opens, and no later one closes. -/
def Since (opens closes : α → Prop) (history : List α) : Prop :=
  ∃ earlier item later,
    history = earlier ++ item :: later ∧ opens item ∧
      ∀ other ∈ later, ¬ closes other

/-- What opens may be said in other words. -/
theorem Since.mono
    {opens' : α → Prop}
    (since : Since opens closes history)
    (implies : ∀ item, opens item → opens' item) :
    Since opens' closes history := by
  obtain ⟨earlier, item, later, split, isOpening, closed⟩ := since
  exact ⟨earlier, item, later, split, implies item isOpening, closed⟩

/-- Nothing has opened in an empty history. -/
theorem not_since_nil : ¬ Since opens closes [] := by
  rintro ⟨earlier, item, later, split, _⟩
  exact List.cons_ne_nil _ _ (List.append_eq_nil_iff.mp split.symm).2

/-- What opens last is open. -/
theorem since_concat_of_opens
    {item : α}
    (isOpening : opens item) :
    Since opens closes (history ++ [item]) :=
  ⟨history, item, [], rfl, isOpening, by simp⟩

/-- What closes last, and does not open, is closed. -/
theorem not_since_concat_of_closes
    {item : α}
    (isClosing : closes item)
    (notOpening : ¬ opens item) :
    ¬ Since opens closes (history ++ [item]) := by
  rintro ⟨earlier, first, later, split, isOpening, quiet⟩
  rcases List.eq_nil_or_concat later with rfl | ⟨middle, last, rfl⟩
  · obtain ⟨_, same⟩ := List.append_inj' split rfl
    rw [List.singleton_inj.mp same] at notOpening
    exact notOpening isOpening
  · have regrouped :
        earlier ++ first :: middle.concat last =
          (earlier ++ first :: middle) ++ [last] := by
      simp
    obtain ⟨_, same⟩ := List.append_inj' (split.trans regrouped) rfl
    rw [List.singleton_inj.mp same] at isClosing
    exact quiet last (by simp) isClosing

/-- Items that neither open nor close change nothing. -/
theorem since_append_iff
    {later : List α}
    (quiet : ∀ item ∈ later, ¬ opens item ∧ ¬ closes item) :
    Since opens closes (history ++ later) ↔
      Since opens closes history := by
  constructor
  · rintro ⟨earlier, item, rest, split, isOpening, closed⟩
    rcases List.append_eq_append_iff.mp split with
      ⟨middle, rfl, laterEq⟩ | ⟨middle, historyEq, restEq⟩
    · have opened : item ∈ later := by
        rw [laterEq]
        simp
      exact ((quiet item opened).1 isOpening).elim
    · cases middle with
      | nil =>
          have opened : item ∈ later := by
            rw [← List.nil_append later, ← restEq]
            simp
          exact ((quiet item opened).1 isOpening).elim
      | cons first middle =>
          obtain ⟨rfl, rfl⟩ := List.cons.inj restEq
          exact ⟨earlier, item, middle, historyEq, isOpening,
            fun other member => closed other (by simp [member])⟩
  · rintro ⟨earlier, item, rest, rfl, isOpening, closed⟩
    refine ⟨earlier, item, rest ++ later, by simp, isOpening, ?_⟩
    intro other member
    rcases List.mem_append.mp member with before | behind
    · exact closed other before
    · exact (quiet other behind).2

/-- An item of a history in batches lies in one of them. -/
theorem exists_of_flatMap
    {items : β → List α}
    {batches : List β}
    {earlier later : List α}
    {item : α}
    (split : batches.flatMap items = earlier ++ item :: later) :
    ∃ before batch behind front back,
      batches = before ++ batch :: behind ∧
        items batch = front ++ item :: back ∧
        earlier = before.flatMap items ++ front ∧
        later = back ++ behind.flatMap items := by
  induction batches generalizing earlier with
  | nil =>
      have impossible := congrArg List.length split
      simp at impossible
  | cons first rest inductionHypothesis =>
      rw [List.flatMap_cons] at split
      rcases List.append_eq_append_iff.mp split with
        ⟨middle, rfl, restEq⟩ | ⟨middle, firstEq, laterEq⟩
      · obtain ⟨before, batch, behind, front, back, rfl, batchEq,
            middleEq, rfl⟩ :=
          inductionHypothesis restEq
        exact ⟨first :: before, batch, behind, front, back, rfl, batchEq,
          by simp [middleEq], rfl⟩
      · cases middle with
        | nil =>
            have restEq : rest.flatMap items = [] ++ item :: later :=
              laterEq.symm
            obtain ⟨before, batch, behind, front, back, rfl, batchEq,
                middleEq, rfl⟩ :=
              inductionHypothesis restEq
            refine ⟨first :: before, batch, behind, front, back, rfl,
              batchEq, ?_, rfl⟩
            rw [List.flatMap_cons, firstEq, List.append_assoc,
              List.append_assoc, ← middleEq]
            simp
        | cons head middle =>
            obtain ⟨rfl, rfl⟩ := List.cons.inj laterEq
            exact ⟨[], first, rest, earlier, middle, rfl, firstEq,
              by simp, rfl⟩

end PastTime
