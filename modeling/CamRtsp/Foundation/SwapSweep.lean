import Mathlib.Data.List.Basic
import Mathlib.Data.List.Perm.Basic

/-!
# Sweeping a list while removing from it

A sweep inspects the item at an index and either goes on to the next index, or
removes the item and lets the last one take its place.  The item that moved is
then inspected at the same index, so every item is inspected once.
-/

namespace SwapSweep

variable {α : Type}

/-- Remove the item at an index; the last item takes its place. -/
def swapRemove (items : List α) (index : Nat) : List α :=
  match items.getLast? with
  | none => []
  | some last => (items.set index last).dropLast

/-- The last item is removed without a replacement. -/
theorem swapRemove_last (front : List α) (item : α) :
    swapRemove (front ++ [item]) front.length = front := by
  simp [swapRemove]

/-- Any other item is replaced by the last one. -/
theorem swapRemove_inner
    (front middle : List α)
    (item last : α) :
    swapRemove (front ++ item :: (middle ++ [last])) front.length =
      front ++ last :: middle := by
  have isLast :
      (front ++ item :: (middle ++ [last])).getLast? = some last := by
    rw [← List.cons_append, ← List.append_assoc]
    exact List.getLast?_concat
  simp only [swapRemove, isLast]
  rw [List.set_append_right _ _ (Nat.le_refl _), Nat.sub_self,
    List.set_cons_zero, ← List.cons_append, ← List.append_assoc,
    List.dropLast_concat]

/-- A removal by what it leaves in front of the index and behind it. -/
inductive Removal (items : List α) (index : Nat) (item : α) :
    List α → Prop where
  | mk
      (front back rest : List α)
      (shape : items = front ++ item :: back)
      (atIndex : front.length = index)
      (moved : rest.Perm back) :
      Removal items index item (front ++ rest)

/-- Removing the item at an index is of this form. -/
theorem removal_swapRemove
    {items : List α}
    {index : Nat}
    {item : α}
    (found : items[index]? = some item) :
    Removal items index item (swapRemove items index) := by
  obtain ⟨inside, rfl⟩ := List.getElem?_eq_some_iff.mp found
  have shape :
      items = items.take index ++ items[index] :: items.drop (index + 1) := by
    rw [List.getElem_cons_drop, List.take_append_drop]
  have atIndex : (items.take index).length = index := by
    simp only [List.length_take]
    omega
  rcases List.eq_nil_or_concat (items.drop (index + 1)) with
    atEnd | ⟨middle, last, behind⟩
  · have removed :
        swapRemove items index = items.take index ++ [] := by
      have whole := swapRemove_last (items.take index) items[index]
      rw [← atEnd, ← shape, atIndex] at whole
      rw [whole, List.append_nil]
    rw [removed]
    exact .mk _ _ [] shape atIndex (by rw [atEnd])
  · have removed :
        swapRemove items index = items.take index ++ last :: middle := by
      have whole :=
        swapRemove_inner (items.take index) middle items[index] last
      rw [← List.concat_eq_append, ← behind, ← shape, atIndex] at whole
      exact whole
    rw [removed]
    refine .mk _ _ (last :: middle) shape atIndex ?_
    rw [behind, List.concat_eq_append]
    exact (List.perm_append_singleton last middle).symm

variable {start items : List α}
variable {index : Nat}
variable {item : α}
variable {tests : List (α × Bool)}

/-- The removed item and the others are all there was. -/
theorem cons_swapRemove_perm
    (found : items[index]? = some item) :
    (item :: swapRemove items index).Perm items := by
  have removal := removal_swapRemove found
  generalize swapRemove items index = after at removal ⊢
  obtain ⟨front, back, rest, rfl, _, moved⟩ := removal
  exact (List.perm_middle.symm).trans
    ((moved.cons item).append_left front)

/-- The items a sweep has tested in vain. -/
def kept (tests : List (α × Bool)) : List α :=
  (tests.filter fun test => !test.2).map Prod.fst

/-- The items a sweep has removed. -/
def removed (tests : List (α × Bool)) : List α :=
  (tests.filter fun test => test.2).map Prod.fst

/-- A sweep of `start` that has made some tests and stands at an index. -/
structure Swept
    (start items : List α)
    (index : Nat)
    (tests : List (α × Bool)) : Prop where
  inspected : (tests.map Prod.fst ++ items.drop index).Perm start
  inFront : items.take index = kept tests

namespace Swept

/-- A sweep begins at the first index. -/
theorem refl (items : List α) : Swept items items 0 [] where
  inspected := .refl _
  inFront := rfl

/-- An item that stays is passed over. -/
theorem keep
    (swept : Swept start items index tests)
    (found : items[index]? = some item) :
    Swept start items (index + 1) (tests ++ [(item, false)]) := by
  obtain ⟨inside, rfl⟩ := List.getElem?_eq_some_iff.mp found
  constructor
  · have behind := swept.inspected
    rw [List.drop_eq_getElem_cons inside] at behind
    simpa using behind
  · rw [List.take_succ_eq_append_getElem inside, swept.inFront]
    simp [kept]

/-- A removed item is replaced by one that has not been tested yet. -/
theorem remove
    (swept : Swept start items index tests)
    (found : items[index]? = some item) :
    Swept start (swapRemove items index) index
      (tests ++ [(item, true)]) := by
  obtain ⟨inspected, inFront⟩ := swept
  have removal := removal_swapRemove found
  generalize swapRemove items index = after at removal ⊢
  obtain ⟨front, back, rest, rfl, rfl, moved⟩ := removal
  rw [List.drop_left] at inspected
  rw [List.take_left] at inFront
  constructor
  · rw [List.drop_left]
    refine List.Perm.trans ?_ inspected
    simp only [List.map_append, List.map_cons, List.map_nil,
      List.append_assoc, List.singleton_append]
    exact (moved.cons item).append_left _
  · rw [List.take_left, inFront]
    simp [kept]

/-- At the end every item has been tested once. -/
theorem complete
    (swept : Swept start items index tests)
    (ended : items.length ≤ index) :
    (tests.map Prod.fst).Perm start ∧ items = kept tests := by
  obtain ⟨inspected, inFront⟩ := swept
  rw [List.drop_of_length_le ended, List.append_nil] at inspected
  rw [List.take_of_length_le ended] at inFront
  exact ⟨inspected, inFront⟩

end Swept

/-- Nothing is lost or duplicated: what was removed and what stays. -/
theorem perm_kept_removed (tests : List (α × Bool)) :
    (kept tests ++ removed tests).Perm (tests.map Prod.fst) := by
  have split := List.filter_append_perm (fun test => !test.2) tests
  have asFiltered :
      (tests.filter fun test => !(!test.2)) =
        tests.filter fun test => test.2 := by
    simp
  rw [asFiltered] at split
  simpa [kept, removed] using split.map Prod.fst

end SwapSweep
