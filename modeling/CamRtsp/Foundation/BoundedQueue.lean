import Mathlib.Data.List.Basic

/-!
# A bounded queue in a log

Entries of a log put items into a queue or take them out again.  What has been
taken and what is still queued is what was put in, in its order.
-/

namespace BoundedQueue

variable {ε α : Type}

/-- The queue holds what was put and not yet taken. -/
structure Fifo
    (put? taken? : ε → Option α)
    (capacity : Nat)
    (log : List ε)
    (queue : List α) : Prop where
  order : log.filterMap taken? ++ queue = log.filterMap put?
  bounded : queue.length ≤ capacity

namespace Fifo

variable {put? taken? : ε → Option α}
variable {capacity : Nat}
variable {log : List ε}
variable {queue : List α}
variable {entry : ε}
variable {item : α}

/-- Nothing has been put or taken. -/
theorem empty
    (nothingPut : log.filterMap put? = [])
    (nothingTaken : log.filterMap taken? = []) :
    Fifo put? taken? capacity log [] where
  order := by
    rw [nothingPut, nothingTaken]
    rfl
  bounded := Nat.zero_le _

/-- An item is put into the queue. -/
theorem put
    (fifo : Fifo put? taken? capacity log queue)
    (isPut : put? entry = some item)
    (notTaken : taken? entry = none)
    (room : queue.length < capacity) :
    Fifo put? taken? capacity (log ++ [entry]) (queue ++ [item]) where
  order := by
    rw [List.filterMap_append, List.filterMap_append, ← fifo.order]
    simp [isPut, notTaken]
  bounded := by
    rw [List.length_append]
    exact room

/-- The front item is taken. -/
theorem take
    {later : List α}
    (fifo : Fifo put? taken? capacity log (item :: later))
    (notPut : put? entry = none)
    (isTaken : taken? entry = some item) :
    Fifo put? taken? capacity (log ++ [entry]) later where
  order := by
    rw [List.filterMap_append, List.filterMap_append, ← fifo.order]
    simp [notPut, isTaken]
  bounded := Nat.le_of_succ_le fifo.bounded

/-- An entry is about something else. -/
theorem skip
    (fifo : Fifo put? taken? capacity log queue)
    (notPut : put? entry = none)
    (notTaken : taken? entry = none) :
    Fifo put? taken? capacity (log ++ [entry]) queue where
  order := by
    rw [List.filterMap_append, List.filterMap_append, ← fifo.order]
    simp [notPut, notTaken]
  bounded := fifo.bounded

end Fifo

end BoundedQueue
