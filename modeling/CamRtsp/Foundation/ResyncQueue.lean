import Mathlib.Data.List.Induction
import Mathlib.Tactic.Common

/-!
# Bounded queues that resynchronise at key items

A producer offers items to a consumer through a bounded queue.  The consumer
can start only at a key item.  An offer that finds the queue full, like an
explicit resynchronisation, throws all items away and makes the queue wait for
a key item again.

The queue is part of a larger machine.  `Machine` says what each operation of
that machine does to the queue; `exists_segmented` cuts any run of it into
segments that a consumer can use.
-/

namespace ResyncQueue

variable {α σ ι : Type}

/-- The queued items, and whether the next one must be a key item. -/
structure Queue (α : Type) where
  items : List α
  waiting : Bool
  deriving DecidableEq

/-- What one operation of the surrounding machine means for the queue. -/
inductive Input (α : Type) where
  | offer (item : α)
  | resync
  | take
  | idle

/-- The items an operation offers. -/
def Input.offered : Input α → List α
  | .offer item => [item]
  | _ => []

namespace Queue

/-- An empty queue that waits for a key item. -/
def fresh : Queue α where
  items := []
  waiting := true

variable (capacity : Nat) (key : α → Bool)

/-- The queue as an offer finds it after the overflow check. -/
def relieved (queue : Queue α) : Queue α :=
  if queue.items.length = capacity then fresh else queue

/-- The items that enter the queue. -/
def pushed (queue : Queue α) : Input α → List α
  | .offer item =>
      if key item || !(queue.relieved capacity).waiting then
        [item]
      else
        []
  | _ => []

/-- The items that leave the queue towards the consumer. -/
def received (queue : Queue α) : Input α → List α
  | .take => queue.items.head?.toList
  | _ => []

/-- The queue after the operation. -/
def apply (queue : Queue α) : Input α → Queue α
  | .offer item =>
      if key item || !(queue.relieved capacity).waiting then
        { items := (queue.relieved capacity).items ++ [item]
          waiting := false }
      else
        queue.relieved capacity
  | .resync => fresh
  | .take => { queue with items := queue.items.tail }
  | .idle => queue

/-- The operation throws the queued items away. -/
def Cut (queue : Queue α) : Input α → Prop
  | .offer _ => queue.items.length = capacity
  | .resync => True
  | _ => False

instance (queue : Queue α) (input : Input α) :
    Decidable (queue.Cut capacity input) :=
  match input with
  | .offer _ => inferInstanceAs (Decidable (_ = _))
  | .resync => inferInstanceAs (Decidable True)
  | .take => inferInstanceAs (Decidable False)
  | .idle => inferInstanceAs (Decidable False)

variable {capacity key}

/-- No operation lets the queue grow over its capacity. -/
theorem length_apply_le
    {queue : Queue α}
    (positive : 0 < capacity)
    (bounded : queue.items.length ≤ capacity)
    (input : Input α) :
    (queue.apply capacity key input).items.length ≤ capacity := by
  cases input with
  | offer item =>
      have relievedBound :
          (queue.relieved capacity).items.length < capacity := by
        by_cases full : queue.items.length = capacity
        · simpa [relieved, full, fresh] using positive
        · simpa [relieved, full] using Nat.lt_of_le_of_ne bounded full
      simp only [apply]
      split
      · simpa using Nat.succ_le_of_lt relievedBound
      · exact Nat.le_of_lt relievedBound
  | resync =>
      exact Nat.zero_le capacity
  | take =>
      simpa [apply] using Nat.le_add_right_of_le bounded
  | idle =>
      exact bounded

/-- What leaves the queue or stays in it was there or has just entered. -/
theorem received_append_items_sublist
    (queue : Queue α)
    (input : Input α) :
    (queue.received input ++ (queue.apply capacity key input).items).Sublist
      (queue.items ++ queue.pushed capacity key input) := by
  cases input with
  | offer item =>
      have relievedItems :
          (queue.relieved capacity).items.Sublist queue.items := by
        rw [relieved]
        split
        · exact List.nil_sublist _
        · exact List.Sublist.refl _
      simp only [apply, pushed, received, List.nil_append]
      split
      · exact relievedItems.append_right [item]
      · simpa using relievedItems
  | resync =>
      exact List.nil_sublist _
  | take =>
      cases shape : queue.items <;>
        simp [received, apply, pushed, shape]
  | idle =>
      simp [received, apply, pushed]

/-- Behind a cut the queue holds only what has just entered. -/
theorem received_append_items_sublist_of_cut
    {queue : Queue α}
    {input : Input α}
    (cut : queue.Cut capacity input) :
    (queue.received input ++ (queue.apply capacity key input).items).Sublist
      (queue.pushed capacity key input) := by
  cases input with
  | offer item =>
      have relieved : queue.relieved capacity = fresh := if_pos cut
      simp only [apply, pushed, received, relieved, List.nil_append]
      split
      · exact List.Sublist.refl _
      · exact List.Sublist.refl _
  | resync =>
      exact List.nil_sublist _
  | take =>
      exact cut.elim
  | idle =>
      exact cut.elim

/--
A queue starts to wait when the operation throws its items away and offers no
key item.
-/
theorem waiting_of_waiting_apply
    {queue : Queue α}
    {input : Input α}
    (waiting : (queue.apply capacity key input).waiting = true) :
    queue.waiting = true ∨
      queue.Cut capacity input ∧
        ∀ item ∈ input.offered, key item = false := by
  cases input with
  | offer item =>
      simp only [apply] at waiting
      split at waiting
      · cases waiting
      · rename_i refused
        have notKey : key item = false := by
          simp only [Bool.or_eq_true, not_or, Bool.not_eq_true] at refused
          exact refused.1
        by_cases full : queue.items.length = capacity
        · exact .inr ⟨full, by simpa [Input.offered] using notKey⟩
        · rw [relieved, if_neg full] at waiting
          exact .inl waiting
  | resync =>
      exact .inr ⟨trivial, by simp [Input.offered]⟩
  | take =>
      exact .inl waiting
  | idle =>
      exact .inl waiting

/-- A waiting queue holds nothing. -/
def Settled (queue : Queue α) : Prop :=
  queue.waiting = true → queue.items = []

theorem settled_fresh : (fresh : Queue α).Settled :=
  fun _ => rfl

/-- No operation queues items while the queue waits. -/
theorem Settled.apply
    {queue : Queue α}
    (settled : queue.Settled)
    (input : Input α) :
    (queue.apply capacity key input).Settled := by
  cases input with
  | offer item =>
      simp only [Queue.apply]
      split
      · intro waiting
        cases waiting
      · rw [relieved]
        split
        · exact settled_fresh
        · exact settled
  | resync =>
      exact settled_fresh
  | take =>
      intro waiting
      simp [Queue.apply, settled waiting]
  | idle =>
      exact settled

/-- A waiting queue stays waiting until a key item is offered. -/
theorem waiting_apply
    {queue : Queue α}
    {input : Input α}
    (waiting : queue.waiting = true)
    (noKey : ∀ item ∈ input.offered, key item = false) :
    (queue.apply capacity key input).waiting = true := by
  cases input with
  | offer item =>
      have notKey : key item = false := noKey item (by simp [Input.offered])
      have stillWaiting : (queue.relieved capacity).waiting = true := by
        rw [relieved]
        split
        · rfl
        · exact waiting
      simp [apply, notKey, stillWaiting]
  | resync =>
      rfl
  | take =>
      exact waiting
  | idle =>
      exact waiting

/-- A key item offered to a waiting queue is the first one in it. -/
theorem apply_key
    {queue : Queue α}
    (settled : queue.Settled)
    (waiting : queue.waiting = true)
    {item : α}
    (isKey : key item = true) :
    queue.apply capacity key (.offer item) =
      { items := [item], waiting := false } := by
  have noItems : (queue.relieved capacity).items = [] := by
    rw [relieved]
    split
    · rfl
    · exact settled waiting
  simp [apply, isKey, noItems]

/--
The books of a consumer since the queue was last fresh: items are skipped up to
the first key item, from it on all are queued in order, and those not yet
received are still there.
-/
structure Tally
    (key : α → Bool)
    (offered pushed received : List α)
    (queue : Queue α) : Prop where
  contiguous :
    ∃ skipped, offered = skipped ++ pushed ∧
      ∀ item ∈ skipped, key item = false
  startsAtKey : ∀ item ∈ pushed.head?, key item = true
  unread : pushed = received ++ queue.items
  waiting : queue.waiting = pushed.isEmpty

namespace Tally

variable {queue : Queue α} {offered pushed received : List α}

/-- Nothing has happened to a fresh queue. -/
theorem of_fresh : Tally key [] [] [] (fresh : Queue α) where
  contiguous := ⟨[], rfl, by simp⟩
  startsAtKey := by simp
  unread := rfl
  waiting := rfl

/-- A skipped item leaves the queue waiting. -/
theorem skip
    (tally : Tally key offered pushed received queue)
    {item : α}
    (isWaiting : queue.waiting = true)
    (notKey : key item = false) :
    Tally key (offered ++ [item]) pushed received queue := by
  obtain ⟨skipped, offeredEq, noKey⟩ := tally.contiguous
  have pushedEmpty : pushed = [] := by
    simpa [isWaiting] using tally.waiting.symm
  exact {
    contiguous := by
      refine ⟨skipped ++ [item], by simp [offeredEq, pushedEmpty], ?_⟩
      intro other member
      rcases List.mem_append.mp member with earlier | last
      · exact noKey other earlier
      · simpa [List.mem_singleton.mp last] using notKey
    startsAtKey := tally.startsAtKey
    unread := tally.unread
    waiting := tally.waiting
  }

/-- An admitted item goes to the end of the queue. -/
theorem accept
    (tally : Tally key offered pushed received queue)
    {item : α}
    (admitted : (key item || !queue.waiting) = true) :
    Tally key (offered ++ [item]) (pushed ++ [item]) received
      { items := queue.items ++ [item], waiting := false } := by
  obtain ⟨skipped, offeredEq, noKey⟩ := tally.contiguous
  have waiting := tally.waiting
  exact {
    contiguous := ⟨skipped, by simp [offeredEq], noKey⟩
    startsAtKey := by
      cases pushed with
      | nil =>
          intro first member
          have same : item = first := by simpa using member
          have isWaiting : queue.waiting = true := by simpa using waiting
          simpa [← same, isWaiting] using admitted
      | cons head rest =>
          intro first member
          exact tally.startsAtKey first (by simpa using member)
    unread := by simp [tally.unread]
    waiting := by simp
  }

/-- An operation that keeps the queued items extends the books. -/
theorem apply
    (tally : Tally key offered pushed received queue)
    {input : Input α}
    (keeps : ¬ queue.Cut capacity input) :
    Tally key (offered ++ input.offered)
      (pushed ++ queue.pushed capacity key input)
      (received ++ queue.received input)
      (queue.apply capacity key input) := by
  cases input with
  | offer item =>
      have relieved : queue.relieved capacity = queue := if_neg keeps
      by_cases admitted : (key item || !queue.waiting) = true
      · simpa [Queue.apply, Queue.pushed, Queue.received,
          Input.offered, relieved, admitted] using tally.accept admitted
      · have refused : key item = false ∧ queue.waiting = true := by
          simpa using admitted
        simpa [Queue.apply, Queue.pushed, Queue.received,
          Input.offered, relieved, refused.1, refused.2] using
          tally.skip refused.2 refused.1
  | resync =>
      exact (keeps trivial).elim
  | take =>
      exact {
        contiguous := by
          simpa [Input.offered, Queue.pushed] using tally.contiguous
        startsAtKey := by
          simpa [Queue.pushed] using tally.startsAtKey
        unread := by
          have unread := tally.unread
          cases itemsEq : queue.items <;>
            simp [Queue.pushed, Queue.received, Queue.apply, itemsEq,
              unread]
        waiting := by
          simpa [Queue.pushed, Queue.apply] using tally.waiting
      }
  | idle =>
      simpa [Input.offered, Queue.pushed, Queue.received, Queue.apply]
        using tally

/-- An operation that throws the items away opens new books. -/
theorem of_cut
    {input : Input α}
    (cut : queue.Cut capacity input) :
    Tally key input.offered
      (queue.pushed capacity key input)
      (queue.received input)
      (queue.apply capacity key input) := by
  cases input with
  | offer item =>
      have relieved : queue.relieved capacity = fresh := if_pos cut
      have opened : Tally key [] [] [] (fresh : Queue α) := of_fresh
      cases isKey : key item with
      | false =>
          simpa [Queue.apply, Queue.pushed, Queue.received,
            Input.offered, relieved, isKey, fresh] using
            opened.skip rfl isKey
      | true =>
          have admitted :
              (key item || !(fresh : Queue α).waiting) = true := by
            simp [isKey]
          simpa [Queue.apply, Queue.pushed, Queue.received,
            Input.offered, relieved, isKey, fresh] using
            opened.accept admitted
  | resync =>
      exact of_fresh
  | take =>
      exact cut.elim
  | idle =>
      exact cut.elim

end Tally

end Queue

/-- Collect what each operation of a run yields in the state it finds. -/
def collect
    (step : σ → ι → σ)
    (yield : σ → ι → List α)
    (state : σ) : List ι → List α
  | [] => []
  | operation :: later =>
      yield state operation ++
        collect step yield (step state operation) later

/--
A machine with a queue in it: every operation acts on the queue as its input
says.
-/
structure Machine (σ ι α : Type) where
  step : σ → ι → σ
  Valid : σ → Prop
  valid_step : ∀ state operation, Valid state → Valid (step state operation)
  capacity : Nat
  capacity_pos : 0 < capacity
  key : α → Bool
  queue : σ → Queue α
  input : σ → ι → Input α
  tracks :
    ∀ state operation, Valid state →
      queue (step state operation) =
        (queue state).apply capacity key (input state operation)

namespace Machine

variable (machine : Machine σ ι α)

/-- The state after a run. -/
def run (state : σ) (operations : List ι) : σ :=
  operations.foldl machine.step state

/-- All items offered in a run. -/
def offered : σ → List ι → List α :=
  collect machine.step fun state operation =>
    (machine.input state operation).offered

/-- All items that entered the queue in a run. -/
def pushed : σ → List ι → List α :=
  collect machine.step fun state operation =>
    (machine.queue state).pushed machine.capacity machine.key
      (machine.input state operation)

/-- All items the consumer received in a run. -/
def received : σ → List ι → List α :=
  collect machine.step fun state operation =>
    (machine.queue state).received (machine.input state operation)

/-- The operation throws the queued items away. -/
def Cut (state : σ) (operation : ι) : Prop :=
  (machine.queue state).Cut machine.capacity
    (machine.input state operation)

/--
A usable part of a run: items are skipped up to the first key item, from it on
all are queued in order, and the consumer has seen them in order.
-/
structure Segment (state : σ) (operations : List ι) : Prop where
  contiguous :
    ∃ skipped,
      machine.offered state operations =
        skipped ++ machine.pushed state operations ∧
      ∀ item ∈ skipped, machine.key item = false
  startsAtKey :
    ∀ item ∈ (machine.pushed state operations).head?,
      machine.key item = true
  inOrder :
    machine.received state operations <+: machine.pushed state operations

/-- No operation of the run throws the queued items away. -/
def Uncut (state : σ) (operations : List ι) : Prop :=
  ∀ before operation after,
    operations = before ++ operation :: after →
      ¬ machine.Cut (machine.run state before) operation

/--
Segments of a run; each but the first begins by throwing the queue away, and
this is done nowhere else.
-/
inductive Segmented (state : σ) : List (List ι) → Prop where
  | first
      {operations : List ι}
      (segment : machine.Segment state operations)
      (uncut : machine.Uncut state operations) :
      Segmented state [operations]
  | later
      {segments : List (List ι)}
      {operation : ι}
      {operations : List ι}
      (earlier : Segmented state segments)
      (cut : machine.Cut (machine.run state segments.flatten) operation)
      (segment :
        machine.Segment (machine.run state segments.flatten)
          (operation :: operations))
      (uncut :
        machine.Uncut
          (machine.step (machine.run state segments.flatten) operation)
          operations) :
      Segmented state (segments ++ [operation :: operations])

variable {machine}

theorem run_append (state : σ) (first second : List ι) :
    machine.run state (first ++ second) =
      machine.run (machine.run state first) second :=
  List.foldl_append

theorem run_concat (state : σ) (operations : List ι) (operation : ι) :
    machine.run state (operations ++ [operation]) =
      machine.step (machine.run state operations) operation :=
  run_append state operations [operation]

theorem uncut_nil (state : σ) : machine.Uncut state [] := by
  intro before operation after split
  simp at split

/-- One more operation that keeps the queued items. -/
theorem Uncut.concat
    {state : σ}
    {operations : List ι}
    {operation : ι}
    (uncut : machine.Uncut state operations)
    (keeps : ¬ machine.Cut (machine.run state operations) operation) :
    machine.Uncut state (operations ++ [operation]) := by
  intro before other after split
  rcases List.eq_nil_or_concat after with rfl | ⟨middle, last, rfl⟩
  · obtain ⟨rfl, lastEq⟩ := List.append_inj' split rfl
    obtain rfl := List.singleton_inj.mp lastEq
    exact keeps
  · have regrouped :
        before ++ other :: middle.concat last =
          (before ++ other :: middle) ++ [last] := by
      simp
    have shorter := List.append_inj' (split.trans regrouped) rfl
    exact uncut before other middle shorter.1

/-- Validity is kept by whole runs. -/
theorem valid_run
    {state : σ}
    (valid : machine.Valid state)
    (operations : List ι) :
    machine.Valid (machine.run state operations) := by
  induction operations generalizing state with
  | nil =>
      exact valid
  | cons operation later inductionHypothesis =>
      exact inductionHypothesis
        (machine.valid_step state operation valid)

/-- The capacity is kept by whole runs. -/
theorem length_run_le
    {state : σ}
    (valid : machine.Valid state)
    (bounded : (machine.queue state).items.length ≤ machine.capacity)
    (operations : List ι) :
    (machine.queue (machine.run state operations)).items.length ≤
      machine.capacity := by
  induction operations generalizing state with
  | nil =>
      exact bounded
  | cons operation later inductionHypothesis =>
      apply inductionHypothesis
        (machine.valid_step state operation valid)
      rw [machine.tracks state operation valid]
      exact Queue.length_apply_le machine.capacity_pos bounded _

/-- A run in two parts yields the items of both. -/
theorem collect_append
    (yield : σ → ι → List α)
    (state : σ)
    (first second : List ι) :
    collect machine.step yield state (first ++ second) =
      collect machine.step yield state first ++
        collect machine.step yield (machine.run state first) second := by
  induction first generalizing state with
  | nil =>
      rfl
  | cons operation later inductionHypothesis =>
      simp only [List.cons_append, collect, inductionHypothesis,
        List.append_assoc]
      rfl

/-- One more operation yields its own items at the end. -/
theorem collect_concat
    (yield : σ → ι → List α)
    (state : σ)
    (operations : List ι)
    (operation : ι) :
    collect machine.step yield state (operations ++ [operation]) =
      collect machine.step yield state operations ++
        yield (machine.run state operations) operation := by
  rw [collect_append]
  simp [collect]

/-- What the first operation leaves queued is where the later ones begin. -/
theorem received_cons_append_sublist
    {state : σ}
    {operation : ι}
    {later : List ι}
    {available left : List α}
    (now :
      ((machine.queue state).received (machine.input state operation) ++
        (machine.queue (machine.step state operation)).items).Sublist
        available)
    (rest :
      (machine.received (machine.step state operation) later ++
          left).Sublist
        ((machine.queue (machine.step state operation)).items ++
          machine.pushed (machine.step state operation) later)) :
    (machine.received state (operation :: later) ++ left).Sublist
      (available ++
        machine.pushed (machine.step state operation) later) := by
  have first :=
    rest.append_left
      ((machine.queue state).received (machine.input state operation))
  have second :=
    now.append_right
      (machine.pushed (machine.step state operation) later)
  simp only [received, collect, List.append_assoc] at first second ⊢
  exact first.trans second

/-- What is received in a run or left at its end was there or has entered. -/
theorem received_append_items_run_sublist
    {state : σ}
    (valid : machine.Valid state)
    (operations : List ι) :
    (machine.received state operations ++
        (machine.queue (machine.run state operations)).items).Sublist
      ((machine.queue state).items ++ machine.pushed state operations) := by
  induction operations generalizing state with
  | nil =>
      simp [received, pushed, collect, run]
  | cons operation later inductionHypothesis =>
      have now :
          ((machine.queue state).received (machine.input state operation) ++
            (machine.queue (machine.step state operation)).items).Sublist
            _ :=
        machine.tracks state operation valid ▸
          (machine.queue state).received_append_items_sublist _
      have rest :=
        inductionHypothesis (machine.valid_step state operation valid)
      have whole := received_cons_append_sublist now rest
      rw [List.append_assoc] at whole
      exact whole

/-- What is received behind a cut was pushed behind it. -/
theorem received_sublist_pushed_of_cut
    {state : σ}
    (valid : machine.Valid state)
    {operation : ι}
    (cut : machine.Cut state operation)
    (later : List ι) :
    (machine.received state (operation :: later)).Sublist
      (machine.pushed state (operation :: later)) := by
  have now :
      ((machine.queue state).received (machine.input state operation) ++
        (machine.queue (machine.step state operation)).items).Sublist
        _ :=
    machine.tracks state operation valid ▸
      Queue.received_append_items_sublist_of_cut cut
  have rest :=
    received_append_items_run_sublist
      (machine.valid_step state operation valid) later
  exact (List.sublist_append_left _ _).trans
    (received_cons_append_sublist now rest)

/-- The books of a run are kept at its end. -/
def Current (machine : Machine σ ι α) (state : σ) (operations : List ι) :
    Prop :=
  Queue.Tally machine.key (machine.offered state operations)
    (machine.pushed state operations) (machine.received state operations)
    (machine.queue (machine.run state operations))

/-- Books in order make a segment. -/
theorem Current.segment
    {state : σ}
    {operations : List ι}
    (current : machine.Current state operations) :
    machine.Segment state operations where
  contiguous := current.contiguous
  startsAtKey := current.startsAtKey
  inOrder := ⟨_, current.unread.symm⟩

/-- An operation that keeps the queued items extends the segment. -/
theorem Current.concat
    {state : σ}
    {operations : List ι}
    {operation : ι}
    (current : machine.Current state operations)
    (valid : machine.Valid state)
    (keeps : ¬ machine.Cut (machine.run state operations) operation) :
    machine.Current state (operations ++ [operation]) := by
  have after :=
    machine.tracks (machine.run state operations) operation
      (valid_run valid operations)
  have extended := Queue.Tally.apply current keeps
  rw [← after] at extended
  simpa [Current, offered, pushed, received, collect_concat, run_concat]
    using extended

/-- Throwing the queue away begins a segment. -/
theorem current_of_cut
    {state : σ}
    {operation : ι}
    (valid : machine.Valid state)
    (cut : machine.Cut state operation) :
    machine.Current state [operation] := by
  have after := machine.tracks state operation valid
  have opened : Queue.Tally machine.key _ _ _ _ :=
    Queue.Tally.of_cut cut
  rw [← after] at opened
  simpa [Current, offered, pushed, received, collect, run] using opened

theorem Segmented.ne_nil
    {state : σ}
    {segments : List (List ι)}
    (segmented : machine.Segmented state segments) :
    segments ≠ [] := by
  cases segmented with
  | first segment uncut =>
      exact List.cons_ne_nil _ _
  | later earlier cut segment uncut =>
      exact List.append_ne_nil_of_right_ne_nil _ (List.cons_ne_nil _ _)

/-- The last segment grows by an operation that keeps the queued items. -/
theorem Segmented.grow
    {state : σ}
    {earlier segments : List (List ι)}
    {last : List ι}
    {operation : ι}
    (segmented : machine.Segmented state segments)
    (shape : segments = earlier ++ [last])
    (keeps :
      ¬ machine.Cut
        (machine.run (machine.run state earlier.flatten) last) operation)
    (segment :
      machine.Segment (machine.run state earlier.flatten)
        (last ++ [operation])) :
    machine.Segmented state (earlier ++ [last ++ [operation]]) := by
  cases segmented with
  | first earlierSegment uncut =>
      have noEarlier : earlier = [] := by
        simpa using congrArg List.length shape
      subst noEarlier
      obtain rfl := List.singleton_inj.mp shape
      exact .first segment (uncut.concat keeps)
  | later earlierSegments cut earlierSegment uncut =>
      obtain ⟨rfl, lastEq⟩ := List.append_inj' shape rfl
      obtain rfl := List.singleton_inj.mp lastEq
      exact .later earlierSegments cut segment (uncut.concat keeps)

/--
Every part of a segmented run is a segment, opened by a cut, and a cut opens a
part that is not the first.
-/
theorem Segmented.part
    {state : σ}
    {segments : List (List ι)}
    (segmented : machine.Segmented state segments)
    {earlier later : List (List ι)}
    {part : List ι}
    (shape : segments = earlier ++ part :: later) :
    machine.Segment (machine.run state earlier.flatten) part ∧
      (earlier ≠ [] →
        ∃ operation rest, part = operation :: rest ∧
          machine.Cut (machine.run state earlier.flatten) operation) ∧
      ∀ before operation after,
        part = before ++ operation :: after →
          machine.Cut
              (machine.run (machine.run state earlier.flatten) before)
              operation →
            before = [] ∧ earlier ≠ [] := by
  induction segmented generalizing earlier part later with
  | first segment uncut =>
      have noEarlier : earlier = [] := by
        have lengths := congrArg List.length shape
        simp only [List.length_append, List.length_cons,
          List.length_nil] at lengths
        exact List.length_eq_zero_iff.mp (by omega)
      subst noEarlier
      obtain ⟨rfl, _⟩ := List.cons.inj shape
      exact ⟨segment, fun nonempty => (nonempty rfl).elim,
        fun before operation after split isCut =>
          (uncut before operation after split isCut).elim⟩
  | later earlierSegments cut segment uncut inductionHypothesis =>
      rcases List.eq_nil_or_concat later with rfl | ⟨middle, last, rfl⟩
      · obtain ⟨rfl, partEq⟩ := List.append_inj' shape rfl
        obtain rfl := List.singleton_inj.mp partEq
        refine ⟨segment, fun _ => ⟨_, _, rfl, cut⟩, ?_⟩
        intro before operation after split isCut
        cases before with
        | nil =>
            exact ⟨rfl, earlierSegments.ne_nil⟩
        | cons head front =>
            obtain ⟨rfl, rest⟩ := List.cons.inj split
            exact (uncut front operation after rest isCut).elim
      · have regrouped :
            earlier ++ part :: middle.concat last =
              (earlier ++ part :: middle) ++ [last] := by
          simp
        have split := List.append_inj' (shape.trans regrouped) rfl
        exact inductionHypothesis split.1

/--
Every run from a fresh queue falls into segments, and what the last one has
queued is received or still unread.
-/
theorem exists_segmented
    {state : σ}
    (valid : machine.Valid state)
    (isFresh : machine.queue state = .fresh)
    (operations : List ι) :
    ∃ earlier last,
      machine.Segmented state (earlier ++ [last]) ∧
      (earlier ++ [last]).flatten = operations ∧
      machine.Current (machine.run state earlier.flatten) last := by
  induction operations using List.reverseRecOn with
  | nil =>
      have opened : machine.Current state [] := by
        have books : Queue.Tally machine.key _ _ _ _ :=
          Queue.Tally.of_fresh
        rw [← isFresh] at books
        exact books
      exact ⟨[], [], .first opened.segment (uncut_nil state), rfl, opened⟩
  | append_singleton operations operation inductionHypothesis =>
      obtain ⟨earlier, last, segmented, flattened, current⟩ :=
        inductionHypothesis
      have reached :
          machine.run (machine.run state earlier.flatten) last =
            machine.run state (earlier ++ [last]).flatten := by
        simp [run_append]
      have validEarlier := valid_run valid earlier.flatten
      by_cases cut :
          machine.Cut (machine.run state (earlier ++ [last]).flatten)
            operation
      · have opened :=
          current_of_cut (valid_run valid (earlier ++ [last]).flatten) cut
        exact ⟨earlier ++ [last], [operation],
          .later segmented cut opened.segment (uncut_nil _),
          by simp [← flattened], opened⟩
      · rw [← reached] at cut
        have extended := current.concat validEarlier cut
        exact ⟨earlier, last ++ [operation],
          segmented.grow rfl cut extended.segment,
          by simp [← flattened], extended⟩

/-- What is received in a segment was offered in it. -/
theorem Segment.offered_of_received
    {state : σ}
    {operations : List ι}
    (segment : machine.Segment state operations)
    {item : α}
    (member : item ∈ machine.received state operations) :
    item ∈ machine.offered state operations := by
  obtain ⟨skipped, offeredEq, _⟩ := segment.contiguous
  rw [offeredEq]
  exact List.mem_append_right skipped (segment.inOrder.subset member)

/-- The first item received in a segment is a key item. -/
theorem Segment.key_of_head
    {state : σ}
    {operations : List ι}
    (segment : machine.Segment state operations)
    {item : α}
    (isHead : item ∈ (machine.received state operations).head?) :
    machine.key item = true := by
  obtain ⟨unread, pushedEq⟩ := segment.inOrder
  apply segment.startsAtKey item
  rw [← pushedEq, List.head?_append, Option.mem_def.mp isHead]
  rfl

/--
Over segments, what is received was offered, and the first item is a key item.
-/
theorem Segmented.received_spec
    {state : σ}
    {segments : List (List ι)}
    (segmented : machine.Segmented state segments) :
    (∀ item ∈ machine.received state segments.flatten,
        item ∈ machine.offered state segments.flatten) ∧
      ∀ item ∈ (machine.received state segments.flatten).head?,
        machine.key item = true := by
  induction segmented with
  | first segment _ =>
      rw [List.flatten_singleton]
      exact ⟨fun item member => segment.offered_of_received member,
        fun item isHead => segment.key_of_head isHead⟩
  | later earlier cut segment _ inductionHypothesis =>
      obtain ⟨wasOffered, headIsKey⟩ := inductionHypothesis
      rw [List.flatten_append, List.flatten_singleton, received, offered,
        collect_append, collect_append]
      constructor
      · intro item member
        rcases List.mem_append.mp member with before | inLast
        · exact List.mem_append_left _ (wasOffered item before)
        · exact List.mem_append_right _
            (segment.offered_of_received inLast)
      · intro item isHead
        rw [List.head?_append, Option.mem_def,
          Option.or_eq_some_iff] at isHead
        rcases isHead with before | ⟨_, inLast⟩
        · exact headIsKey item before
        · exact segment.key_of_head inLast

/--
From a fresh queue on, what is received was offered, and the first item
received is a key item.
-/
theorem received_spec
    {state : σ}
    (valid : machine.Valid state)
    (isFresh : machine.queue state = .fresh)
    (operations : List ι) :
    (∀ item ∈ machine.received state operations,
        item ∈ machine.offered state operations) ∧
      ∀ item ∈ (machine.received state operations).head?,
        machine.key item = true := by
  obtain ⟨earlier, last, segmented, flattened, _⟩ :=
    exists_segmented valid isFresh operations
  rw [← flattened]
  exact segmented.received_spec

end Machine

end ResyncQueue
