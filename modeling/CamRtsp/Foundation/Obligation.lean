import Mathlib.Data.List.Induction

/-!
# Obligations

A need arises in a run and is owed from then on, at one place or another, until
an event settles it.  A need that lasts is then never forgotten.
-/

namespace Obligation

variable {σ ε : Type}

/-- The state behind some events. -/
def run (step : σ → ε → σ) (state : σ) (events : List ε) : σ :=
  events.foldl step state

/-- Some event settles what is owed when it comes. -/
def Settled
    (step : σ → ε → σ)
    (settles : σ → ε → Prop)
    (state : σ)
    (events : List ε) : Prop :=
  ∃ before event after,
    events = before ++ event :: after ∧
      settles (run step state before) event

/-- Where a need comes from and how long it is owed. -/
structure Kept
    (step : σ → ε → σ)
    (valid needs owed : σ → Prop)
    (settles : σ → ε → Prop) : Prop where
  validStep : ∀ state event, valid state → valid (step state event)
  arises :
    ∀ state event, valid state → ¬ needs state →
      needs (step state event) → owed (step state event)
  stays :
    ∀ state event, valid state → owed state → ¬ settles state event →
      needs (step state event) → owed (step state event)

section Rules

variable {step : σ → ε → σ}
variable {valid needs owed : σ → Prop}
variable {settles : σ → ε → Prop}
variable {state : σ}

/-- What is settled in a run is settled behind one more event. -/
theorem Settled.cons
    {event : ε}
    {events : List ε}
    (settled : Settled step settles (step state event) events) :
    Settled step settles state (event :: events) := by
  obtain ⟨before, last, after, rfl, isSettled⟩ := settled
  exact ⟨event :: before, last, after, rfl, isSettled⟩

/-- The need that a run ends with is owed, or was settled on the way. -/
theorem Kept.owed_or_settled
    (kept : Kept step valid needs owed settles)
    (isValid : valid state)
    (isOwed : needs state → owed state)
    (events : List ε)
    (need : needs (run step state events)) :
    owed (run step state events) ∨
      Settled step settles state events := by
  induction events generalizing state with
  | nil =>
      exact .inl (isOwed need)
  | cons event later inductionHypothesis =>
      by_cases settled : settles state event
      · exact .inr ⟨[], event, later, rfl, settled⟩
      · have stillOwed :
            needs (step state event) → owed (step state event) := by
          intro lasting
          by_cases before : needs state
          · exact kept.stays state event isValid (isOwed before) settled
              lasting
          · exact kept.arises state event isValid before lasting
        rcases inductionHypothesis (kept.validStep state event isValid)
            stillOwed need with here | earlier
        · exact .inl here
        · exact .inr earlier.cons

/-- A need that a run ends with has arisen at some event and lasted since. -/
theorem exists_arising
    (none : ¬ needs state)
    (events : List ε)
    (need : needs (run step state events)) :
    ∃ earlier event later,
      events = earlier ++ event :: later ∧
        ¬ needs (run step state earlier) ∧
        ∀ before after, later = before ++ after →
          needs (run step state (earlier ++ event :: before)) := by
  induction events using List.reverseRecOn with
  | nil =>
      exact (none need).elim
  | append_singleton events last inductionHypothesis =>
      by_cases before : needs (run step state events)
      · obtain ⟨earlier, event, later, rfl, absent, lasts⟩ :=
          inductionHypothesis before
        refine ⟨earlier, event, later ++ [last], by simp, absent, ?_⟩
        intro front back split
        rcases List.eq_nil_or_concat back with rfl | ⟨middle, item, rfl⟩
        · rw [List.append_nil] at split
          rw [← split]
          simpa using need
        · rw [List.concat_eq_append, ← List.append_assoc] at split
          exact lasts front middle (List.append_inj' split rfl).1
      · refine ⟨events, last, [], rfl, before, ?_⟩
        intro front back split
        obtain ⟨rfl, rfl⟩ := List.append_eq_nil_iff.mp split.symm
        exact need

/-- A run in two parts. -/
theorem run_append (first second : List ε) :
    run step state (first ++ second) =
      run step (run step state first) second := by
  rw [run, run, run, List.foldl_append]

/-- A lasting need is owed, or was settled since it arose. -/
theorem Kept.since_arising
    (kept : Kept step valid needs owed settles)
    (isValid : valid state)
    (none : ¬ needs state)
    (events : List ε)
    (need : needs (run step state events)) :
    ∃ earlier event later,
      events = earlier ++ event :: later ∧
        ¬ needs (run step state earlier) ∧
        (∀ before after, later = before ++ after →
          needs (run step state (earlier ++ event :: before))) ∧
        (owed (run step state events) ∨
          ∃ before last after,
            later = before ++ last :: after ∧
              settles (run step state (earlier ++ event :: before)) last) := by
  have valid_run (front : List ε) : valid (run step state front) := by
    induction front using List.reverseRecOn with
    | nil =>
        exact isValid
    | append_singleton front last inductionHypothesis =>
        rw [run_append]
        exact kept.validStep _ last inductionHypothesis
  have parted (earlier : List ε) (event : ε) (later : List ε) :
      run step state (earlier ++ event :: later) =
        run step (run step state (earlier ++ [event])) later := by
    rw [← run_append, List.append_assoc, List.singleton_append]
  obtain ⟨earlier, event, later, rfl, absent, lasts⟩ :=
    exists_arising none events need
  refine ⟨earlier, event, later, rfl, absent, lasts, ?_⟩
  have arisen := lasts [] later rfl
  rw [parted] at need ⊢
  have isOwed : owed (run step state (earlier ++ [event])) := by
    rw [run_append] at arisen ⊢
    exact kept.arises _ event (valid_run earlier) absent arisen
  refine (kept.owed_or_settled (valid_run _) (fun _ => isOwed) later
    need).imp_right ?_
  rintro ⟨before, last, after, split, settled⟩
  refine ⟨before, last, after, split, ?_⟩
  rw [parted]
  exact settled

/-- The same for a need that counts only as long as something lasts. -/
theorem Kept.since_arising_while
    {lasting : σ → Prop}
    (kept :
      Kept step valid (fun state => needs state ∧ lasting state) owed
        settles)
    (ends :
      ∀ state event, ¬ lasting state → ¬ lasting (step state event))
    (isValid : valid state)
    (none : ¬ needs state)
    (events : List ε)
    (need : needs (run step state events))
    (lasts : lasting (run step state events)) :
    ∃ earlier event later,
      events = earlier ++ event :: later ∧
        ¬ needs (run step state earlier) ∧
        (∀ before after, later = before ++ after →
          needs (run step state (earlier ++ event :: before))) ∧
        (owed (run step state events) ∨
          ∃ before last after,
            later = before ++ last :: after ∧
              settles (run step state (earlier ++ event :: before)) last) := by
  have ended_run (state : σ) (ended : ¬ lasting state) (events : List ε) :
      ¬ lasting (run step state events) := by
    induction events generalizing state with
    | nil =>
        exact ended
    | cons event later inductionHypothesis =>
        exact inductionHypothesis _ (ends state event ended)
  obtain ⟨earlier, event, later, rfl, absent, needed, settled⟩ :=
    kept.since_arising isValid (fun both => none both.1) events
      ⟨need, lasts⟩
  refine ⟨earlier, event, later, rfl, fun needsEarlier => ?_,
    fun before after split => (needed before after split).1, settled⟩
  refine absent ⟨needsEarlier, ?_⟩
  by_contra ended
  rw [run_append] at lasts
  exact ended_run _ ended (event :: later) lasts

end Rules

end Obligation
