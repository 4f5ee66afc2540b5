import CamRtsp.Foundation.StepTrace

/-!
# Contracts on the calls of a machine

A contract says which call may come in which phase.  A step of a machine
continues it when the calls of the step are a trace from the phase that the
machine knows to be in, and then the calls of a run are a trace as well.
-/

namespace CallContract

open StepTrace

variable {σ ε κ π : Type}

/-- The calls of a step lead from a known phase to a known phase. -/
def Continues
    (calls : σ → List κ)
    (contract : π → κ → π → Prop)
    (knows : σ → π → Prop)
    (phase : π)
    (before after : σ) : Prop :=
  ∃ made last,
    calls after = calls before ++ made ∧
      Trace contract phase made last ∧ knows after last

namespace Continues

variable {calls : σ → List κ}
variable {contract : π → κ → π → Prop}
variable {knows : σ → π → Prop}
variable {phase last : π}
variable {before between after : σ}

/-- A step without a call. -/
theorem silent
    (same : calls after = calls before)
    (known : knows after phase) :
    Continues calls contract knows phase before after :=
  ⟨[], phase, by rw [same, List.append_nil], .nil phase, known⟩

/-- A step with one call. -/
theorem once
    (call : κ)
    (called : calls after = calls before ++ [call])
    (permitted : contract phase call last)
    (known : knows after last) :
    Continues calls contract knows phase before after :=
  ⟨[call], last, called, .single permitted, known⟩

/-- Two steps, one after the other. -/
theorem trans
    (first : Continues calls contract knows phase before between)
    (second :
      ∀ {middle}, knows between middle →
        Continues calls contract knows middle between after) :
    Continues calls contract knows phase before after := by
  obtain ⟨early, middle, earlyCalls, earlyTrace, known⟩ := first
  obtain ⟨late, last, lateCalls, lateTrace, knownAfter⟩ := second known
  refine ⟨early ++ late, last, ?_, earlyTrace.append lateTrace, knownAfter⟩
  rw [lateCalls, earlyCalls, List.append_assoc]

/-- A run continues what all its steps continue. -/
theorem run
    {step : σ → ε → σ}
    (each :
      ∀ {state phase}, knows state phase → ∀ event,
        Continues calls contract knows phase state (step state event))
    (known : knows before phase)
    (events : List ε) :
    Continues calls contract knows phase before
      (events.foldl step before) := by
  induction events generalizing before phase with
  | nil =>
      exact .silent rfl known
  | cons event later inductionHypothesis =>
      exact (each known event).trans fun known =>
        inductionHypothesis known

/-- A trace of the calls so far goes on to one of all calls. -/
theorem trace_behind
    (continued : Continues calls contract knows phase before after)
    {start : π}
    (opened : Trace contract start (calls before) phase) :
    ∃ last, Trace contract start (calls after) last ∧ knows after last := by
  obtain ⟨made, last, called, trace, known⟩ := continued
  rw [called]
  exact ⟨last, opened.append trace, known⟩

/-- From the first call on the calls are a trace. -/
theorem trace
    (continued : Continues calls contract knows phase before after)
    (none : calls before = []) :
    ∃ last, Trace contract phase (calls after) last ∧ knows after last := by
  apply continued.trace_behind
  rw [none]
  exact .nil phase

end Continues

end CallContract
