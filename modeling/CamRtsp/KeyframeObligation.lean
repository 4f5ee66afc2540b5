import CamRtsp.Foundation.Obligation
import CamRtsp.KeyframeRequests

namespace CamRtsp.Broadcaster

/-!
# The request as an obligation

A viewer that waits for a keyframe is owed a request, and the broadcaster keeps
it until someone takes it.  Capture code goes on from there.
-/

section Requests

variable {broadcaster : Broadcaster}
variable {id : SubscriptionId}
variable {operations : List Operation}

/-- A viewer that waits is owed a request until it is taken. -/
theorem kept_request (id : SubscriptionId) :
    Obligation.Kept step WellFormed (Waiting id)
      (fun broadcaster => broadcaster.state.keyframeRequested = true)
      (fun _ operation => operation = .takeKeyframeRequest) where
  validStep _ operation wellFormed := wellFormed.step operation
  arises broadcaster operation wellFormed none waiting := by
    by_contra notRequested
    exact none
      (waiting_of_waiting_step wellFormed waiting
        (mt (requested_of_startsWaiting wellFormed)
          notRequested))
  stays _ _ _ requested notTaken _ :=
    requested_step requested notTaken

/-- Operations that do not take the request keep it. -/
theorem requested_run
    (requested : broadcaster.state.keyframeRequested = true)
    (notTaken : .takeKeyframeRequest ∉ operations) :
    (broadcaster.run operations).state.keyframeRequested = true := by
  induction operations generalizing broadcaster with
  | nil =>
      exact requested
  | cons operation later inductionHypothesis =>
      rw [List.mem_cons, not_or] at notTaken
      exact inductionHypothesis
        (requested_step requested (Ne.symm notTaken.1))
        notTaken.2

/-- A viewer that starts to wait in a run sets the request. -/
theorem requested_of_waiting_run
    (wellFormed : broadcaster.WellFormed)
    (none : ¬ Waiting id broadcaster)
    (notTaken : .takeKeyframeRequest ∉ operations)
    (waiting : Waiting id (broadcaster.run operations)) :
    (broadcaster.run operations).state.keyframeRequested = true := by
  rcases (kept_request id).owed_or_settled wellFormed
      (fun waits => (none waits).elim) operations waiting with
    requested | ⟨before, operation, after, split, taken⟩
  · exact requested
  · refine (notTaken ?_).elim
    rw [split, taken]
    simp

/-- Behind a keyframe nobody waits. -/
theorem not_waiting_of_keyframe
    (wellFormed : broadcaster.WellFormed)
    {accessUnit : EncodedAccessUnit}
    (isKeyframe : IsKeyframe accessUnit)
    (now : Instant) :
    ¬ Waiting id (broadcaster.step (.publish accessUnit now)) := by
  intro waiting
  rcases alive_of_alive_step wellFormed waiting.1 with
    isAlive | ⟨isSubscribe, _⟩
  · have known := known_of_alive isAlive
    have waits := (waiting_iff.mp waiting).2
    have isKey :
        decide
          (IsKeyframe
            (completed broadcaster.state.codec accessUnit)) =
          true :=
      decide_eq_true (isKeyframe_completed.mpr isKeyframe)
    rw [viewerQueue_step wellFormed known] at waits
    simp [viewerInput, isAlive, ResyncQueue.Queue.apply,
      isKey] at waits
  · cases isSubscribe

end Requests

end CamRtsp.Broadcaster
