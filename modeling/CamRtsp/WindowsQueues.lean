import CamRtsp.Foundation.BoundedQueue
import CamRtsp.WindowsTransform

namespace CamRtsp.Windows

open RustText StepTrace BoundedQueue

/-!
# The queues of the Windows capture worker

Captured samples and encoder events pass bounded queues in order, a sample is
encoded at most once, and each gap that a full sample queue leaves in the
stream is answered by an attempt to force a keyframe before the worker has
taken two more samples.
-/

/-! ## The calls of a step -/

namespace Capture

/-- The call that the worker makes next. -/
def callAt (capture : Capture) (response : Response) : Option Call :=
  match capture.position with
  | .discontinuityCheck =>
      if capture.discontinuity then
        some (.forced false (capture.mode.requestKeyframe response.forced))
      else
        none
  | .commandCheck =>
      if capture.commands.head? = some .requestKeyframe then
        some (.forced true (capture.mode.requestKeyframe response.forced))
      else
        none
  | .receive => capture.samples.head?.map .received
  | .pump next =>
      match capture.events, next with
      | event :: _, _ => some (.pumped event)
      | [], .input sample =>
          if capture.needsInput then none else some (.skipped sample)
      | [], _ => none
  | .produceOutput _ => some (.output response.output)
  | .drain _ => some (.output response.output)
  | .processInput sample _ => some (.input sample response.input)
  | .send messages _ => messages.head?.map .message
  | _ => none

/-- The worker makes one call in a step, or none. -/
theorem log_work (capture : Capture) (response : Response) :
    (capture.work response).log =
      capture.log ++ (capture.callAt response).toList := by
  have log_failPumping
      (next : Pumping) (after : Capture) (message : Text) :
      (failPumping next after message).log = after.log := by
    cases next <;> rfl
  cases here : capture.position with
  | pump next =>
      simp only [work, callAt, here, pump]
      cases capture.events with
      | nil =>
          cases next with
          | input sample =>
              simp only
              split <;> simp [goto, note]
          | consumed =>
              simp [goto]
          | shutdown result =>
              simp [endHardware, goto]
      | cons event later =>
          cases event with
          | failure message =>
              exact log_failPumping _ _ _
          | _ =>
              rfl
  | produceOutput next =>
      simp only [work, callAt, here, produceOutput, publishSample]
      cases response.output with
      | produced header sample =>
          simp only
          split
          · rfl
          · exact log_failPumping _ _ _
      | nothing =>
          rfl
      | needMoreInput message =>
          exact log_failPumping _ _ _
      | failed message =>
          exact log_failPumping _ _ _
  | drain next =>
      simp only [work, callAt, here, drain, publishSample]
      cases response.output with
      | produced header sample =>
          simp only
          split
          · rfl
          · exact log_failDraining _ _ _
      | nothing =>
          rfl
      | needMoreInput message =>
          cases next <;> rfl
      | failed message =>
          exact log_failDraining _ _ _
  | processInput sample mayRetry =>
      simp only [work, callAt, here, processInput]
      split
      · split <;> simp_all [goto, note]
      · split <;> simp_all [goto, note]
      · simp_all [goto, note]
  | discontinuityCheck =>
      cases gap : capture.discontinuity <;>
        simp [work, callAt, here, gap, goto, force, note]
  | commandCheck =>
      simp only [work, callAt, here]
      split
      · rename_i empty
        simp [empty, goto]
      · rename_i stopped
        simp [stopped, goto]
      · rename_i requested
        simp [requested, goto, force, note]
  | receive =>
      simp only [work, callAt, here]
      cases capture.samples with
      | nil =>
          simp [goto]
      | cons sample later =>
          rfl
  | consume sample =>
      simp only [work, callAt, here]
      split
      · simp [publish, goto]
      · simp [goto]
      · simp [goto]
  | failureCheck =>
      simp only [work, callAt, here]
      split <;> simp [goto]
  | leave result =>
      simp [work, callAt, here, goto]
  | send messages next =>
      cases messages <;> simp [work, callAt, here, send, goto, note]
  | ended result =>
      simp [work, callAt, here]

/-- What a step of the worker does to the queues and the flag. -/
structure QueuesAfter (before after : Capture) : Prop where
  samples :
    after.samples =
      match before.position with
      | .receive => before.samples.tail
      | _ => before.samples
  events :
    after.events =
      match before.position with
      | .pump _ => before.events.tail
      | _ => before.events
  discontinuity :
    after.discontinuity =
      match before.position with
      | .discontinuityCheck => false
      | _ => before.discontinuity

/-- Each place of the loop touches its own queue or flag. -/
theorem queues_work (capture : Capture) (response : Response) :
    QueuesAfter capture (capture.work response) := by
  have queues_failPumping
      (next : Pumping) (after : Capture) (message : Text) :
      (failPumping next after message).samples = after.samples ∧
        (failPumping next after message).events = after.events ∧
          (failPumping next after message).discontinuity =
            after.discontinuity := by
    cases next <;> exact ⟨rfl, rfl, rfl⟩
  have queues_failDraining
      (next : Draining) (after : Capture) (message : Text) :
      (failDraining next after message).samples = after.samples ∧
        (failDraining next after message).events = after.events ∧
          (failDraining next after message).discontinuity =
            after.discontinuity := by
    cases next <;> exact ⟨rfl, rfl, rfl⟩
  cases here : capture.position with
  | pump next =>
      cases waiting : capture.events with
      | nil =>
          cases next with
          | input sample =>
              constructor <;> simp only [work, here, pump, waiting] <;>
                split <;> simp [goto, note, waiting]
          | consumed =>
              constructor <;> simp [work, here, pump, waiting, goto]
          | shutdown result =>
              constructor <;>
                simp [work, here, pump, waiting, endHardware, goto]
      | cons event later =>
          cases event with
          | failure message =>
              constructor <;>
                simp [work, here, pump, waiting, queues_failPumping, note]
          | needInput | haveOutput =>
              constructor <;> simp [work, here, pump, waiting, note, goto]
  | produceOutput next =>
      constructor <;> simp only [work, here, produceOutput, publishSample] <;>
        split <;> simp [queues_failPumping, note, goto, publish] <;>
        split <;> simp [queues_failPumping]
  | drain next =>
      constructor <;> simp only [work, here, drain, publishSample] <;>
        split <;> simp [queues_failDraining, note, goto, publish] <;>
        split <;> simp [queues_failDraining]
  | processInput sample mayRetry =>
      constructor <;> simp only [work, here, processInput] <;>
        split <;> simp [note, goto] <;> split <;> rfl
  | consume sample =>
      constructor <;> simp only [work, here] <;> split <;>
        simp [goto, publish]
  | failureCheck =>
      constructor <;> simp only [work, here] <;> split <;> simp [goto]
  | discontinuityCheck =>
      cases gap : capture.discontinuity <;> constructor <;>
        simp [work, here, gap, goto, force, note]
  | commandCheck =>
      constructor <;> simp only [work, here] <;> split <;>
        simp [goto, force, note]
  | receive =>
      cases waiting : capture.samples <;> constructor <;>
        simp [work, here, waiting, goto, note]
  | leave result =>
      constructor <;> simp [work, here, goto]
  | send messages next =>
      cases messages <;> constructor <;>
        simp [work, here, send, goto, note]
  | ended result =>
      constructor <;> simp [work, here]

end Capture

/-- The sample that the worker has received and not yet handled. -/
def Position.inHand : Position → Option CapturedSample
  | .consume sample => some sample
  | .pump (.input sample) => some sample
  | .produceOutput (.input sample) => some sample
  | .drain (.input sample) => some sample
  | .drain (.retry sample) => some sample
  | .processInput sample _ => some sample
  | _ => none

/-- The worker is behind the check of the flag and has received nothing. -/
def Position.isBehindCheck : Position → Bool
  | .commandCheck => true
  | .receive => true
  | _ => false

namespace Capture

/-- Where a step of the worker leads. -/
structure PositionAfter
    (before after : Capture)
    (response : Response) : Prop where
  received :
    before.position = .receive →
      after.position.inHand = before.samples.head?
  kept :
    before.position ≠ .receive →
      after.position.inHand = none ∨
        after.position.inHand = before.position.inHand
  handled :
    ∀ sample mayRetry,
      before.position = .processInput sample mayRetry →
        response.input = .accepted → after.position.inHand = none
  checked :
    after.position.isBehindCheck = true →
      before.position = .discontinuityCheck ∨
        before.position = .commandCheck

/-- The worker goes on with what is in hand, or with nothing. -/
def Onward (before after : Capture) : Prop :=
  (after.position.inHand = none ∨
      after.position.inHand = before.position.inHand) ∧
    after.position.isBehindCheck = false

/-- A failure leads out of the loop. -/
theorem onward_failure (before after : Capture) (message : Text) :
    (∀ next : Pumping, Onward before (failPumping next after message)) ∧
      ∀ next : Draining,
        Onward before (failDraining next after message) := by
  constructor
  · intro next
    cases next <;> exact ⟨.inl rfl, rfl⟩
  · intro next
    cases next <;> exact ⟨.inl rfl, rfl⟩

/-- A step that neither receives nor submits. -/
theorem PositionAfter.of_onward
    {before after : Capture}
    {response : Response}
    (notReceive : before.position ≠ .receive)
    (notInput :
      ∀ sample mayRetry, before.position ≠ .processInput sample mayRetry)
    (onward : Onward before after) :
    PositionAfter before after response where
  received here := (notReceive here).elim
  kept _ := onward.1
  handled sample mayRetry here := (notInput sample mayRetry here).elim
  checked behind := by
    rw [onward.2] at behind
    cases behind

/-- Every step of the worker leads where it should. -/
theorem position_work (capture : Capture) (response : Response) :
    PositionAfter capture (capture.work response) response := by
  cases here : capture.position with
  | pump next =>
      apply PositionAfter.of_onward (by simp [here]) (by simp [here])
      simp only [work, here, pump]
      cases capture.events with
      | nil =>
          cases next with
          | input sample =>
              simp only
              split
              · exact ⟨.inr (by rw [here]; rfl), rfl⟩
              · exact ⟨.inl rfl, rfl⟩
          | consumed | shutdown =>
              exact ⟨.inl rfl, rfl⟩
      | cons event later =>
          cases event with
          | needInput =>
              exact ⟨.inr rfl, by
                change capture.position.isBehindCheck = false
                rw [here]
                rfl⟩
          | haveOutput =>
              exact ⟨.inr (by rw [here]; cases next <;> rfl), rfl⟩
          | failure message =>
              exact (onward_failure _ _ _).1 next
  | produceOutput next =>
      apply PositionAfter.of_onward (by simp [here]) (by simp [here])
      have again (after : Capture) :
          Onward capture (after.goto (.pump next)) :=
        ⟨.inr (by rw [here]; cases next <;> rfl), rfl⟩
      simp only [work, here, produceOutput, publishSample]
      cases response.output with
      | produced header sample =>
          simp only
          split
          · exact again _
          · exact (onward_failure _ _ _).1 next
      | nothing =>
          exact again _
      | needMoreInput message | failed message =>
          exact (onward_failure _ _ _).1 next
  | drain next =>
      apply PositionAfter.of_onward (by simp [here]) (by simp [here])
      simp only [work, here, drain, publishSample]
      cases response.output with
      | produced header sample =>
          simp only
          split
          · exact ⟨.inr (by rw [here]; rfl), rfl⟩
          · exact (onward_failure _ _ _).2 next
      | nothing =>
          exact ⟨.inr rfl, by
            change capture.position.isBehindCheck = false
            rw [here]
            rfl⟩
      | needMoreInput message =>
          cases next with
          | input | retry =>
              exact ⟨.inr (by rw [here]; rfl), rfl⟩
          | consumed | shutdown =>
              exact ⟨.inl rfl, rfl⟩
      | failed message =>
          exact (onward_failure _ _ _).2 next
  | processInput sample mayRetry =>
      have notBehind :
          (capture.work response).position.isBehindCheck = false := by
        simp only [work, here, processInput]
        split
        · split <;> rfl
        · split <;> rfl
        · rfl
      refine ⟨by simp [here], ?_, ?_, ?_⟩
      · intro _
        rw [here]
        simp only [work, here, processInput]
        split
        · split <;> exact .inl rfl
        · split
          · exact .inr rfl
          · exact .inl rfl
        · exact .inl rfl
      · intro _ _ _ accepted
        simp only [work, here, processInput, accepted]
        split <;> rfl
      · intro behind
        rw [notBehind] at behind
        cases behind
  | consume sample =>
      apply PositionAfter.of_onward (by simp [here]) (by simp [here])
      simp only [work, here]
      split
      · refine ⟨.inl ?_, ?_⟩ <;> simp only [goto] <;> split <;> rfl
      · exact ⟨.inr (by rw [here]; rfl), rfl⟩
      · exact ⟨.inr (by rw [here]; rfl), rfl⟩
  | failureCheck =>
      apply PositionAfter.of_onward (by simp [here]) (by simp [here])
      simp only [work, here]
      split <;> exact ⟨.inl rfl, rfl⟩
  | discontinuityCheck =>
      refine ⟨by simp [here], ?_, by simp [here], fun _ => .inl here⟩
      intro _
      cases gap : capture.discontinuity <;>
        simp [work, here, gap, goto, force, note, Position.inHand]
  | commandCheck =>
      refine ⟨by simp [here], ?_, by simp [here], fun _ => .inr here⟩
      intro _
      left
      simp only [work, here]
      split <;> rfl
  | receive =>
      refine ⟨?_, by simp [here], by simp [here], ?_⟩
      · intro _
        cases waiting : capture.samples <;>
          simp [work, here, waiting, goto, Position.inHand]
      · intro behind
        cases waiting : capture.samples <;>
          simp [work, here, waiting, goto, Position.isBehindCheck]
            at behind
  | leave result =>
      apply PositionAfter.of_onward (by simp [here]) (by simp [here])
      simp only [work, here]
      split <;> exact ⟨.inl rfl, rfl⟩
  | send messages next =>
      apply PositionAfter.of_onward (by simp [here]) (by simp [here])
      simp only [work, here, send]
      cases messages with
      | nil =>
          cases next <;> exact ⟨.inl rfl, rfl⟩
      | cons message later =>
          exact ⟨.inl rfl, rfl⟩
  | ended result =>
      apply PositionAfter.of_onward (by simp [here]) (by simp [here])
      simp only [work, here]
      exact ⟨.inr rfl, by rw [here]; rfl⟩

/-- What other threads do to the queues. -/
inductive Aside (before after : Capture) : Prop where
  | nothing
      (samples : after.samples = before.samples)
      (events : after.events = before.events)
      (discontinuity : after.discontinuity = before.discontinuity)
      (log : after.log = before.log)
  | queued
      (sample : CapturedSample)
      (room : before.samples.length < captureQueueCapacity)
      (samples : after.samples = before.samples ++ [sample])
      (events : after.events = before.events)
      (discontinuity : after.discontinuity = before.discontinuity)
      (log : after.log = before.log ++ [.queued sample])
  | dropped
      (sample : CapturedSample)
      (samples : after.samples = before.samples)
      (events : after.events = before.events)
      (discontinuity : after.discontinuity = true)
      (log : after.log = before.log ++ [.dropped sample])
  | raised
      (event : TransformEvent)
      (samples : after.samples = before.samples)
      (events : after.events = before.events)
      (discontinuity : after.discontinuity = before.discontinuity)
      (log : after.log = before.log ++ [.raised event])
  | delivered
      (event : TransformEvent)
      (room : before.events.length < eventQueueCapacity)
      (samples : after.samples = before.samples)
      (events : after.events = before.events ++ [event])
      (discontinuity : after.discontinuity = before.discontinuity)
      (log :
        after.log = before.log ++ [.raised event, .queuedEvent event])
  | reported
      (message : Text)
      (room : before.events.length < eventQueueCapacity)
      (samples : after.samples = before.samples)
      (events : after.events = before.events ++ [.failure message])
      (discontinuity : after.discontinuity = before.discontinuity)
      (log : after.log = before.log ++ [.queuedEvent (.failure message)])

/-- Other threads put into the queues and take nothing out. -/
theorem work_or_aside (event : Event) :
    (∃ response, event = .work response) ∨
      ∀ capture : Capture, Aside capture (capture.step event) := by
  cases event with
  | work response =>
      exact .inl ⟨response, rfl⟩
  | outside operation =>
      refine .inr fun capture => ?_
      simp only [step]
      split <;> exact .nothing rfl rfl rfl rfl
  | poll =>
      refine .inr fun capture => ?_
      simp only [step]
      split <;> exact .nothing rfl rfl rfl rfl
  | requestKeyframe =>
      refine .inr fun capture => ?_
      simp only [step, Capture.requestKeyframe]
      split <;> exact .nothing rfl rfl rfl rfl
  | stop =>
      refine .inr fun capture => ?_
      simp only [step, Capture.stop]
      split <;> exact .nothing rfl rfl rfl rfl
  | readFailed message =>
      refine .inr fun capture => ?_
      simp only [step]
      split <;> exact .nothing rfl rfl rfl rfl
  | readSample outcome =>
      refine .inr fun capture => ?_
      simp only [step, onReadSample]
      split
      · split
        · exact .nothing rfl rfl rfl rfl
        · exact .nothing rfl rfl rfl rfl
        · exact .nothing rfl rfl rfl rfl
        · rename_i sample
          split
          · rename_i room
            exact .queued sample room rfl rfl rfl rfl
          · exact .dropped sample rfl rfl rfl rfl
      · exact .nothing rfl rfl rfl rfl
  | invoke event =>
      refine .inr fun capture => ?_
      simp only [step, Capture.invoke, trySend]
      split
      · split
        · rename_i room
          exact .delivered event room rfl rfl rfl (by simp [note])
        · exact .raised event rfl rfl rfl rfl
      · exact .nothing rfl rfl rfl rfl
  | reportOverflow =>
      refine .inr fun capture => ?_
      simp only [step, Capture.reportOverflow, trySend]
      split
      · split
        · rename_i room
          exact .reported _ room rfl rfl rfl rfl
        · exact .nothing rfl rfl rfl rfl
      · exact .nothing rfl rfl rfl rfl

end Capture

/-! ## Samples and events in order -/

namespace Call

/-- The sample that was queued. -/
def queued? : Call → Option CapturedSample
  | .queued sample => some sample
  | _ => none

/-- The sample that the worker received. -/
def received? : Call → Option CapturedSample
  | .received sample => some sample
  | _ => none

/-- The sample that the encoder accepted. -/
def encoded? : Call → Option CapturedSample
  | .input sample .accepted => some sample
  | _ => none

/-- The event that the encoder raised. -/
def raised? : Call → Option TransformEvent
  | .raised event => some event
  | _ => none

/-- The event that was queued. -/
def queuedEvent? : Call → Option TransformEvent
  | .queuedEvent event => some event
  | _ => none

/-- The event that the worker took. -/
def pumped? : Call → Option TransformEvent
  | .pumped event => some event
  | _ => none

end Call

/-- The encoder asks for something. -/
def TransformEvent.isRequest : TransformEvent → Bool
  | .failure _ => false
  | _ => true

/-- The queues keep the order, and a sample is encoded once at most. -/
structure Orderly (capture : Capture) : Prop where
  samples :
    Fifo Call.queued? Call.received? captureQueueCapacity capture.log
      capture.samples
  encoded :
    (capture.log.filterMap Call.encoded? ++
        capture.position.inHand.toList).Sublist
      (capture.log.filterMap Call.received?)
  events :
    Fifo Call.queuedEvent? Call.pumped? eventQueueCapacity capture.log
      capture.events
  raised :
    ((capture.log.filterMap Call.queuedEvent?).filter
        TransformEvent.isRequest).Sublist
      ((capture.log.filterMap Call.raised?).filter
        TransformEvent.isRequest)

section Orders

variable {before after : Capture}

/-- A call that is about other things keeps what was encoded in order. -/
theorem encoded_append
    {log : List Call}
    {hand : List CapturedSample}
    {call : Call}
    (encoded :
      (log.filterMap Call.encoded? ++ hand).Sublist
        (log.filterMap Call.received?))
    (notEncoded : call.encoded? = none) :
    ((log ++ [call]).filterMap Call.encoded? ++ hand).Sublist
      ((log ++ [call]).filterMap Call.received?) := by
  rw [List.filterMap_append, List.filterMap_append]
  simp only [List.filterMap_cons, notEncoded, List.filterMap_nil,
    List.append_nil]
  exact encoded.trans (List.sublist_append_left _ _)

/-- A call that is about other things keeps the events in order. -/
theorem raised_append
    {log : List Call}
    {call : Call}
    (raised :
      ((log.filterMap Call.queuedEvent?).filter
          TransformEvent.isRequest).Sublist
        ((log.filterMap Call.raised?).filter TransformEvent.isRequest))
    (notQueued :
      ∀ event, call.queuedEvent? = some event →
        event.isRequest = false) :
    (((log ++ [call]).filterMap Call.queuedEvent?).filter
        TransformEvent.isRequest).Sublist
      (((log ++ [call]).filterMap Call.raised?).filter
        TransformEvent.isRequest) := by
  rw [List.filterMap_append, List.filterMap_append, List.filter_append,
    List.filter_append]
  refine raised.append ?_
  cases isQueued : call.queuedEvent? with
  | none =>
      simp [isQueued]
  | some event =>
      simp [isQueued, notQueued event isQueued]

/-- Other threads keep the order. -/
theorem Orderly.aside
    (orderly : Orderly before)
    (aside : Capture.Aside before after)
    (position : after.position = before.position) :
    Orderly after := by
  obtain ⟨samples, encoded, events, raised⟩ := orderly
  rw [← position] at encoded
  cases aside with
  | nothing sameSamples sameEvents _ sameLog =>
      exact ⟨by rw [sameLog, sameSamples]; exact samples,
        by rw [sameLog]; exact encoded,
        by rw [sameLog, sameEvents]; exact events,
        by rw [sameLog]; exact raised⟩
  | queued sample room moreSamples sameEvents _ moreLog =>
      rw [← sameEvents] at events
      refine ⟨?_, ?_, ?_, ?_⟩ <;> rw [moreLog]
      · rw [moreSamples]
        exact samples.put rfl rfl room
      · exact encoded_append encoded rfl
      · exact events.skip rfl rfl
      · exact raised_append raised nofun
  | dropped sample sameSamples sameEvents _ moreLog =>
      rw [← sameSamples] at samples
      rw [← sameEvents] at events
      refine ⟨?_, ?_, ?_, ?_⟩ <;> rw [moreLog]
      · exact samples.skip rfl rfl
      · exact encoded_append encoded rfl
      · exact events.skip rfl rfl
      · exact raised_append raised nofun
  | raised event sameSamples sameEvents _ moreLog =>
      rw [← sameSamples] at samples
      rw [← sameEvents] at events
      refine ⟨?_, ?_, ?_, ?_⟩ <;> rw [moreLog]
      · exact samples.skip rfl rfl
      · exact encoded_append encoded rfl
      · exact events.skip rfl rfl
      · exact raised_append raised nofun
  | delivered event room sameSamples moreEvents _ moreLog =>
      rw [← sameSamples] at samples
      have parted := moreLog
      rw [List.append_cons] at parted
      refine ⟨?_, ?_, ?_, ?_⟩
      · rw [parted]
        exact (samples.skip rfl rfl).skip rfl rfl
      · rw [parted]
        exact encoded_append (encoded_append encoded rfl) rfl
      · rw [parted, moreEvents]
        exact (events.skip rfl rfl).put rfl rfl room
      · rw [moreLog, List.filterMap_append, List.filterMap_append,
          List.filter_append, List.filter_append]
        exact raised.append (.refl _)
  | reported message room sameSamples moreEvents _ moreLog =>
      rw [← sameSamples] at samples
      refine ⟨?_, ?_, ?_, ?_⟩ <;> rw [moreLog]
      · exact samples.skip rfl rfl
      · exact encoded_append encoded rfl
      · rw [moreEvents]
        exact events.put rfl rfl room
      · refine raised_append raised ?_
        intro event isQueued
        cases isQueued
        rfl

/-- The call is about no queue and not accepted by the encoder. -/
structure Call.Silent (call : Call) : Prop where
  queued : call.queued? = none
  received : call.received? = none
  queuedEvent : call.queuedEvent? = none
  pumped : call.pumped? = none
  encoded : call.encoded? = none

/-- Before its first step the worker has only sent messages. -/
theorem orderly_started
    (mode : PipelineMode)
    (broadcaster : Broadcaster) :
    Orderly (Capture.started mode broadcaster) := by
  cases mode <;>
    exact ⟨.empty rfl rfl, .slnil, .empty rfl rfl, .slnil⟩

/-- What is in hand stays in hand, or is let go. -/
theorem encoded_hand
    {done all : List CapturedSample}
    {hand later : Option CapturedSample}
    (encoded : (done ++ hand.toList).Sublist all)
    (kept : later = none ∨ later = hand) :
    (done ++ later.toList).Sublist all := by
  rcases kept with rfl | rfl
  · rw [Option.toList_none, List.append_nil]
    exact (List.sublist_append_left _ _).trans encoded
  · exact encoded

/-- A step that is about no queue keeps the order. -/
theorem Orderly.skip
    (orderly : Orderly before)
    (call : Option Call)
    (log : after.log = before.log ++ call.toList)
    (silent : ∀ made ∈ call, made.Silent)
    (samples : after.samples = before.samples)
    (events : after.events = before.events)
    (kept :
      after.position.inHand = none ∨
        after.position.inHand = before.position.inHand) :
    Orderly after := by
  have hand := encoded_hand orderly.encoded kept
  cases call with
  | none =>
      rw [Option.toList_none, List.append_nil] at log
      exact ⟨by rw [log, samples]; exact orderly.samples,
        by rw [log]; exact hand,
        by rw [log, events]; exact orderly.events,
        by rw [log]; exact orderly.raised⟩
  | some made =>
      obtain ⟨queued, received, queuedEvent, pumped, notEncoded⟩ :=
        silent made rfl
      rw [Option.toList_some] at log
      refine ⟨?_, ?_, ?_, ?_⟩
      · rw [log, samples]
        exact orderly.samples.skip queued received
      · rw [log]
        exact encoded_append hand notEncoded
      · rw [log, events]
        exact orderly.events.skip queuedEvent pumped
      · rw [log]
        refine raised_append orderly.raised fun event isQueued => ?_
        rw [queuedEvent] at isQueued
        cases isQueued

/-- At most places of the loop no queue is touched. -/
theorem silent_callAt
    {capture : Capture}
    {response : Response}
    (notReceive : capture.position ≠ .receive)
    (notPump : ∀ next, capture.position ≠ .pump next)
    (notInput :
      ∀ sample mayRetry,
        capture.position ≠ .processInput sample mayRetry) :
    ∀ made ∈ capture.callAt response, made.Silent := by
  intro made isMade
  cases here : capture.position with
  | receive =>
      exact (notReceive here).elim
  | pump next =>
      exact (notPump next here).elim
  | processInput sample mayRetry =>
      exact (notInput sample mayRetry here).elim
  | discontinuityCheck | commandCheck =>
      simp only [Capture.callAt, here] at isMade
      split at isMade
      · cases isMade
        exact ⟨rfl, rfl, rfl, rfl, rfl⟩
      · cases isMade
  | produceOutput next | drain next =>
      simp only [Capture.callAt, here] at isMade
      cases isMade
      exact ⟨rfl, rfl, rfl, rfl, rfl⟩
  | send messages next =>
      simp only [Capture.callAt, here] at isMade
      obtain ⟨message, _, rfl⟩ := Option.map_eq_some_iff.mp isMade
      exact ⟨rfl, rfl, rfl, rfl, rfl⟩
  | failureCheck | consume | leave | ended =>
      simp only [Capture.callAt, here] at isMade
      cases isMade

/-- The worker keeps the order. -/
theorem Orderly.work
    (orderly : Orderly before)
    (response : Response) :
    Orderly (before.work response) := by
  have queues := before.queues_work response
  have positions := before.position_work response
  have log := before.log_work response
  cases here : before.position with
  | receive =>
      have hand := positions.received here
      have samples := queues.samples
      have events := queues.events
      rw [here] at samples events
      simp only [Capture.callAt, here] at log
      cases waiting : before.samples with
      | nil =>
          rw [waiting] at log samples hand
          refine orderly.skip _ log nofun ?_ events (.inl hand)
          rw [samples, waiting]
          rfl
      | cons sample later =>
          rw [waiting] at log samples hand
          have queue := orderly.samples
          have encoded := orderly.encoded
          rw [waiting] at queue
          simp only [List.head?_cons, Option.map_some,
            Option.toList_some] at log hand
          refine ⟨?_, ?_, ?_, ?_⟩
          · rw [log, samples]
            exact queue.take rfl rfl
          · have done := (List.sublist_append_left _ _).trans encoded
            rw [log, hand, List.filterMap_append, List.filterMap_append]
            change ((_ ++ []) ++ [sample]).Sublist (_ ++ [sample])
            rw [List.append_nil]
            exact done.append (.refl [sample])
          · rw [log, events]
            exact orderly.events.skip rfl rfl
          · rw [log]
            exact raised_append orderly.raised nofun
  | pump next =>
      have hand := positions.kept (by simp [here])
      have samples := queues.samples
      have events := queues.events
      rw [here] at samples events
      simp only [Capture.callAt, here] at log
      cases waiting : before.events with
      | nil =>
          rw [waiting] at log events
          refine orderly.skip _ log ?_ samples ?_ hand
          · intro made isMade
            cases next with
            | input sample =>
                simp only at isMade
                split at isMade
                · cases isMade
                · cases isMade
                  exact ⟨rfl, rfl, rfl, rfl, rfl⟩
            | consumed | shutdown =>
                cases isMade
          · rw [events, waiting]
            rfl
      | cons event later =>
          rw [waiting] at log events
          have queue := orderly.events
          rw [waiting] at queue
          rw [Option.toList_some] at log
          refine ⟨?_, ?_, ?_, ?_⟩
          · rw [log, samples]
            exact orderly.samples.skip rfl rfl
          · rw [log]
            exact encoded_append (encoded_hand orderly.encoded hand) rfl
          · rw [log, events]
            exact queue.take rfl rfl
          · rw [log]
            exact raised_append orderly.raised nofun
  | processInput sample mayRetry =>
      have hand := positions.kept (by simp [here])
      have samples := queues.samples
      have events := queues.events
      rw [here] at samples events
      simp only [Capture.callAt, here, Option.toList_some] at log
      cases accepted : response.input with
      | accepted =>
          have handled := positions.handled sample mayRetry here accepted
          have encoded := orderly.encoded
          rw [here] at encoded
          rw [accepted] at log
          refine ⟨?_, ?_, ?_, ?_⟩
          · rw [log, samples]
            exact orderly.samples.skip rfl rfl
          · rw [log, handled, List.filterMap_append,
              List.filterMap_append]
            change ((_ ++ [sample]) ++ []).Sublist (_ ++ [])
            rw [List.append_nil, List.append_nil]
            exact encoded
          · rw [log, events]
            exact orderly.events.skip rfl rfl
          · rw [log]
            exact raised_append orderly.raised nofun
      | notAccepting message | failed message =>
          rw [accepted] at log
          refine orderly.skip (some _) log ?_ samples events hand
          intro made isMade
          cases isMade
          exact ⟨rfl, rfl, rfl, rfl, rfl⟩
  | _ =>
      have hand := positions.kept (by simp [here])
      have samples := queues.samples
      have events := queues.events
      rw [here] at samples events
      refine orderly.skip _ log ?_ samples events hand
      exact silent_callAt (by simp [here]) (by simp [here])
        (by simp [here])

end Orders

/-! ## Gaps in the stream -/

/--
A gap in the captured stream: none that is not answered, one behind which
nothing has been received, or one behind which one sample has been received.
-/
inductive Gap where
  | closed
  | fresh
  | late
  deriving DecidableEq

/-- Another sample is dropped. -/
def Gap.widened : Gap → Gap
  | .closed => .fresh
  | gap => gap

/-- The call opens, delays or answers a gap. -/
def Call.concernsGap : Call → Bool
  | .dropped _ => true
  | .received _ => true
  | .forced false _ => true
  | _ => false

/-- A gap is answered before a second sample is received. -/
inductive GapAnswer : Gap → Call → Gap → Prop where
  | dropped (gap : Gap) (sample : CapturedSample) :
      GapAnswer gap (.dropped sample) gap.widened
  | received (sample : CapturedSample) :
      GapAnswer .closed (.received sample) .closed
  | receivedOnce (sample : CapturedSample) :
      GapAnswer .fresh (.received sample) .late
  | answered
      (gap : Gap)
      (isOpen : gap ≠ .closed)
      (result : Except Text Unit) :
      GapAnswer gap (.forced false result) .closed

/-- The flag says whether there is a gap, and a late one is answered next. -/
structure GapAt (capture : Capture) (gap : Gap) : Prop where
  flag : gap = .closed ↔ capture.discontinuity = false
  late : gap = .late → capture.position.isBehindCheck = false

/-- The gaps of a run are answered in time. -/
def AnswersGaps (capture : Capture) : Prop :=
  ∃ gap,
    Trace GapAnswer .closed (capture.log.filter Call.concernsGap) gap ∧
      GapAt capture gap

section Gaps

variable {before after : Capture}

/-- Before the first step there is no gap. -/
theorem answersGaps_started
    (mode : PipelineMode)
    (broadcaster : Broadcaster) :
    AnswersGaps (Capture.started mode broadcaster) := by
  cases mode <;>
    exact ⟨.closed, .nil _, ⟨fun _ => rfl, fun _ => rfl⟩, nofun⟩

/-- Calls about other things leave the gaps alone. -/
theorem AnswersGaps.skip
    (answers : AnswersGaps before)
    (calls :
      after.log.filter Call.concernsGap =
        before.log.filter Call.concernsGap)
    (flag : after.discontinuity = before.discontinuity)
    (checked :
      after.position.isBehindCheck = true →
        before.position.isBehindCheck = true) :
    AnswersGaps after := by
  obtain ⟨gap, trace, known⟩ := answers
  refine ⟨gap, by rw [calls]; exact trace, ?_, ?_⟩
  · rw [flag]
    exact known.flag
  · intro isLate
    have notBehind := known.late isLate
    by_contra behind
    rw [checked (Bool.eq_true_of_not_eq_false behind)] at notBehind
    cases notBehind

/-- A call about a gap. -/
theorem AnswersGaps.call
    {gap last : Gap}
    {made : Call}
    (trace :
      Trace GapAnswer .closed (before.log.filter Call.concernsGap) gap)
    (log : after.log = before.log ++ [made])
    (concerns : made.concernsGap = true)
    (permitted : GapAnswer gap made last)
    (known : GapAt after last) :
    AnswersGaps after := by
  refine ⟨last, ?_, known⟩
  rw [log, List.filter_append, List.filter_cons_of_pos concerns]
  exact trace.append (.single permitted)

/-- Other threads only open gaps. -/
theorem AnswersGaps.aside
    (answers : AnswersGaps before)
    (aside : Capture.Aside before after)
    (position : after.position = before.position) :
    AnswersGaps after := by
  have checked :
      after.position.isBehindCheck = true →
        before.position.isBehindCheck = true := by
    rw [position]
    exact id
  cases aside with
  | nothing _ _ flag log =>
      exact answers.skip (by rw [log]) flag checked
  | queued sample _ _ _ flag log =>
      exact answers.skip (by simp [log, Call.concernsGap]) flag checked
  | dropped sample _ _ flag log =>
      obtain ⟨gap, trace, known⟩ := answers
      refine .call trace log rfl (.dropped gap sample) ⟨?_, ?_⟩
      · rw [flag]
        cases gap <;> simp [Gap.widened]
      · rw [position]
        intro isLate
        apply known.late
        cases gap <;> first | rfl | cases isLate
  | raised event _ _ flag log =>
      exact answers.skip (by simp [log, Call.concernsGap]) flag checked
  | delivered event _ _ _ flag log =>
      exact answers.skip (by simp [log, Call.concernsGap]) flag checked
  | reported message _ _ _ flag log =>
      exact answers.skip (by simp [log, Call.concernsGap]) flag checked

/-- Only two places of the loop have to do with gaps. -/
theorem concernsGap_callAt
    {capture : Capture}
    (response : Response)
    (notReceive : capture.position ≠ .receive)
    (notCheck : capture.position ≠ .discontinuityCheck) :
    ∀ made ∈ capture.callAt response, made.concernsGap = false := by
  intro made isMade
  cases here : capture.position with
  | receive =>
      exact (notReceive here).elim
  | discontinuityCheck =>
      exact (notCheck here).elim
  | commandCheck =>
      simp only [Capture.callAt, here] at isMade
      split at isMade
      · cases isMade
        rfl
      · cases isMade
  | pump next =>
      simp only [Capture.callAt, here] at isMade
      split at isMade
      · cases isMade
        rfl
      · split at isMade
        · cases isMade
        · cases isMade
          rfl
      · cases isMade
  | produceOutput | drain | processInput =>
      simp only [Capture.callAt, here] at isMade
      cases isMade
      rfl
  | send messages next =>
      simp only [Capture.callAt, here] at isMade
      obtain ⟨message, _, rfl⟩ := Option.map_eq_some_iff.mp isMade
      rfl
  | failureCheck | consume | leave | ended =>
      simp only [Capture.callAt, here] at isMade
      cases isMade

/-- The worker answers gaps in time. -/
theorem AnswersGaps.work
    (answers : AnswersGaps before)
    (response : Response) :
    AnswersGaps (before.work response) := by
  have flag := (before.queues_work response).discontinuity
  have checked := (before.position_work response).checked
  have log := before.log_work response
  cases here : before.position with
  | discontinuityCheck =>
      rw [here] at flag
      simp only [Capture.callAt, here] at log
      obtain ⟨gap, trace, known⟩ := answers
      have closed : GapAt (before.work response) .closed :=
        ⟨⟨fun _ => flag, fun _ => rfl⟩, nofun⟩
      cases isOpen : before.discontinuity with
      | true =>
          rw [isOpen, if_pos rfl, Option.toList_some] at log
          refine .call trace log rfl (.answered gap ?_ _) closed
          rw [ne_eq, known.flag, isOpen]
          simp
      | false =>
          rw [isOpen] at log
          have isClosed := known.flag.mpr isOpen
          subst isClosed
          refine ⟨.closed, ?_, closed⟩
          rw [log]
          simpa using trace
  | receive =>
      rw [here] at flag
      simp only [Capture.callAt, here] at log
      obtain ⟨gap, trace, known⟩ := answers
      have notLate : gap ≠ .late := by
        intro isLate
        have notBehind := known.late isLate
        rw [here] at notBehind
        cases notBehind
      have notBehind :
          (before.work response).position.isBehindCheck = false := by
        by_contra behind
        rcases checked (Bool.eq_true_of_not_eq_false behind) with
          isCheck | isCheck <;> rw [here] at isCheck <;> cases isCheck
      cases waiting : before.samples with
      | nil =>
          rw [waiting] at log
          refine ⟨gap, ?_, ?_, fun _ => notBehind⟩
          · rw [log]
            simpa using trace
          · rw [flag]
            exact known.flag
      | cons sample later =>
          rw [waiting, List.head?_cons, Option.map_some,
            Option.toList_some] at log
          cases gap with
          | closed =>
              refine .call trace log rfl (.received sample)
                ⟨?_, fun _ => notBehind⟩
              rw [flag]
              exact known.flag
          | fresh =>
              refine .call trace log rfl (.receivedOnce sample)
                ⟨?_, fun _ => notBehind⟩
              rw [flag, ← known.flag]
              simp
          | late =>
              exact (notLate rfl).elim
  | _ =>
      rw [here] at flag
      refine answers.skip ?_ flag ?_
      · have silent :=
          concernsGap_callAt response (by simp [here] : before.position ≠ _)
            (by simp [here])
        rw [log, List.filter_append]
        cases made : before.callAt response with
        | none =>
            simp
        | some call =>
            simp [silent call made]
      · intro behind
        rcases checked behind with isCheck | isCheck
        · rw [here] at isCheck
          cases isCheck
        · rw [isCheck]
          rfl

end Gaps

/-- What holds of the queues in every run. -/
structure QueueRules (capture : Capture) : Prop where
  samples :
    Fifo Call.queued? Call.received? captureQueueCapacity capture.log
      capture.samples
  encoded :
    (capture.log.filterMap Call.encoded?).Sublist
      (capture.log.filterMap Call.received?)
  events :
    Fifo Call.queuedEvent? Call.pumped? eventQueueCapacity capture.log
      capture.events
  raised :
    ((capture.log.filterMap Call.queuedEvent?).filter
        TransformEvent.isRequest).Sublist
      ((capture.log.filterMap Call.raised?).filter
        TransformEvent.isRequest)
  gaps :
    ∃ gap,
      Trace GapAnswer .closed (capture.log.filter Call.concernsGap) gap ∧
        (gap = .closed ↔ capture.discontinuity = false)

/-- The rules hold in every run. -/
theorem queues_on_windows
    (mode : PipelineMode)
    (broadcaster : Broadcaster)
    (events : List Event) :
    QueueRules ((Capture.started mode broadcaster).run events) := by
  have both :
      Orderly ((Capture.started mode broadcaster).run events) ∧
        AnswersGaps ((Capture.started mode broadcaster).run events) := by
    induction events using List.reverseRecOn with
    | nil =>
        exact ⟨orderly_started mode broadcaster,
          answersGaps_started mode broadcaster⟩
    | append_singleton events event inductionHypothesis =>
        obtain ⟨orderly, answers⟩ := inductionHypothesis
        simp only [Capture.run, List.foldl_append, List.foldl_cons,
          List.foldl_nil] at *
        rcases work_or_apart event with ⟨response, rfl⟩ | apart
        · exact ⟨orderly.work response, answers.work response⟩
        · rcases Capture.work_or_aside event with
            ⟨response, rfl⟩ | aside
          · exact ⟨orderly.work response, answers.work response⟩
          · exact ⟨orderly.aside (aside _) (apart _).position,
              answers.aside (aside _) (apart _).position⟩
  obtain ⟨orderly, gap, trace, known⟩ := both
  exact {
    samples := orderly.samples
    encoded := (List.sublist_append_left _ _).trans orderly.encoded
    events := orderly.events
    raised := orderly.raised
    gaps := ⟨gap, trace, known.flag⟩
  }

end CamRtsp.Windows
