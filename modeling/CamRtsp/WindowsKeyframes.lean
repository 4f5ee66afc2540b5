import CamRtsp.KeyframeObligation
import CamRtsp.WindowsTransform

namespace CamRtsp.Windows

open RustText
open Broadcaster (Operation)

/-!
# Keyframe requests on Windows

The poll loop takes the request from the broadcaster and sends it to the
worker, which has a queue of commands and asks the encoder when its turn comes.
As long as the worker is in its loop no request gets lost on this way.
-/

/-- Neither the owner of the pipeline nor its worker. -/
def Event.isOther : Event → Bool
  | .poll => false
  | .requestKeyframe => false
  | .stop => false
  | .work _ => false
  | _ => true

namespace Capture

/-- The broadcaster and the worker when the poll loop begins. -/
def initial (mode : PipelineMode) (codec : CodecConfig) : Capture :=
  match mode with
  | .passthrough =>
      started .passthrough (Broadcaster.initial.setCodecConfig codec)
  | .encoder encoder => started (.encoder encoder) .initial

/-- The request is at one of its places. -/
def Pending (capture : Capture) : Prop :=
  capture.broadcaster.state.keyframeRequested = true ∨
    capture.taken = true ∨ .requestKeyframe ∈ capture.commands

/-- The worker asks the encoder for a keyframe, on a command. -/
def Asks (capture : Capture) (event : Event) : Prop :=
  ∃ encoder result,
    capture.mode = .encoder encoder ∧
      (capture.step event).log = capture.log ++ [.forced true result]

/-- There is no encoder that the worker could ask. -/
def LacksEncoder (capture : Capture) (event : Event) : Prop :=
  capture.mode = .passthrough ∧
    ∃ message,
      (capture.step event).log = capture.log ++ [.forced true (.error message)]

/-- A command is carried out when the worker takes it. -/
theorem asks_or_lacksEncoder
    {capture : Capture}
    {later : List WorkerCommand}
    (here : capture.position = .commandCheck)
    (queue : capture.commands = .requestKeyframe :: later)
    (response : Response) :
    capture.Asks (.work response) ∨ capture.LacksEncoder (.work response) := by
  have logged :
      (capture.step (.work response)).log =
        capture.log ++
          [.forced true (capture.mode.requestKeyframe response.forced)] := by
    simp only [step, work, here, queue]
    rfl
  cases mode : capture.mode with
  | passthrough =>
      rw [mode] at logged
      exact .inr ⟨mode, _, logged⟩
  | encoder encoder =>
      exact .inl ⟨encoder, _, mode, logged⟩

/-- What the request needs of a step of the worker. -/
structure RequestAfter (before after : Capture) : Prop where
  broadcaster :
    ∃ operations,
      after.broadcaster = before.broadcaster.run operations ∧
        .takeKeyframeRequest ∉ operations
  taken : after.taken = before.taken
  running : after.running = before.running
  commands :
    after.commands =
      match before.position with
      | .commandCheck => before.commands.tail
      | _ => before.commands
  stopped :
    before.position = .commandCheck →
      before.commands.head? = some .stop → after.position.hasLeft = true
  left : before.position.hasLeft = true → after.position.hasLeft = true

/-- A sample is published without taking the request. -/
theorem takeKeyframeRequest_notMem_publishEncodedSample
    (header : Option Bytes)
    (sample : EncodedSample) :
    .takeKeyframeRequest ∉ (publishEncodedSample header sample).1 := by
  unfold publishEncodedSample
  split
  · simp
  · split <;> simp

/-- A camera sample is published without taking the request. -/
theorem takeKeyframeRequest_notMem_consumePassthrough
    (bytes : Except String Bytes)
    (sample : CapturedSample) :
    .takeKeyframeRequest ∉ (consumePassthrough bytes sample).1 := by
  unfold consumePassthrough
  split
  · simp
  · split
    · simp
    · split <;> simp

/-- A step elsewhere that publishes something or nothing. -/
theorem RequestAfter.of_published
    {before after : Capture}
    (operations : List Operation)
    (elsewhere : before.position ≠ .commandCheck)
    (broadcaster : after.broadcaster = before.broadcaster.run operations)
    (notTaken : .takeKeyframeRequest ∉ operations)
    (same :
      after.taken = before.taken ∧ after.running = before.running ∧
        after.commands = before.commands)
    (left :
      before.position.hasLeft = true → after.position.hasLeft = true) :
    RequestAfter before after where
  broadcaster := ⟨operations, broadcaster, notTaken⟩
  taken := same.1
  running := same.2.1
  commands := by
    split
    · rename_i here
      exact (elsewhere here).elim
    · exact same.2.2
  stopped here := (elsewhere here).elim
  left := left

/-- A step elsewhere that publishes nothing. -/
theorem RequestAfter.of_silent
    {before after : Capture}
    (elsewhere : before.position ≠ .commandCheck)
    (broadcaster : after.broadcaster = before.broadcaster)
    (same :
      after.taken = before.taken ∧ after.running = before.running ∧
        after.commands = before.commands)
    (left :
      before.position.hasLeft = true → after.position.hasLeft = true) :
    RequestAfter before after :=
  .of_published [] elsewhere broadcaster (by simp) same left

/-- A failure touches neither the broadcaster nor the commands. -/
theorem failPumping_same
    (next : Pumping)
    (capture : Capture)
    (message : Text) :
    (failPumping next capture message).broadcaster =
        capture.broadcaster ∧
      ((failPumping next capture message).taken = capture.taken ∧
        (failPumping next capture message).running = capture.running ∧
          (failPumping next capture message).commands =
            capture.commands) ∧
        (failPumping next capture message).position.hasLeft = true := by
  cases next <;> exact ⟨rfl, ⟨rfl, rfl, rfl⟩, rfl⟩

/-- A failure touches neither the broadcaster nor the commands. -/
theorem failDraining_same
    (next : Draining)
    (capture : Capture)
    (message : Text) :
    (failDraining next capture message).broadcaster =
        capture.broadcaster ∧
      ((failDraining next capture message).taken = capture.taken ∧
        (failDraining next capture message).running = capture.running ∧
          (failDraining next capture message).commands =
            capture.commands) ∧
        (failDraining next capture message).position.hasLeft = true := by
  cases next <;> exact ⟨rfl, ⟨rfl, rfl, rfl⟩, rfl⟩

/-- A step elsewhere that publishes something and then fails. -/
theorem RequestAfter.of_failed
    {before between after : Capture}
    (operations : List Operation)
    (elsewhere : before.position ≠ .commandCheck)
    (failed :
      after.broadcaster = between.broadcaster ∧
        (after.taken = between.taken ∧ after.running = between.running ∧
          after.commands = between.commands) ∧
          after.position.hasLeft = true)
    (broadcaster : between.broadcaster = before.broadcaster.run operations)
    (notTaken : .takeKeyframeRequest ∉ operations)
    (same :
      between.taken = before.taken ∧ between.running = before.running ∧
        between.commands = before.commands) :
    RequestAfter before after :=
  .of_published _ elsewhere (failed.1.trans broadcaster) notTaken
    ⟨failed.2.1.1.trans same.1, failed.2.1.2.1.trans same.2.1,
      failed.2.1.2.2.trans same.2.2⟩
    fun _ => failed.2.2

/-- A worker in its loop has not left it. -/
theorem not_left
    {capture : Capture}
    {position : Position}
    {goal : Prop}
    (here : capture.position = position)
    (inside : position.hasLeft = false)
    (left : capture.position.hasLeft = true) :
    goal := by
  rw [here, inside] at left
  cases left

/-- Every step of the worker does what the request needs. -/
theorem request_work (capture : Capture) (response : Response) :
    RequestAfter capture (capture.work response) := by
  cases here : capture.position with
  | pump next =>
      have elsewhere : capture.position ≠ .commandCheck := by simp [here]
      simp only [work, here, pump]
      cases capture.events with
      | nil =>
          cases next with
          | input sample =>
              simp only
              split <;>
                exact .of_silent elsewhere rfl ⟨rfl, rfl, rfl⟩
                  (not_left here rfl)
          | consumed =>
              exact .of_silent elsewhere rfl ⟨rfl, rfl, rfl⟩
                (not_left here rfl)
          | shutdown result =>
              exact .of_silent elsewhere rfl ⟨rfl, rfl, rfl⟩ fun _ => rfl
      | cons event later =>
          cases event with
          | needInput =>
              exact .of_silent elsewhere rfl ⟨rfl, rfl, rfl⟩ id
          | haveOutput =>
              refine .of_silent elsewhere rfl ⟨rfl, rfl, rfl⟩ ?_
              rw [here]
              cases next <;> exact id
          | failure message =>
              exact .of_failed [] elsewhere
                (failPumping_same _ _ _) rfl (by simp) ⟨rfl, rfl, rfl⟩
  | produceOutput next =>
      have elsewhere : capture.position ≠ .commandCheck := by simp [here]
      have left : (Position.produceOutput next).hasLeft = true →
          (Position.pump next).hasLeft = true := by
        cases next <;> exact id
      simp only [work, here, produceOutput, publishSample]
      cases response.output with
      | produced header sample =>
          have notTaken :=
            takeKeyframeRequest_notMem_publishEncodedSample header sample
          simp only
          split
          · exact .of_published _ elsewhere rfl notTaken ⟨rfl, rfl, rfl⟩
              (by rw [here]; exact left)
          · exact .of_failed _ elsewhere (failPumping_same _ _ _) rfl notTaken
              ⟨rfl, rfl, rfl⟩
      | nothing =>
          exact .of_silent elsewhere rfl ⟨rfl, rfl, rfl⟩
            (by rw [here]; exact left)
      | needMoreInput message | failed message =>
          exact .of_failed [] elsewhere
            (failPumping_same _ _ _) rfl (by simp) ⟨rfl, rfl, rfl⟩
  | drain next =>
      have elsewhere : capture.position ≠ .commandCheck := by simp [here]
      simp only [work, here, drain, publishSample]
      cases response.output with
      | produced header sample =>
          have notTaken :=
            takeKeyframeRequest_notMem_publishEncodedSample header sample
          simp only
          split
          · exact .of_published _ elsewhere rfl notTaken ⟨rfl, rfl, rfl⟩
              (by rw [here]; exact id)
          · exact .of_failed _ elsewhere (failDraining_same _ _ _) rfl
              notTaken ⟨rfl, rfl, rfl⟩
      | nothing =>
          exact .of_silent elsewhere rfl ⟨rfl, rfl, rfl⟩ id
      | needMoreInput message =>
          cases next with
          | input | retry | consumed =>
              exact .of_silent elsewhere rfl ⟨rfl, rfl, rfl⟩
                (not_left here rfl)
          | shutdown result =>
              exact .of_silent elsewhere rfl ⟨rfl, rfl, rfl⟩ fun _ => rfl
      | failed message =>
          exact .of_failed [] elsewhere
            (failDraining_same _ _ _) rfl (by simp) ⟨rfl, rfl, rfl⟩
  | processInput sample mayRetry =>
      have elsewhere : capture.position ≠ .commandCheck := by simp [here]
      simp only [work, here, processInput]
      split
      · split <;>
          exact .of_silent elsewhere rfl ⟨rfl, rfl, rfl⟩
            (not_left here rfl)
      · split <;>
          exact .of_silent elsewhere rfl ⟨rfl, rfl, rfl⟩
            (not_left here rfl)
      · exact .of_silent elsewhere rfl ⟨rfl, rfl, rfl⟩
          (not_left here rfl)
  | consume sample =>
      have elsewhere : capture.position ≠ .commandCheck := by simp [here]
      have notTaken :=
        takeKeyframeRequest_notMem_consumePassthrough response.bytes sample
      simp only [work, here]
      split
      · exact .of_published _ elsewhere rfl notTaken ⟨rfl, rfl, rfl⟩
          (not_left here rfl)
      · exact .of_silent elsewhere rfl ⟨rfl, rfl, rfl⟩
          (not_left here rfl)
      · exact .of_silent elsewhere rfl ⟨rfl, rfl, rfl⟩
          (not_left here rfl)
  | failureCheck =>
      have elsewhere : capture.position ≠ .commandCheck := by simp [here]
      simp only [work, here]
      split <;>
        exact .of_silent elsewhere rfl ⟨rfl, rfl, rfl⟩
          (not_left here rfl)
  | discontinuityCheck =>
      have elsewhere : capture.position ≠ .commandCheck := by simp [here]
      simp only [work, here]
      split <;>
        exact .of_silent elsewhere rfl ⟨rfl, rfl, rfl⟩
          (not_left here rfl)
  | commandCheck =>
      have silent (operations : Broadcaster)
          (same : operations = capture.broadcaster) :
          ∃ none : List Operation,
            operations = capture.broadcaster.run none ∧
              .takeKeyframeRequest ∉ none :=
        ⟨[], same, by simp⟩
      simp only [work, here]
      split
      · rename_i empty
        exact ⟨silent _ rfl, rfl, rfl, by rw [here, empty]; exact empty,
          by simp [empty], not_left here rfl⟩
      · rename_i stopped
        exact ⟨silent _ rfl, rfl, rfl, by rw [here, stopped]; rfl,
          fun _ _ => rfl, not_left here rfl⟩
      · rename_i requested
        exact ⟨silent _ rfl, rfl, rfl, by rw [here, requested]; rfl,
          by simp [requested], not_left here rfl⟩
  | receive =>
      have elsewhere : capture.position ≠ .commandCheck := by simp [here]
      simp only [work, here]
      split <;>
        exact .of_silent elsewhere rfl ⟨rfl, rfl, rfl⟩
          (not_left here rfl)
  | leave result =>
      have elsewhere : capture.position ≠ .commandCheck := by simp [here]
      simp only [work, here]
      split <;>
        exact .of_silent elsewhere rfl ⟨rfl, rfl, rfl⟩ fun _ => rfl
  | send messages next =>
      have elsewhere : capture.position ≠ .commandCheck := by simp [here]
      simp only [work, here, send]
      cases messages with
      | nil =>
          exact .of_silent elsewhere rfl ⟨rfl, rfl, rfl⟩
            fun _ => by cases next <;> rfl
      | cons message later =>
          exact .of_silent elsewhere rfl ⟨rfl, rfl, rfl⟩ fun _ => rfl
  | ended result =>
      have elsewhere : capture.position ≠ .commandCheck := by simp [here]
      simp only [work, here]
      exact .of_silent elsewhere rfl ⟨rfl, rfl, rfl⟩ id

/-! ## The request on its way -/

variable {capture : Capture}
variable {event : Event}
variable {id : SubscriptionId}

/-- The poll loop holds a request only before `stop`. -/
structure Valid (capture : Capture) : Prop where
  wellFormed : capture.broadcaster.WellFormed
  polling : capture.taken = true → capture.running = true

/-- What an event but `poll` does with the broadcaster. -/
theorem exists_operations
    (capture : Capture)
    {event : Event}
    (notPoll : event ≠ .poll) :
    ∃ operations,
      (capture.step event).broadcaster =
          capture.broadcaster.run operations ∧
        .takeKeyframeRequest ∉ operations := by
  cases event with
  | outside operation =>
      simp only [step]
      split
      · rename_i outside
        refine ⟨[operation], rfl, ?_⟩
        intro member
        rw [← List.mem_singleton.mp member] at outside
        cases outside
      · exact ⟨[], rfl, by simp⟩
  | poll =>
      exact (notPoll rfl).elim
  | work response =>
      exact (capture.request_work response).broadcaster
  | requestKeyframe =>
      refine ⟨[], ?_, by simp⟩
      simp only [step, Capture.requestKeyframe]
      split <;> rfl
  | stop =>
      refine ⟨[], ?_, by simp⟩
      simp only [step, Capture.stop]
      split <;> rfl
  | readSample outcome =>
      refine ⟨[], ?_, by simp⟩
      simp only [step, onReadSample]
      repeat' split
      all_goals rfl
  | readFailed message =>
      refine ⟨[], ?_, by simp⟩
      simp only [step]
      split <;> rfl
  | invoke event =>
      refine ⟨[], ?_, by simp⟩
      simp only [step, Capture.invoke, trySend]
      repeat' split
      all_goals rfl
  | reportOverflow =>
      refine ⟨[], ?_, by simp⟩
      simp only [step, Capture.reportOverflow, trySend]
      repeat' split
      all_goals rfl

/-- What stays as it is when neither the owner nor the worker acts. -/
theorem same_of_others
    (capture : Capture)
    {event : Event}
    (others : event.isOther = true) :
    (capture.step event).taken = capture.taken ∧
      (capture.step event).running = capture.running ∧
        (capture.step event).commands = capture.commands := by
  cases event with
  | poll | requestKeyframe | stop | work =>
      cases others
  | outside operation =>
      simp only [step]
      split <;> exact ⟨rfl, rfl, rfl⟩
  | readFailed message =>
      simp only [step]
      split <;> exact ⟨rfl, rfl, rfl⟩
  | readSample outcome =>
      simp only [step, onReadSample]
      repeat' split
      all_goals exact ⟨rfl, rfl, rfl⟩
  | invoke event =>
      simp only [step, Capture.invoke, trySend]
      repeat' split
      all_goals exact ⟨rfl, rfl, rfl⟩
  | reportOverflow =>
      simp only [step, Capture.reportOverflow, trySend]
      repeat' split
      all_goals exact ⟨rfl, rfl, rfl⟩

/-- Every step keeps the broadcaster well formed and the poll loop first. -/
theorem Valid.step (valid : Valid capture) (event : Event) :
    Valid (capture.step event) where
  wellFormed := by
    by_cases isPoll : event = .poll
    · subst isPoll
      simp only [Capture.step]
      split
      · exact valid.wellFormed
      · exact valid.wellFormed.step .takeKeyframeRequest
    · obtain ⟨operations, broadcaster, _⟩ :=
        exists_operations capture isPoll
      rw [broadcaster]
      exact valid.wellFormed.run operations
  polling := by
    have polling := valid.polling
    cases event with
    | poll =>
        simp only [Capture.step]
        split
        · exact polling
        · rename_i free
          intro _
          rw [not_or] at free
          simpa using free.2
    | requestKeyframe =>
        simp only [Capture.step, Capture.requestKeyframe]
        split
        · intro taken
          cases taken
        · exact polling
    | stop =>
        simp only [Capture.step, Capture.stop]
        split
        · rename_i stops
          intro taken
          rw [stops.2] at taken
          cases taken
        · exact polling
    | work response =>
        have after := capture.request_work response
        simp only [Capture.step]
        rw [after.taken, after.running]
        exact polling
    | outside | readSample | readFailed | invoke | reportOverflow =>
        rw [(same_of_others capture (by rfl)).1,
          (same_of_others capture (by rfl)).2.1]
        exact polling

/-- A worker that has run to its end has left its loop. -/
theorem hasLeft_of_isEnded (ended : capture.isEnded = true) :
    capture.position.hasLeft = true := by
  unfold isEnded at ended
  split at ended
  · rename_i here
    rw [here]
    rfl
  · cases ended

/-- The worker does not return to its loop. -/
theorem hasLeft_step (left : capture.position.hasLeft = true) :
    (capture.step event).position.hasLeft = true := by
  rcases work_or_apart event with ⟨response, rfl⟩ | apart
  · exact (capture.request_work response).left left
  · rw [(apart capture).position]
    exact left

/-- A viewer that starts to wait sets the request. -/
theorem requested_of_waiting_step
    (valid : Valid capture)
    (none : ¬ Broadcaster.Waiting id capture.broadcaster)
    (waiting : Broadcaster.Waiting id (capture.step event).broadcaster) :
    (capture.step event).broadcaster.state.keyframeRequested = true := by
  by_cases isPoll : event = .poll
  · subst isPoll
    refine (none ?_).elim
    simp only [Capture.step] at waiting
    split at waiting
    · exact waiting
    · have stepped :
          Broadcaster.Waiting id
            (capture.broadcaster.step .takeKeyframeRequest) :=
        waiting
      exact Broadcaster.waiting_of_waiting_step valid.wellFormed stepped
        not_false
  · obtain ⟨operations, broadcaster, notTaken⟩ :=
      exists_operations capture isPoll
    rw [broadcaster] at waiting ⊢
    exact Broadcaster.requested_of_waiting_run valid.wellFormed none
      notTaken waiting

/-- A request moves on to the next place, if a step moves it at all. -/
theorem pending_step
    (valid : Valid capture)
    (pending : capture.Pending)
    (notAsked : ¬ (capture.Asks event ∨ capture.LacksEncoder event))
    (inside : (capture.step event).position.hasLeft = false) :
    (capture.step event).Pending := by
  -- Every step but `poll` leaves a request at the broadcaster there.
  have atBroadcaster (notPoll : event ≠ .poll)
      (requested :
        capture.broadcaster.state.keyframeRequested = true) :
      (capture.step event).broadcaster.state.keyframeRequested = true := by
    obtain ⟨operations, broadcaster, notTaken⟩ :=
      exists_operations capture notPoll
    rw [broadcaster]
    exact Broadcaster.requested_run requested notTaken
  cases event with
  | poll =>
      simp only [Capture.step]
      split
      · exact pending
      · rename_i free
        rcases pending with requested | taken | commanded
        · exact .inr (.inl requested)
        · exact (free (.inl taken)).elim
        · exact .inr (.inr commanded)
  | requestKeyframe =>
      have before : capture.position.hasLeft = false := by
        by_contra left
        rw [hasLeft_step (Bool.eq_true_of_not_eq_false left)] at inside
        cases inside
      have notEnded : capture.isEnded = false := by
        by_contra ended
        rw [hasLeft_of_isEnded (Bool.eq_true_of_not_eq_false ended)] at before
        cases before
      simp only [Capture.step, Capture.requestKeyframe]
      split
      · rename_i taken
        right; right
        rw [if_pos ⟨valid.polling taken, notEnded⟩]
        simp
      · exact pending
  | stop =>
      rcases pending with requested | taken | commanded
      · exact .inl (atBroadcaster (by simp) requested)
      · right; left
        simp only [Capture.step, Capture.stop]
        split <;> exact taken
      · right; right
        simp only [Capture.step, Capture.stop]
        split
        · split
          · exact commanded
          · exact List.mem_append_left _ commanded
        · exact commanded
  | work response =>
      have after := capture.request_work response
      rcases pending with requested | taken | commanded
      · exact .inl (atBroadcaster (by simp) requested)
      · exact .inr (.inl (after.taken.trans taken))
      · right; right
        have commands := after.commands
        simp only [Capture.step] at inside ⊢
        rw [commands]
        split
        · rename_i here
          cases queue : capture.commands with
          | nil =>
              rw [queue] at commanded
              cases commanded
          | cons command later =>
              rw [queue] at commanded
              rcases List.mem_cons.mp commanded with isFirst | behind
              · rw [← isFirst] at queue
                exact (notAsked (asks_or_lacksEncoder here queue response)).elim
              · exact behind
        · exact commanded
  | outside | readSample | readFailed | invoke | reportOverflow =>
      rcases pending with requested | taken | commanded
      · exact .inl (atBroadcaster (by simp) requested)
      · exact .inr (.inl ((same_of_others capture (by rfl)).1.trans taken))
      · right; right
        rw [(same_of_others capture (by rfl)).2.2]
        exact commanded

/-- The mode is chosen once. -/
theorem mode_step (capture : Capture) (event : Event) :
    (capture.step event).mode = capture.mode := by
  rcases work_or_apart event with ⟨response, rfl⟩ | apart
  · exact mode_work capture response
  · exact (apart capture).mode

/-- A waiting viewer is owed a request until the encoder is asked, if any. -/
theorem kept_pending (mode : PipelineMode) (id : SubscriptionId) :
    Obligation.Kept step
      (fun capture => capture.Valid ∧ capture.mode = mode)
      (fun capture =>
        Broadcaster.Waiting id capture.broadcaster ∧
          capture.position.hasLeft = false)
      Pending
      (fun capture event =>
        capture.Asks event ∨
          mode = .passthrough ∧ capture.LacksEncoder event) where
  validStep capture event valid :=
    ⟨valid.1.step event, (mode_step capture event).trans valid.2⟩
  arises capture event valid none need := by
    refine .inl (requested_of_waiting_step valid.1 ?_ need.1)
    intro waiting
    refine none ⟨waiting, ?_⟩
    by_contra left
    have stillLeft : (capture.step event).position.hasLeft = true :=
      hasLeft_step (Bool.eq_true_of_not_eq_false left)
    rw [need.2] at stillLeft
    cases stillLeft
  stays capture event valid pending notAsked need := by
    refine pending_step valid.1 pending (fun asked => ?_) need.2
    rcases asked with asks | lacks
    · exact notAsked (.inl asks)
    · exact notAsked (.inr ⟨valid.2.symm.trans lacks.1, lacks⟩)

/-- The worker begins with a broadcaster that nobody reads. -/
theorem broadcaster_initial (mode : PipelineMode) (codec : CodecConfig) :
    (initial mode codec).broadcaster.WellFormed ∧
      ∀ id, ¬ Broadcaster.Waiting id (initial mode codec).broadcaster := by
  have nobody (id : SubscriptionId) : ¬ Broadcaster.Waiting id .initial := by
    simp [Broadcaster.Waiting, Broadcaster.initial, Broadcaster.alive]
  cases mode with
  | passthrough =>
      refine ⟨Broadcaster.wellFormed_initial.step (.setCodecConfig codec),
        fun id waiting => ?_⟩
      have stepped :
          (Broadcaster.initial.step (.setCodecConfig codec)).alive id =
            true :=
        waiting.1
      rcases Broadcaster.alive_of_alive_step
          Broadcaster.wellFormed_initial stepped with
        isAlive | ⟨isSubscribe, _⟩
      · simp [Broadcaster.initial, Broadcaster.alive] at isAlive
      · cases isSubscribe
  | encoder encoder =>
      exact ⟨Broadcaster.wellFormed_initial, nobody⟩

end Capture

/--
What a viewer can rely on.  As long as the worker is in its loop, a viewer that
waits has its request at one of the places, or the encoder was asked for a
keyframe since the viewer started to wait.  A camera that delivers H.264 cannot
be asked; there the worker has been told so.
-/
def RequestRules
    (mode : PipelineMode)
    (codec : CodecConfig)
    (events : List Event) : Prop :=
  ((Capture.initial mode codec).run events).position.hasLeft = false →
    ∀ id,
      Broadcaster.Waiting id
          ((Capture.initial mode codec).run events).broadcaster →
      ∃ earlier event later,
        events = earlier ++ event :: later ∧
          ¬ Broadcaster.Waiting id
              ((Capture.initial mode codec).run earlier).broadcaster ∧
          (∀ before after, later = before ++ after →
            Broadcaster.Waiting id
              ((Capture.initial mode codec).run
                (earlier ++ event :: before)).broadcaster) ∧
          (((Capture.initial mode codec).run events).Pending ∨
            ∃ before asked after,
              later = before ++ asked :: after ∧
                (((Capture.initial mode codec).run
                    (earlier ++ event :: before)).Asks asked ∨
                  mode = .passthrough ∧
                    ((Capture.initial mode codec).run
                      (earlier ++ event :: before)).LacksEncoder asked))

/-- The rule holds in every run. -/
theorem keyframe_requests_on_windows
    (mode : PipelineMode)
    (codec : CodecConfig)
    (events : List Event) :
    RequestRules mode codec events := by
  intro inside id waiting
  have start := Capture.broadcaster_initial mode codec
  have valid : (Capture.initial mode codec).Valid := by
    refine ⟨start.1, ?_⟩
    cases mode <;> nofun
  have inMode : (Capture.initial mode codec).mode = mode := by
    cases mode <;> rfl
  refine (Capture.kept_pending mode id).since_arising_while ?_
    ⟨valid, inMode⟩ (start.2 id) events waiting inside
  intro capture event left
  rw [Bool.not_eq_false] at left ⊢
  exact Capture.hasLeft_step left

end CamRtsp.Windows
