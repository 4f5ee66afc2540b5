import CamRtsp.AvccRecords
import CamRtsp.KeyframeObligation

namespace CamRtsp.MacOs

open RustText
open Broadcaster (Operation)

/-!
# Keyframe requests on macOS

The poll loop of the command line takes the request from the broadcaster and
sets a flag of the camera pipeline.  The capture callback swaps the flag and
submits its frame with or without force; a frame that is refused sets the flag
again.  Each of these is a step of its own, and viewers come and go in between.
-/

/-- What `encoded_frame` reads of a sample buffer. -/
structure SampleBuffer where
  isKeyFrame : Bool
  avcc : Option Bytes
  data : Option Bytes
  ptsValue : Int64
  ptsScale : Int32

/-- The presentation time in units of the RTP clock. -/
def pts90khz (value : Int64) (scale : Int32) : UInt32 :=
  UInt32.ofInt ((value.toInt * 90000).tdiv scale.toInt)

/-- `encoded_frame`, as calls on the sink. -/
def encodedFrame
    (defaultDuration90khz : UInt32)
    (succeeded : Bool)
    (buffer : Option SampleBuffer)
    (now : Instant) : List Operation :=
  match succeeded, buffer with
  | true, some buffer =>
      let announced : List Operation :=
        if buffer.isKeyFrame then
          ((buffer.avcc.bind parseAvccConfig).map .setCodecConfig).toList
        else
          []
      match buffer.data with
      | none => announced
      | some data =>
          let nalUnits := splitAvcc data
          if nalUnits = [] ∨ buffer.ptsScale.toInt ≤ 0 then
            announced
          else
            announced ++ [.publish {
              nalUnits := nalUnits
              pts90khz := pts90khz buffer.ptsValue buffer.ptsScale
              duration90khz := defaultDuration90khz
              keyframe := buffer.isKeyFrame } now]
  | _, _ => []

/--
The places a request passes: the broadcaster, the poll loop between
`take_keyframe_request` and `request_keyframe`, the flag `force_keyframe`, the
capture callback between the swap and `encode_frame`, and the frames inside the
encoder.
-/
structure Pipeline where
  defaultDuration90khz : UInt32
  broadcaster : Broadcaster
  taken : Bool
  forceKeyframe : Bool
  callback : Option Bool
  encoding : List Bool

/-- What connections and the application do with the broadcaster. -/
def isOutside : Operation → Bool
  | .subscribe => true
  | .recvTimeout _ => true
  | .drop _ => true
  | .setFrameRate _ _ => true
  | _ => false

/-- A step of one of the threads. -/
inductive Event where
  | outside (operation : Operation)
  | poll
  | request
  | capture (hasImage : Bool)
  | encode (accepted : Bool)
  | output
      (succeeded : Bool)
      (buffer : Option SampleBuffer)
      (now : Instant)

namespace Pipeline

/-- The pipeline when the camera session starts. -/
def initial (defaultDuration90khz : UInt32) : Pipeline where
  defaultDuration90khz := defaultDuration90khz
  broadcaster := .initial
  taken := false
  forceKeyframe := false
  callback := none
  encoding := []

/-- One step.  The encoder puts out its frames in order. -/
def step (pipeline : Pipeline) : Event → Pipeline
  | .outside operation =>
      if isOutside operation then
        { pipeline with
          broadcaster := pipeline.broadcaster.step operation }
      else
        pipeline
  | .poll =>
      if pipeline.taken then
        pipeline
      else
        let (taken, broadcaster) :=
          pipeline.broadcaster.takeKeyframeRequest
        { pipeline with taken := taken, broadcaster := broadcaster }
  | .request =>
      if pipeline.taken then
        { pipeline with taken := false, forceKeyframe := true }
      else
        pipeline
  | .capture hasImage =>
      if hasImage ∧ pipeline.callback = none then
        { pipeline with
          forceKeyframe := false
          callback := some pipeline.forceKeyframe }
      else
        pipeline
  | .encode accepted =>
      match pipeline.callback with
      | none => pipeline
      | some force =>
          if accepted then
            { pipeline with
              callback := none
              encoding := pipeline.encoding ++ [force] }
          else
            { pipeline with callback := none, forceKeyframe := true }
  | .output succeeded buffer now =>
      match pipeline.encoding with
      | [] => pipeline
      | _ :: later =>
          { pipeline with
            broadcaster :=
              pipeline.broadcaster.run
                (encodedFrame pipeline.defaultDuration90khz succeeded
                  buffer now)
            encoding := later }

/-- A run. -/
def run (pipeline : Pipeline) (events : List Event) : Pipeline :=
  events.foldl step pipeline

/-- The request is at one of its places. -/
def Pending (pipeline : Pipeline) : Prop :=
  pipeline.broadcaster.state.keyframeRequested = true ∨
    pipeline.taken = true ∨ pipeline.forceKeyframe = true ∨
      pipeline.callback = some true ∨ true ∈ pipeline.encoding

/-- A frame that was forced comes out of the encoder as no keyframe. -/
def Misses (pipeline : Pipeline) (event : Event) : Prop :=
  ∃ succeeded buffer now,
    event = .output succeeded buffer now ∧
      pipeline.encoding.head? = some true ∧
      ∀ accessUnit time,
        .publish accessUnit time ∈
            encodedFrame pipeline.defaultDuration90khz succeeded buffer
              now →
          ¬ IsKeyframe accessUnit

end Pipeline

/-! ## What the encoder puts out -/

section Output

variable {duration : UInt32}
variable {succeeded : Bool}
variable {buffer : Option SampleBuffer}
variable {now : Instant}

/-- The calls on the sink: a configuration, and an access unit behind it. -/
theorem encodedFrame_shape
    (duration : UInt32)
    (succeeded : Bool)
    (buffer : Option SampleBuffer)
    (now : Instant) :
    ∃ (codec : Option CodecConfig) (unit : Option EncodedAccessUnit),
      encodedFrame duration succeeded buffer now =
        (codec.map .setCodecConfig).toList ++
          (unit.map fun accessUnit => .publish accessUnit now).toList := by
  cases succeeded with
  | false =>
      exact ⟨none, none, rfl⟩
  | true =>
      cases buffer with
      | none =>
          exact ⟨none, none, rfl⟩
      | some buffer =>
          let codec : Option CodecConfig :=
            if buffer.isKeyFrame then
              buffer.avcc.bind parseAvccConfig
            else
              none
          have announced :
              (if buffer.isKeyFrame then
                ((buffer.avcc.bind parseAvccConfig).map
                  Operation.setCodecConfig).toList
              else
                []) =
                (codec.map Operation.setCodecConfig).toList := by
            simp only [codec]
            split <;> rfl
          simp only [encodedFrame, announced]
          split
          · exact ⟨codec, none, by simp⟩
          · split
            · exact ⟨codec, none, by simp⟩
            · exact ⟨codec, some _, rfl⟩

/-- The encoder does not take the request. -/
theorem takeKeyframeRequest_notMem_encodedFrame :
    .takeKeyframeRequest ∉ encodedFrame duration succeeded buffer now := by
  obtain ⟨codec, unit, shape⟩ :=
    encodedFrame_shape duration succeeded buffer now
  rw [shape]
  cases codec <;> cases unit <;> simp

/-- Behind an output with a keyframe nobody waits. -/
theorem not_waiting_of_output
    {broadcaster : Broadcaster}
    (wellFormed : broadcaster.WellFormed)
    {accessUnit : EncodedAccessUnit}
    {time : Instant}
    (published :
      .publish accessUnit time ∈
        encodedFrame duration succeeded buffer now)
    (isKeyframe : IsKeyframe accessUnit)
    (id : SubscriptionId) :
    ¬ Broadcaster.Waiting id
      (broadcaster.run (encodedFrame duration succeeded buffer now)) := by
  obtain ⟨codec, unit, shape⟩ :=
    encodedFrame_shape duration succeeded buffer now
  rw [shape] at published ⊢
  cases unit with
  | none =>
      cases codec <;> simp at published
  | some last =>
      have same : accessUnit = last := by
        cases codec <;> simp at published <;> exact published.1
      subst same
      rw [Broadcaster.run, List.foldl_append]
      exact Broadcaster.not_waiting_of_keyframe (wellFormed.run _)
        isKeyframe now

end Output

/-! ## The request in the pipeline -/

namespace Pipeline

/-- What an event does with the broadcaster. -/
def operations (pipeline : Pipeline) : Event → List Operation
  | .outside operation => if isOutside operation then [operation] else []
  | .poll => if pipeline.taken then [] else [.takeKeyframeRequest]
  | .output succeeded buffer now =>
      if pipeline.encoding = [] then
        []
      else
        encodedFrame pipeline.defaultDuration90khz succeeded buffer now
  | _ => []

variable {pipeline : Pipeline}
variable {event : Event}
variable {id : SubscriptionId}

/-- The broadcaster behind a step. -/
theorem broadcaster_step (pipeline : Pipeline) (event : Event) :
    (pipeline.step event).broadcaster =
      pipeline.broadcaster.run (pipeline.operations event) := by
  cases event with
  | outside operation =>
      simp only [step, operations]
      split <;> rfl
  | poll =>
      simp only [step, operations]
      split <;> rfl
  | request =>
      simp only [step, operations]
      split <;> rfl
  | capture hasImage =>
      simp only [step, operations]
      split <;> rfl
  | encode accepted =>
      simp only [step, operations]
      split
      · rfl
      · split <;> rfl
  | output succeeded buffer now =>
      cases inside : pipeline.encoding <;>
        simp [step, operations, inside, Broadcaster.run]

/-- Only the poll loop takes the request. -/
theorem takeKeyframeRequest_notMem_operations (notPoll : event ≠ .poll) :
    .takeKeyframeRequest ∉ pipeline.operations event := by
  cases event with
  | outside operation =>
      simp only [operations]
      split
      · rename_i outside
        rintro member
        rw [← List.mem_singleton.mp member] at outside
        cases outside
      · simp
  | poll =>
      exact (notPoll rfl).elim
  | output succeeded buffer now =>
      simp only [operations]
      split
      · simp
      · exact takeKeyframeRequest_notMem_encodedFrame
  | _ =>
      simp [operations]

/-- A viewer that starts to wait sets the request. -/
theorem requested_of_waiting_step
    (wellFormed : pipeline.broadcaster.WellFormed)
    (none : ¬ Broadcaster.Waiting id pipeline.broadcaster)
    (waiting : Broadcaster.Waiting id (pipeline.step event).broadcaster) :
    (pipeline.step event).broadcaster.state.keyframeRequested = true := by
  rw [broadcaster_step] at waiting ⊢
  by_cases isPoll : event = .poll
  · subst isPoll
    refine (none ?_).elim
    simp only [operations] at waiting
    split at waiting
    · exact waiting
    · have stepped :
          Broadcaster.Waiting id
            (pipeline.broadcaster.step .takeKeyframeRequest) :=
        waiting
      exact Broadcaster.waiting_of_waiting_step wellFormed stepped
        not_false
  · exact Broadcaster.requested_of_waiting_run wellFormed none
      (takeKeyframeRequest_notMem_operations isPoll) waiting

/-- A request moves on to the next place, if a step moves it at all. -/
theorem pending_step
    (wellFormed : pipeline.broadcaster.WellFormed)
    (pending : pipeline.Pending)
    (notMissed : ¬ pipeline.Misses event)
    (waiting : Broadcaster.Waiting id (pipeline.step event).broadcaster) :
    (pipeline.step event).Pending := by
  -- Every step but `poll` leaves a request at the broadcaster there.
  have atBroadcaster (notPoll : event ≠ .poll)
      (requested :
        pipeline.broadcaster.state.keyframeRequested = true) :
      (pipeline.step event).broadcaster.state.keyframeRequested = true := by
    rw [broadcaster_step]
    exact Broadcaster.requested_run requested
      (takeKeyframeRequest_notMem_operations notPoll)
  cases event with
  | outside operation =>
      rcases pending with requested | further
      · exact .inl (atBroadcaster (by simp) requested)
      · right
        rw [step]
        split <;> exact further
  | poll =>
      rw [step]
      split
      · exact pending
      · rcases pending with requested | taken | further
        · exact .inr (.inl requested)
        · contradiction
        · exact .inr (.inr further)
  | request =>
      rw [step]
      split
      · exact .inr (.inr (.inl rfl))
      · exact pending
  | capture hasImage =>
      rw [step]
      split
      · rename_i starts
        rcases pending with requested | taken | force | callback | inside
        · exact .inl requested
        · exact .inr (.inl taken)
        · exact .inr (.inr (.inr (.inl (congrArg some force))))
        · rw [starts.2] at callback
          cases callback
        · exact .inr (.inr (.inr (.inr inside)))
      · exact pending
  | encode accepted =>
      rw [step]
      split
      · exact pending
      · rename_i force submitted
        split
        · rcases pending with requested | taken | flag | callback | inside
          · exact .inl requested
          · exact .inr (.inl taken)
          · exact .inr (.inr (.inl flag))
          · rw [submitted] at callback
            cases callback
            exact .inr (.inr (.inr (.inr (by simp))))
          · exact .inr (.inr (.inr (.inr (List.mem_append_left _ inside))))
        · exact .inr (.inr (.inl rfl))
  | output succeeded buffer now =>
      rcases pending with requested | taken | flag | callback | inside
      · exact .inl (atBroadcaster (by simp) requested)
      · right; left
        rw [step]
        split <;> exact taken
      · right; right; left
        rw [step]
        split <;> exact flag
      · right; right; right; left
        rw [step]
        split <;> exact callback
      · right; right; right; right
        cases frames : pipeline.encoding with
        | nil =>
            rw [frames] at inside
            cases inside
        | cons force later =>
            rw [frames] at inside
            rcases List.mem_cons.mp inside with isHead | behind
            · -- The forced frame comes out as a keyframe.
              subst isHead
              by_contra
              apply notMissed
              refine ⟨succeeded, buffer, now, rfl, by rw [frames]; rfl, ?_⟩
              intro accessUnit time published isKeyframe
              refine
                not_waiting_of_output wellFormed published isKeyframe id ?_
              rw [broadcaster_step] at waiting
              simpa [operations, frames] using waiting
            · simp only [step, frames]
              exact behind

/-- A viewer that waits is owed a request until a forced frame fails it. -/
theorem kept_pending (id : SubscriptionId) :
    Obligation.Kept step
      (fun pipeline => pipeline.broadcaster.WellFormed)
      (fun pipeline => Broadcaster.Waiting id pipeline.broadcaster)
      Pending Misses where
  validStep pipeline event wellFormed := by
    rw [broadcaster_step]
    exact wellFormed.run _
  arises _ _ wellFormed none waiting :=
    .inl (requested_of_waiting_step wellFormed none waiting)
  stays _ _ wellFormed pending notMissed waiting :=
    pending_step wellFormed pending notMissed waiting

end Pipeline

/--
What a viewer can rely on.  Since it started to wait its request is at one of
the places, or a forced frame came out as no keyframe; so nobody waits when the
encoder keeps its word and no request is on its way.
-/
structure RequestRules
    (duration : UInt32)
    (events : List Event) : Prop where
  owed :
    ∀ id,
      Broadcaster.Waiting id
          ((Pipeline.initial duration).run events).broadcaster →
      ∃ earlier event later,
        events = earlier ++ event :: later ∧
          ¬ Broadcaster.Waiting id
              ((Pipeline.initial duration).run earlier).broadcaster ∧
          (∀ before after, later = before ++ after →
            Broadcaster.Waiting id
              ((Pipeline.initial duration).run
                (earlier ++ event :: before)).broadcaster) ∧
          (((Pipeline.initial duration).run events).Pending ∨
            ∃ before missed after,
              later = before ++ missed :: after ∧
                ((Pipeline.initial duration).run
                  (earlier ++ event :: before)).Misses missed)
  fed :
    (∀ before event after, events = before ++ event :: after →
      ¬ ((Pipeline.initial duration).run before).Misses event) →
      ¬ ((Pipeline.initial duration).run events).Pending →
        ∀ id,
          ¬ Broadcaster.Waiting id
            ((Pipeline.initial duration).run events).broadcaster

/-- The rules hold in every run. -/
theorem keyframe_requests_on_macOs
    (duration : UInt32)
    (events : List Event) :
    RequestRules duration events := by
  have owed (id : SubscriptionId)
      (waiting :
        Broadcaster.Waiting id
          ((Pipeline.initial duration).run events).broadcaster) :
      ∃ earlier event later,
        events = earlier ++ event :: later ∧
          ¬ Broadcaster.Waiting id
              ((Pipeline.initial duration).run earlier).broadcaster ∧
          (∀ before after, later = before ++ after →
            Broadcaster.Waiting id
              ((Pipeline.initial duration).run
                (earlier ++ event :: before)).broadcaster) ∧
          (((Pipeline.initial duration).run events).Pending ∨
            ∃ before missed after,
              later = before ++ missed :: after ∧
                ((Pipeline.initial duration).run
                  (earlier ++ event :: before)).Misses missed) := by
    have none :
        ¬ Broadcaster.Waiting id (Pipeline.initial duration).broadcaster := by
      simp [Broadcaster.Waiting, Pipeline.initial, Broadcaster.initial,
        Broadcaster.alive]
    exact (Pipeline.kept_pending id).since_arising
      Broadcaster.wellFormed_initial none events waiting
  refine ⟨owed, ?_⟩
  intro keepsWord notPending id waiting
  obtain ⟨earlier, event, later, split, absent, lasts, settled⟩ :=
    owed id waiting
  rcases settled with pending | ⟨before, missed, after, parted, misses⟩
  · exact notPending pending
  · exact keepsWord (earlier ++ event :: before) missed after
      (by rw [split, parted]; simp) misses

end CamRtsp.MacOs
