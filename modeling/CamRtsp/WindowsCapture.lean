import CamRtsp.WindowsEncoder

namespace CamRtsp.Windows

open RustText
open Broadcaster (Operation)

/-!
# The Windows capture worker

Three threads meet here.  Media Foundation hands captured samples to a bounded
queue, a hardware encoder raises events into another one, and the worker takes
commands, samples and events in a loop.  Every access to a queue or a flag and
every call of the encoder is a step; what such a call returns is left open.
-/

/-- `CAPTURE_QUEUE_CAPACITY`. -/
def captureQueueCapacity : Nat :=
  16

/-- The capacity of the event queue of a hardware encoder. -/
def eventQueueCapacity : Nat :=
  32

/-- `WorkerCommand`. -/
inductive WorkerCommand where
  | requestKeyframe
  | stop
  deriving Repr, DecidableEq

/-- `CapturedSample`; the bytes matter when the camera delivers H.264. -/
structure CapturedSample where
  sample : EncodedSample
  timestamp : Int64

/-- `TransformEvent`. -/
inductive TransformEvent where
  | needInput
  | haveOutput
  | failure (message : Text)
  deriving Repr, DecidableEq

/-- `MftEncoder`. -/
inductive MftEncoder where
  | asynchronous
  | synchronous
  deriving Repr, DecidableEq

/-- `PipelineMode`. -/
inductive PipelineMode where
  | passthrough
  | encoder (encoder : MftEncoder)
  deriving Repr, DecidableEq

/-- `request_keyframe` of the mode, given what the encoder answers. -/
def PipelineMode.requestKeyframe
    (mode : PipelineMode)
    (answer : Except Text Unit) : Except Text Unit :=
  match mode with
  | .passthrough =>
      .error
        ("the selected camera exposes H.264 directly and does not " ++
          "support forced keyframes").toList
  | .encoder _ => answer

/-- A message of `ProcessMessage`, whose result nobody looks at. -/
inductive Message where
  | beginStreaming
  | startOfStream
  | endOfStream
  | drain
  | endStreaming
  deriving Repr, DecidableEq

/-- The messages to an encoder that has been configured. -/
def PipelineMode.opening : PipelineMode → List Message
  | .passthrough => []
  | .encoder _ => [.beginStreaming, .startOfStream]

/-- What follows `pump_events`. -/
inductive Pumping where
  | input (sample : CapturedSample)
  | consumed
  | shutdown (result : Except Text Unit)

/-- What follows `drain`. -/
inductive Draining where
  | input (sample : CapturedSample)
  | retry (sample : CapturedSample)
  | consumed
  | shutdown (result : Except Text Unit)

/-- What follows the messages at the end of a stream. -/
inductive Closing where
  | pump (result : Except Text Unit)
  | drain (result : Except Text Unit)
  | ended (result : Except Text Unit)

/-- Where the worker is in its loop. -/
inductive Position where
  | failureCheck
  | discontinuityCheck
  | commandCheck
  | receive
  | consume (sample : CapturedSample)
  | pump (next : Pumping)
  | produceOutput (next : Pumping)
  | drain (next : Draining)
  | processInput (sample : CapturedSample) (mayRetry : Bool)
  | leave (result : Except Text Unit)
  | send (messages : List Message) (next : Closing)
  | ended (result : Except Text Unit)

/-- The place behind the messages. -/
def Closing.position : Closing → Position
  | .pump result => .pump (.shutdown result)
  | .drain result => .drain (.shutdown result)
  | .ended result => .ended result

/-- What `ProcessInput` returns; an error has its text from `media_error`. -/
inductive InputResult where
  | accepted
  | notAccepting (message : Text)
  | failed (message : Text)
  deriving Repr, DecidableEq

/-- What `ProcessOutput` returns; an error has its text from `media_error`. -/
inductive OutputResult where
  | produced (header : Option Bytes) (sample : EncodedSample)
  | nothing
  | needMoreInput (message : Text)
  | failed (message : Text)

/-- What the worker learns in a step from outside. -/
structure Response where
  forced : Except Text Unit
  bytes : Except String Bytes
  input : InputResult
  output : OutputResult

/-- What was done in a run. -/
inductive Call where
  | queued (sample : CapturedSample)
  | dropped (sample : CapturedSample)
  | raised (event : TransformEvent)
  | queuedEvent (event : TransformEvent)
  | forced (command : Bool) (result : Except Text Unit)
  | received (sample : CapturedSample)
  | skipped (sample : CapturedSample)
  | pumped (event : TransformEvent)
  | input (sample : CapturedSample) (result : InputResult)
  | output (result : OutputResult)
  | message (message : Message)

/-- The worker, the queues and flags around it, and all calls so far. -/
structure Capture where
  mode : PipelineMode
  broadcaster : Broadcaster
  taken : Bool
  running : Bool
  commands : List WorkerCommand
  alive : Bool
  discontinuity : Bool
  failure : Option Text
  samples : List CapturedSample
  listening : Bool
  overflowed : Bool
  events : List TransformEvent
  needsInput : Bool
  position : Position
  log : List Call

/-- What the source reader passes to `OnReadSample`. -/
inductive ReadOutcome where
  | failed (message : Text)
  | mediaTypeChanged
  | sample (sample : Option CapturedSample)

namespace Capture

/-- The worker behind the message that it has started. -/
def started (mode : PipelineMode) (broadcaster : Broadcaster) : Capture where
  mode := mode
  broadcaster := broadcaster
  taken := false
  running := true
  commands := []
  alive := true
  discontinuity := false
  failure := none
  samples := []
  listening := true
  overflowed := false
  events := []
  needsInput := false
  position := .failureCheck
  log := mode.opening.map .message

/-- The worker has run to its end. -/
def isEnded (capture : Capture) : Bool :=
  match capture.position with
  | .ended _ => true
  | _ => false

/-- The worker goes on at another position. -/
def goto (capture : Capture) (position : Position) : Capture :=
  { capture with position := position }

/-- A call is made. -/
def note (capture : Capture) (call : Call) : Capture :=
  { capture with log := capture.log ++ [call] }

/-- Calls on the sink. -/
def publish (capture : Capture) (operations : List Operation) : Capture :=
  { capture with broadcaster := capture.broadcaster.run operations }

/-! ## Callbacks and the owner -/

/-- `OnReadSample`. -/
def onReadSample (capture : Capture) (outcome : ReadOutcome) : Capture :=
  if capture.alive then
    match outcome with
    | .failed message => { capture with failure := some message }
    | .mediaTypeChanged =>
        { capture with
          failure :=
            some "camera changed its media type while streaming".toList }
    | .sample none => capture
    | .sample (some sample) =>
        if capture.samples.length < captureQueueCapacity then
          { capture.note (.queued sample) with
            samples := capture.samples ++ [sample] }
        else
          { capture.note (.dropped sample) with discontinuity := true }
  else
    capture

/-- `try_send` on the event queue. -/
def trySend (capture : Capture) (event : TransformEvent) :
    Bool × Capture :=
  if capture.events.length < eventQueueCapacity then
    (true,
      { capture.note (.queuedEvent event) with
        events := capture.events ++ [event] })
  else
    (false, capture)

/-- `Invoke` up to its first `try_send`. -/
def invoke (capture : Capture) (event : TransformEvent) : Capture :=
  if capture.listening ∧ capture.overflowed = false then
    let (sent, capture) := (capture.note (.raised event)).trySend event
    { capture with
      overflowed :=
        match event with
        | .failure _ => false
        | _ => !sent }
  else
    capture

/-- `Invoke` reports that an event did not fit. -/
def reportOverflow (capture : Capture) : Capture :=
  if capture.overflowed then
    { (capture.trySend
        (.failure
          "asynchronous H.264 encoder event queue overflowed".toList)).2
      with overflowed := false }
  else
    capture

/-- The poll loop calls `request_keyframe` of the pipeline and goes on. -/
def requestKeyframe (capture : Capture) : Capture :=
  if capture.taken then
    { capture with
      taken := false
      commands :=
        if capture.running ∧ capture.isEnded = false then
          capture.commands ++ [.requestKeyframe]
        else
          capture.commands }
  else
    capture

/-- `stop` behind the poll loop, up to the join. -/
def stop (capture : Capture) : Capture :=
  if capture.running ∧ capture.taken = false then
    { capture with
      running := false
      commands :=
        if capture.isEnded then
          capture.commands
        else
          capture.commands ++ [.stop] }
  else
    capture

/-! ## The worker -/

/-- `request_keyframe` of the mode, asked by a command or after a drop. -/
def force
    (capture : Capture)
    (command : Bool)
    (response : Response) : Capture :=
  capture.note
    (.forced command (capture.mode.requestKeyframe response.forced))

/-- `consume` of a camera that delivers H.264. -/
def consumePassthrough
    (bytes : Except String Bytes)
    (captured : CapturedSample) : List Operation × Except Text Unit :=
  match bytes with
  | .error message => ([], .error message.toList)
  | .ok first =>
      let announced : List Operation :=
        (codecConfigFromNalUnits (splitH264 first)).toList.map
          .setCodecConfig
      match captured.sample.bytes with
      | .error message => (announced, .error message.toList)
      | .ok _ =>
          if captured.sample.nalUnits = [] then
            (announced,
              .error "camera emitted an empty H.264 access unit".toList)
          else
            (announced ++ [.publish
                { captured.sample.accessUnit with
                  pts90khz := hnsTo90khz captured.timestamp }
                captured.sample.publishedAt],
              .ok ())

/-- The worker publishes an encoded sample, or fails. -/
def publishSample
    (capture : Capture)
    (header : Option Bytes)
    (sample : EncodedSample)
    (next : Position)
    (fail : Capture → Text → Capture) : Capture :=
  let (operations, result) := publishEncodedSample header sample
  let capture := capture.publish operations
  match result with
  | .ok () => capture.goto next
  | .error message => fail capture message.toList

/-- A hardware encoder has taken its last event: it is stopped and dropped. -/
def endHardware
    (capture : Capture)
    (result : Except Text Unit) : Capture :=
  { capture with listening := false }.goto
    (.send [.endStreaming, .endOfStream, .endStreaming] (.ended result))

/-- `pump_events` fails. -/
def failPumping
    (next : Pumping)
    (capture : Capture)
    (message : Text) : Capture :=
  match next with
  | .shutdown result => capture.endHardware result
  | _ => capture.goto (.leave (.error message))

/-- `drain` fails; in `shutdown` only the drop follows. -/
def failDraining
    (next : Draining)
    (capture : Capture)
    (message : Text) : Capture :=
  match next with
  | .shutdown result =>
      capture.goto (.send [.endStreaming] (.ended result))
  | _ => capture.goto (.leave (.error message))

/-- `pump_events` takes an event or finds none. -/
def pump (capture : Capture) (next : Pumping) : Capture :=
  match capture.events with
  | [] =>
      match next with
      | .input sample =>
          if capture.needsInput then
            capture.goto (.processInput sample false)
          else
            (capture.note (.skipped sample)).goto .failureCheck
      | .consumed => capture.goto .failureCheck
      | .shutdown result => capture.endHardware result
  | event :: later =>
      let capture := { capture.note (.pumped event) with events := later }
      match event with
      | .needInput => { capture with needsInput := true }
      | .haveOutput => capture.goto (.produceOutput next)
      | .failure message => failPumping next capture message

/-- `produce_output` of a hardware encoder. -/
def produceOutput
    (capture : Capture)
    (next : Pumping)
    (output : OutputResult) : Capture :=
  let capture := capture.note (.output output)
  match output with
  | .produced header sample =>
      capture.publishSample header sample (.pump next) (failPumping next)
  | .nothing => capture.goto (.pump next)
  | .needMoreInput message => failPumping next capture message
  | .failed message => failPumping next capture message

/-- `drain` of a software encoder, one `ProcessOutput`. -/
def drain
    (capture : Capture)
    (next : Draining)
    (output : OutputResult) : Capture :=
  let capture := capture.note (.output output)
  match output with
  | .produced header sample =>
      capture.publishSample header sample (.drain next) (failDraining next)
  | .nothing => capture
  | .needMoreInput _ =>
      match next with
      | .input sample => capture.goto (.processInput sample true)
      | .retry sample => capture.goto (.processInput sample false)
      | .consumed => capture.goto .failureCheck
      | .shutdown result =>
          -- `shutdown` and the drop send the same message.
          capture.goto (.send [.endStreaming, .endStreaming] (.ended result))
  | .failed message => failDraining next capture message

/-- `ProcessInput`. -/
def processInput
    (capture : Capture)
    (sample : CapturedSample)
    (mayRetry : Bool)
    (result : InputResult) : Capture :=
  let capture := capture.note (.input sample result)
  match result with
  | .accepted =>
      match capture.mode with
      | .encoder .synchronous => capture.goto (.drain .consumed)
      | _ => { capture with needsInput := false }.goto (.pump .consumed)
  | .notAccepting message =>
      if mayRetry then
        capture.goto (.drain (.retry sample))
      else
        capture.goto (.leave (.error message))
  | .failed message => capture.goto (.leave (.error message))

/-- `ProcessMessage` with the next of the messages. -/
def send
    (capture : Capture)
    (messages : List Message)
    (next : Closing) : Capture :=
  match messages with
  | [] => capture.goto next.position
  | message :: later =>
      (capture.note (.message message)).goto (.send later next)

/-- The next step of the worker. -/
def work (capture : Capture) (response : Response) : Capture :=
  match capture.position with
  | .failureCheck =>
      match capture.failure with
      | some message => capture.goto (.leave (.error message))
      | none => capture.goto .discontinuityCheck
  | .discontinuityCheck =>
      let capture := capture.goto .commandCheck
      if capture.discontinuity then
        { capture with discontinuity := false }.force false response
      else
        capture
  | .commandCheck =>
      match capture.commands with
      | [] => capture.goto .receive
      | .stop :: later =>
          { capture with commands := later }.goto (.leave (.ok ()))
      | .requestKeyframe :: later =>
          ({ capture with commands := later }.goto .receive).force true
            response
  | .receive =>
      match capture.samples with
      | [] => capture.goto .failureCheck
      | sample :: later =>
          { capture.note (.received sample) with samples := later }.goto
            (.consume sample)
  | .consume sample =>
      match capture.mode with
      | .passthrough =>
          let (operations, result) :=
            consumePassthrough response.bytes sample
          (capture.publish operations).goto
            (match result with
              | .ok () => .failureCheck
              | .error message => .leave (.error message))
      | .encoder .asynchronous => capture.goto (.pump (.input sample))
      | .encoder .synchronous => capture.goto (.drain (.input sample))
  | .pump next => capture.pump next
  | .produceOutput next => capture.produceOutput next response.output
  | .drain next => capture.drain next response.output
  | .processInput sample mayRetry =>
      capture.processInput sample mayRetry response.input
  | .leave result =>
      { capture with alive := false }.goto
        (match capture.mode with
          | .passthrough => .ended result
          | .encoder .asynchronous =>
              .send [.endOfStream, .drain] (.pump result)
          | .encoder .synchronous =>
              .send [.endOfStream, .drain] (.drain result))
  | .send messages next => capture.send messages next
  | .ended _ => capture

end Capture

/-- What connections and the application do with the broadcaster. -/
def isOutside : Operation → Bool
  | .subscribe => true
  | .recvTimeout _ => true
  | .drop _ => true
  | .setFrameRate _ _ => true
  | _ => false

/-- A step of one of the threads. -/
inductive Event where
  | outside (operation : Operation)
  | poll
  | requestKeyframe
  | stop
  | readSample (outcome : ReadOutcome)
  | readFailed (message : Text)
  | invoke (event : TransformEvent)
  | reportOverflow
  | work (response : Response)

namespace Capture

/-- One step. -/
def step (capture : Capture) : Event → Capture
  | .outside operation =>
      if isOutside operation then
        capture.publish [operation]
      else
        capture
  | .poll =>
      if capture.taken ∨ capture.running = false then
        capture
      else
        let (taken, broadcaster) := capture.broadcaster.takeKeyframeRequest
        { capture with taken := taken, broadcaster := broadcaster }
  | .requestKeyframe => capture.requestKeyframe
  | .stop => capture.stop
  | .readSample outcome => capture.onReadSample outcome
  | .readFailed message =>
      if capture.alive then
        { capture with failure := some message }
      else
        capture
  | .invoke event => capture.invoke event
  | .reportOverflow => capture.reportOverflow
  | .work response => capture.work response

/-- A run. -/
def run (capture : Capture) (events : List Event) : Capture :=
  events.foldl step capture

end Capture

end CamRtsp.Windows
