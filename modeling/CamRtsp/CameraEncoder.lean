import CamRtsp.NativeBridge

namespace CamRtsp.CameraEncoder

open RustText
open Broadcaster (Operation)
open NativeBridge (DirectBuffer PushRequest isConnections)

/-!
# The Android camera encoder

`CameraEncoder` works in messages on a thread of its own: its own ones and the
callbacks of the camera and the codec.  The service sets `stopped`, which that
thread reads before it does anything outside, posts a clean-up and waits for
it.  Every read of the flag, every call of the native library and every call of
the framework that may throw is a step.  Which camera, size and frame rates
`configure` chooses is left open.
-/

/-- `MediaCodec.BUFFER_FLAG_CODEC_CONFIG`. -/
def bufferFlagCodecConfig : Int32 :=
  2

/-- An output buffer with its `BufferInfo`. -/
structure OutputBuffer where
  index : Nat
  offset : Int32
  size : Int32
  presentationTimeUs : Int64
  flags : Int32
  deriving Repr, DecidableEq

/-- The parameter sets of a `MediaFormat`. -/
structure OutputFormat where
  csd0 : Option Bytes
  csd1 : Option Bytes
  deriving Repr, DecidableEq

/-- A message of the encoder's thread. -/
inductive Message where
  | configure
  | outputBufferAvailable (buffer : OutputBuffer)
  | outputFormatChanged (format : OutputFormat)
  | codecError (diagnosticInfo : Text)
  | cameraOpened
  | cameraDisconnected
  | cameraError (error : Int32)
  | sessionConfigured
  | sessionFailed
  | requestKeyframe
  | cleanup
  deriving Repr, DecidableEq

/-- What has to be closed again. -/
inductive Resource where
  | codec
  | surface
  | camera
  | session
  deriving Repr, DecidableEq

/-- A call of the native library on the handle of the encoder. -/
inductive NativeCall where
  | setFrameRate (numerator denominator : Int32)
  | pushAccessUnit (request : PushRequest)
  | setCodecConfig (sps pps : Bytes)

/-- What the native library does in a call, or what it throws. -/
def NativeCall.operation
    (now : Instant) : NativeCall → Except Text Operation
  | .setFrameRate numerator denominator =>
      (NativeBridge.checkFrameRate numerator denominator).map fun _ =>
        .setFrameRate numerator.toUInt32 denominator.toUInt32
  | .pushAccessUnit request =>
      request.accessUnit.map fun accessUnit => .publish accessUnit now
  | .setCodecConfig sps pps =>
      (NativeBridge.codecConfig (.ok sps) (.ok pps)).map .setCodecConfig

/-- `withoutStartCode`. -/
def withoutStartCode (bytes : Bytes) : Bytes :=
  match bytes with
  | 0 :: 0 :: 0 :: 1 :: rest => rest
  | 0 :: 0 :: 1 :: rest => rest
  | _ => bytes

/-- What was done in a run; a native call finds its server or not. -/
inductive Call where
  | posted (message : Message)
  | lost (message : Message)
  | handled (message : Message)
  | native (call : NativeCall) (known : Bool) (result : Except Text Unit)
  | releaseOutputBuffer (index : Nat)
  | acquired (resource : Resource)
  | closed (resource : Resource)
  | setParameters
  | onConfigured
  | onError (message : Text)
  | stop
  | cleaned
  | timedOut

/-- Where the encoder's thread is. -/
inductive Position where
  | idle
  | check (message : Message)
  | createCodec
  | negotiate
  | setFrameRate (lower upper : Int32)
  | createInputSurface
  | openCamera
  | push (buffer : OutputBuffer)
  | announce (format : OutputFormat)
  | createCaptureSession
  | setRepeatingRequest
  | setParameters
  | fail (message : Text) (buffer : Option OutputBuffer)
  | onError (message : Text) (buffer : Option OutputBuffer)
  | release (buffer : OutputBuffer)
  | quit
  deriving Repr, DecidableEq

/-- Where the service is, as far as the encoder is concerned. -/
inductive Owner where
  | free
  | taken
  | posting
  | awaiting
  | returned
  | released
  deriving Repr, DecidableEq

/-- What a step learns from the framework. -/
structure Response where
  thrown : Option (Option Text)
  range : Int32 × Int32
  buffer : Except (Option Text) (Option DirectBuffer)
  now : Instant

/--
The encoder, its server, and all calls so far.  `held` are the fields that are
not null, `opened` the resources that are open; the framework still has to
answer `opening` and `configuring`.
-/
structure Encoder where
  broadcaster : Broadcaster
  known : Bool
  owner : Owner
  started : Bool
  stopped : Bool
  complete : Bool
  queue : List Message
  quitting : Bool
  position : Position
  held : List Resource
  opened : List Resource
  opening : Bool
  configuring : Bool
  log : List Call

namespace Encoder

/-- The encoder behind its constructor. -/
def initial : Encoder where
  broadcaster := .initial
  known := true
  owner := .free
  started := false
  stopped := false
  complete := false
  queue := []
  quitting := false
  position := .idle
  held := []
  opened := []
  opening := false
  configuring := false
  log := []

/-- The thread goes on at another position. -/
def goto (encoder : Encoder) (position : Position) : Encoder :=
  { encoder with position := position }

/-- A call is made. -/
def note (encoder : Encoder) (call : Call) : Encoder :=
  { encoder with log := encoder.log ++ [call] }

/-- `handler.post`, which a looper that quits refuses. -/
def post (encoder : Encoder) (message : Message) : Encoder :=
  if encoder.quitting then
    encoder.note (.lost message)
  else
    { encoder.note (.posted message) with
      queue := encoder.queue ++ [message] }

/-- A resource is open now. -/
def acquire (encoder : Encoder) (resource : Resource) : Encoder :=
  { encoder.note (.acquired resource) with
    opened := encoder.opened ++ [resource] }

/-- A resource is closed. -/
def close (encoder : Encoder) (resource : Resource) : Encoder :=
  { encoder.note (.closed resource) with
    opened := encoder.opened.filter (· ≠ resource) }

/-- A field is assigned. -/
def hold (encoder : Encoder) (resource : Resource) : Encoder :=
  { encoder with held := encoder.held ++ [resource] }

/-- A field is closed and set to null, if it is not. -/
def drop (encoder : Encoder) (resource : Resource) : Encoder :=
  if resource ∈ encoder.held then
    { encoder.close resource with
      held := encoder.held.filter (· ≠ resource) }
  else
    encoder

/-- A call of the native library. -/
def native
    (encoder : Encoder)
    (call : NativeCall)
    (now : Instant) : Encoder × Except Text Unit :=
  match call.operation now with
  | .error message =>
      (encoder.note (.native call encoder.known (.error message)),
        .error message)
  | .ok operation =>
      if encoder.known then
        ({ encoder.note (.native call true (.ok ())) with
            broadcaster := encoder.broadcaster.step operation },
          .ok ())
      else
        (encoder.note
            (.native call false (.error NativeBridge.unknownHandle)),
          .error NativeBridge.unknownHandle)

/-- The text of an exception's message in a template. -/
def shown (message : Option Text) : Text :=
  message.getD "null".toList

/-- `fail` in the `catch` of `start`. -/
def failStartup (encoder : Encoder) (message : Option Text) : Encoder :=
  encoder.goto
    (.fail (message.getD "Camera startup failed".toList) none)

/-- What follows a callback of the codec, which releases its buffer. -/
def leave (encoder : Encoder) (buffer : Option OutputBuffer) : Encoder :=
  match buffer with
  | some buffer => encoder.goto (.release buffer)
  | none => encoder.goto .idle

/-- The clean-up that `stop` posts. -/
def cleanup (encoder : Encoder) : Encoder :=
  let encoder :=
    (((encoder.drop .session).drop .camera).drop .codec).drop .surface
  { encoder.note .cleaned with complete := true }.goto .quit

/-- The thread takes a message. -/
def handle (encoder : Encoder) (message : Message) : Encoder :=
  let encoder := encoder.note (.handled message)
  match message with
  | .codecError diagnosticInfo =>
      encoder.goto (.fail ("MediaCodec: ".toList ++ diagnosticInfo) none)
  | .cameraDisconnected =>
      (encoder.close .camera).goto
        (.fail "Camera disconnected".toList none)
  | .cameraError error =>
      (encoder.close .camera).goto
        (.fail ("Camera error ".toList ++ (toString error).toList) none)
  | .sessionFailed =>
      (encoder.close .session).goto
        (.fail "Camera capture configuration failed".toList none)
  | .cleanup => encoder.cleanup
  | _ => encoder.goto (.check message)

/-- The thread takes the next message, if there is one. -/
def takeMessage (encoder : Encoder) : Encoder :=
  match encoder.queue with
  | [] => encoder
  | message :: later => { encoder with queue := later }.handle message

/-- The thread reads `stopped` for a message. -/
def check (encoder : Encoder) (message : Message) : Encoder :=
  match message with
  | .configure =>
      encoder.goto (if encoder.stopped then .idle else .createCodec)
  | .outputBufferAvailable buffer =>
      if encoder.stopped = false ∧ 0 < buffer.size ∧
          buffer.flags &&& bufferFlagCodecConfig = 0 then
        encoder.goto (.push buffer)
      else
        encoder.goto (.release buffer)
  | .outputFormatChanged format =>
      encoder.goto (if encoder.stopped then .idle else .announce format)
  | .cameraOpened =>
      if encoder.stopped then
        (encoder.close .camera).goto .idle
      else
        (encoder.hold .camera).goto .createCaptureSession
  | .sessionConfigured =>
      if encoder.stopped then
        (encoder.close .session).goto .idle
      else
        (encoder.hold .session).goto .setRepeatingRequest
  | .requestKeyframe =>
      encoder.goto (if encoder.stopped then .idle else .setParameters)
  | _ => encoder.goto .idle

/-- `onOutputBufferAvailable` pushes the buffer. -/
def push
    (encoder : Encoder)
    (buffer : OutputBuffer)
    (response : Response) : Encoder :=
  match response.buffer with
  | .error message =>
      encoder.goto
        (.fail ("Encoder output: ".toList ++ shown message) (some buffer))
  | .ok none => encoder.goto (.release buffer)
  | .ok (some direct) =>
      let (encoder, result) :=
        encoder.native
          (.pushAccessUnit {
            buffer := direct
            offset := buffer.offset
            size := buffer.size
            ptsUs := buffer.presentationTimeUs
            flags := buffer.flags })
          response.now
      match result with
      | .ok () => encoder.goto (.release buffer)
      | .error message =>
          encoder.goto
            (.fail ("Encoder output: ".toList ++ message) (some buffer))

/-- `onOutputFormatChanged` announces the parameter sets. -/
def announce
    (encoder : Encoder)
    (format : OutputFormat)
    (response : Response) : Encoder :=
  let failed (message : Text) : Position :=
    .fail ("Codec configuration: ".toList ++ message) none
  match response.thrown with
  | some message => encoder.goto (failed (shown message))
  | none =>
      match format.csd0, format.csd1 with
      | some sps, some pps =>
          let (encoder, result) :=
            encoder.native
              (.setCodecConfig (withoutStartCode sps)
                (withoutStartCode pps))
              response.now
          match result with
          | .ok () => encoder.goto .idle
          | .error message => encoder.goto (failed message)
      | _, _ =>
          encoder.goto
            (failed "H.264 encoder did not publish SPS/PPS".toList)

/-- A step of `configure` at the calls of the framework. -/
def configured
    (encoder : Encoder)
    (response : Response)
    (next : Encoder → Encoder) : Encoder :=
  match response.thrown with
  | some message => encoder.failStartup message
  | none => next encoder

/-- The next step of the encoder's thread. -/
def work (encoder : Encoder) (response : Response) : Encoder :=
  match encoder.position with
  | .idle => encoder.takeMessage
  | .check message => encoder.check message
  | .createCodec =>
      encoder.configured response fun encoder =>
        ((encoder.acquire .codec).hold .codec).goto .negotiate
  | .negotiate =>
      encoder.configured response fun encoder =>
        encoder.goto (.setFrameRate response.range.1 response.range.2)
  | .setFrameRate lower upper =>
      let (encoder, result) :=
        encoder.native
          (.setFrameRate (if lower = upper then upper else 0) 1)
          response.now
      match result with
      | .ok () => encoder.goto .createInputSurface
      | .error message => encoder.failStartup (some message)
  | .createInputSurface =>
      encoder.configured response fun encoder =>
        ((encoder.acquire .surface).hold .surface).goto .openCamera
  | .openCamera =>
      encoder.configured response fun encoder =>
        { encoder with opening := true }.goto .idle
  | .push buffer => encoder.push buffer response
  | .announce format => encoder.announce format response
  | .createCaptureSession =>
      match response.thrown with
      | some message =>
          encoder.goto
            (.fail ("Camera session: ".toList ++ shown message) none)
      | none => { encoder with configuring := true }.goto .idle
  | .setRepeatingRequest =>
      match response.thrown with
      | some message =>
          encoder.goto
            (.fail ("Camera request: ".toList ++ shown message) none)
      | none => (encoder.note .onConfigured).goto .idle
  | .setParameters =>
      if .codec ∈ encoder.held then
        (encoder.note .setParameters).goto .idle
      else
        encoder.goto .idle
  | .fail message buffer =>
      if encoder.stopped then
        encoder.leave buffer
      else
        encoder.goto (.onError message buffer)
  | .onError message buffer =>
      (encoder.note (.onError message)).leave buffer
  | .release buffer =>
      (encoder.note (.releaseOutputBuffer buffer.index)).goto .idle
  | .quit => { encoder with quitting := true }.goto .idle

end Encoder

/-- The callbacks that the framework can post at any time. -/
def Message.isCallback : Message → Bool
  | .outputBufferAvailable _ => true
  | .outputFormatChanged _ => true
  | .codecError _ => true
  | .cameraDisconnected => true
  | .cameraError _ => true
  | _ => false

/-- A step of one of the threads. -/
inductive Event where
  | outside (operation : Operation)
  | start
  | poll
  | requestKeyframe
  | stop
  | postCleanup
  | await (timeout : Bool)
  | stopServer
  | callback (message : Message)
  | cameraOpened
  | sessionConfigured
  | sessionFailed
  | work (response : Response)

namespace Encoder

/-- The service polls the server for a keyframe request. -/
def poll (encoder : Encoder) : Encoder :=
  if encoder.owner = .free ∧ encoder.started then
    let (requested, broadcaster) :=
      encoder.broadcaster.takeKeyframeRequest
    { encoder with
      broadcaster := broadcaster
      owner := if requested then .taken else .free }
  else
    encoder

/-- `await` returns. -/
def await (encoder : Encoder) (timeout : Bool) : Encoder :=
  if encoder.owner = .awaiting then
    if encoder.complete then
      { encoder with owner := .returned }
    else if timeout then
      { encoder.note .timedOut with owner := .returned }
    else
      encoder
  else
    encoder

/-- One step. -/
def step (encoder : Encoder) : Event → Encoder
  | .outside operation =>
      if isConnections operation then
        { encoder with
          broadcaster := encoder.broadcaster.step operation }
      else
        encoder
  | .start =>
      if encoder.owner = .free ∧ encoder.started = false then
        { encoder with started := true }.post .configure
      else
        encoder
  | .poll => encoder.poll
  | .requestKeyframe =>
      if encoder.owner = .taken then
        { encoder with owner := .free }.post .requestKeyframe
      else
        encoder
  | .stop =>
      if encoder.owner = .free then
        { encoder.note .stop with stopped := true, owner := .posting }
      else
        encoder
  | .postCleanup =>
      if encoder.owner = .posting then
        { encoder with owner := .awaiting }.post .cleanup
      else
        encoder
  | .await timeout => encoder.await timeout
  | .stopServer =>
      if encoder.owner = .returned then
        { encoder with known := false, owner := .released }
      else
        encoder
  | .callback message =>
      if message.isCallback then
        encoder.post message
      else
        encoder
  | .cameraOpened =>
      if encoder.opening then
        { encoder.acquire .camera with opening := false }.post
          .cameraOpened
      else
        encoder
  | .sessionConfigured =>
      if encoder.configuring then
        { encoder.acquire .session with configuring := false }.post
          .sessionConfigured
      else
        encoder
  | .sessionFailed =>
      if encoder.configuring then
        { encoder with configuring := false }.post .sessionFailed
      else
        encoder
  | .work response => encoder.work response

/-- A run. -/
def run (encoder : Encoder) (events : List Event) : Encoder :=
  events.foldl step encoder

end Encoder

end CamRtsp.CameraEncoder
