import CamRtsp.Core

namespace CamRtsp

open RustText

/-!
# The broadcaster

Capture code publishes access units; every connected viewer reads them from a
queue of its own.  Each operation below runs under the broadcaster's lock, or
under the lock of the one queue it touches.

A `Subscription` and the broadcaster's `Subscriber` share a queue and a flag
behind reference counts.  Here the shared pairs live in one list, and both
sides hold an index into it.
-/

/-- `MAX_QUEUED_ACCESS_UNITS`. -/
def maxQueuedAccessUnits : Nat :=
  16

/-- What a viewer has not yet read. -/
structure FrameQueue where
  frames : List EncodedAccessUnit
  waitingForKeyframe : Bool
  deriving Repr, DecidableEq

/-- The queue and the flag a `Subscriber` shares with its `Subscription`. -/
structure Shared where
  queue : FrameQueue
  alive : Bool
  deriving Repr, DecidableEq

/-- The index of a shared pair. -/
abbrev SubscriptionId := Nat

/-- The broadcaster's state behind its lock. -/
structure BroadcastState where
  clients : List SubscriptionId
  codec : Option CodecConfig
  frameRate : Option (UInt32 × UInt32)
  keyframeRequested : Bool
  frames : UInt64
  lastFrame : Option Instant
  deriving Repr, DecidableEq

/-- The broadcaster together with all shared pairs ever created. -/
structure Broadcaster where
  state : BroadcastState
  shared : List Shared
  deriving Repr, DecidableEq

/-- What `Broadcaster::stats` reports. -/
structure StreamStats where
  viewers : Nat
  frames : UInt64
  ready : Bool
  lastFrameAgeMs : Option UInt64
  deriving Repr, DecidableEq

/-- Some NAL unit has the given type. -/
def hasNalType (nalUnits : List Bytes) (type : UInt8) : Bool :=
  nalUnits.any fun nal => nalType nal == some type

/-- The access unit is flagged as a keyframe or contains an IDR slice. -/
def IsKeyframe (accessUnit : EncodedAccessUnit) : Prop :=
  accessUnit.keyframe = true ∨
    ∃ nal ∈ accessUnit.nalUnits, nalType nal = some 5

/-- Put the parameter set in front unless one of its type is there. -/
def insertParameterSet
    (type : UInt8)
    (parameterSet : Bytes)
    (nalUnits : List Bytes) : List Bytes :=
  if hasNalType nalUnits type then nalUnits else parameterSet :: nalUnits

/-- The access unit as `publish` hands it to the subscribers. -/
def completed
    (codec : Option CodecConfig)
    (accessUnit : EncodedAccessUnit) : EncodedAccessUnit :=
  let keyframe := accessUnit.keyframe || hasNalType accessUnit.nalUnits 5
  match keyframe, codec with
  | true, some codec =>
      { accessUnit with
        keyframe := true
        nalUnits :=
          insertParameterSet 7 codec.sps
            (insertParameterSet 8 codec.pps accessUnit.nalUnits) }
  | _, _ => { accessUnit with keyframe := keyframe }

/-- A queue after the overflow check, and whether it overflowed. -/
def FrameQueue.relieve (queue : FrameQueue) : FrameQueue × Bool :=
  if queue.frames.length = maxQueuedAccessUnits then
    ({ frames := [], waitingForKeyframe := true }, true)
  else
    (queue, false)

/-- One queue under `publish`. -/
def FrameQueue.push
    (queue : FrameQueue)
    (accessUnit : EncodedAccessUnit) : FrameQueue :=
  let waiting := !accessUnit.keyframe && queue.waitingForKeyframe
  { frames :=
      if waiting then queue.frames else queue.frames ++ [accessUnit]
    waitingForKeyframe := waiting }

namespace Broadcaster

/-- `Broadcaster::default`. -/
def initial : Broadcaster where
  state := {
    clients := []
    codec := none
    frameRate := none
    keyframeRequested := false
    frames := 0
    lastFrame := none
  }
  shared := []

/-- The flag of a subscription. -/
def alive (broadcaster : Broadcaster) (id : SubscriptionId) : Bool :=
  (broadcaster.shared[id]?).any (·.alive)

/-- The queue of a subscription. -/
def queue (broadcaster : Broadcaster) (id : SubscriptionId) :
    Option FrameQueue :=
  (broadcaster.shared[id]?).map (·.queue)

/-- Change the queue of a subscription. -/
def modifyQueue
    (shared : List Shared)
    (id : SubscriptionId)
    (change : FrameQueue → FrameQueue) : List Shared :=
  shared.modify id fun pair => { pair with queue := change pair.queue }

/-- `Broadcaster::subscribe`. -/
def subscribe (broadcaster : Broadcaster) : SubscriptionId × Broadcaster :=
  let id := broadcaster.shared.length
  (id, {
    state := { broadcaster.state with
      clients := broadcaster.state.clients.filter broadcaster.alive ++ [id]
      keyframeRequested := true }
    shared := broadcaster.shared ++ [{
      queue := { frames := [], waitingForKeyframe := true }
      alive := true }]
  })

/-- The configuration replaces a known one with other parameter sets. -/
def replacesCodec
    (broadcaster : Broadcaster)
    (codec : CodecConfig) : Bool :=
  broadcaster.state.codec.any fun old =>
    old.sps != codec.sps || old.pps != codec.pps

/-- `Broadcaster::set_codec_config`. -/
def setCodecConfig
    (broadcaster : Broadcaster)
    (codec : CodecConfig) : Broadcaster :=
  if broadcaster.replacesCodec codec then
    { state := { broadcaster.state with
        keyframeRequested := true
        codec := some codec }
      shared :=
        broadcaster.state.clients.foldl
          (fun shared id =>
            modifyQueue shared id fun _ =>
              { frames := [], waitingForKeyframe := true })
          broadcaster.shared }
  else
    { broadcaster with
      state := { broadcaster.state with codec := some codec } }

/-- `Broadcaster::set_frame_rate`. -/
def setFrameRate
    (broadcaster : Broadcaster)
    (numerator denominator : UInt32) : Broadcaster :=
  { broadcaster with
    state := { broadcaster.state with
      frameRate :=
        if 0 < numerator ∧ 0 < denominator then
          some (numerator, denominator)
        else
          none } }

/-- `Broadcaster::take_keyframe_request`. -/
def takeKeyframeRequest (broadcaster : Broadcaster) : Bool × Broadcaster :=
  (broadcaster.state.keyframeRequested,
    { broadcaster with
      state := { broadcaster.state with keyframeRequested := false } })

/-- `Broadcaster::stats`, read at the moment `now`. -/
def stats (broadcaster : Broadcaster) (now : Instant) : StreamStats where
  viewers := (broadcaster.state.clients.filter broadcaster.alive).length
  frames := broadcaster.state.frames
  ready :=
    broadcaster.state.codec.isSome && broadcaster.state.lastFrame.isSome
  lastFrameAgeMs :=
    broadcaster.state.lastFrame.map fun time =>
      UInt64.ofNat (elapsed time now / milliseconds 1)

/-- The loop of `publish` over the clients. -/
structure Delivery where
  clients : List SubscriptionId
  shared : List Shared
  requestKeyframe : Bool

/-- One client in the loop of `publish`. -/
def deliver
    (accessUnit : EncodedAccessUnit)
    (delivery : Delivery)
    (id : SubscriptionId) : Delivery :=
  match delivery.shared[id]? with
  | some pair =>
      if pair.alive then
        { clients := delivery.clients ++ [id]
          shared :=
            modifyQueue delivery.shared id fun queue =>
              queue.relieve.1.push accessUnit
          requestKeyframe :=
            delivery.requestKeyframe || pair.queue.relieve.2 }
      else
        delivery
  | none => delivery

/-- `u64::saturating_add(1)`. -/
def saturatingSucc (count : UInt64) : UInt64 :=
  if count = UInt64.ofNat (UInt64.size - 1) then count else count + 1

/-- `Broadcaster::publish` at the moment `now`. -/
def publish
    (broadcaster : Broadcaster)
    (accessUnit : EncodedAccessUnit)
    (now : Instant) : Broadcaster :=
  let delivery :=
    broadcaster.state.clients.foldl
      (deliver (completed broadcaster.state.codec accessUnit))
      { clients := []
        shared := broadcaster.shared
        requestKeyframe := false }
  { state := { broadcaster.state with
      clients := delivery.clients
      keyframeRequested :=
        broadcaster.state.keyframeRequested || delivery.requestKeyframe
      frames := saturatingSucc broadcaster.state.frames
      lastFrame := some now }
    shared := delivery.shared }

/--
`Subscription::recv_timeout`: the front of the queue, or nothing when the
queue stays empty until the timeout.
-/
def recvTimeout
    (broadcaster : Broadcaster)
    (id : SubscriptionId) : Option EncodedAccessUnit × Broadcaster :=
  ((broadcaster.queue id).bind (·.frames.head?),
    { broadcaster with
      shared :=
        modifyQueue broadcaster.shared id fun queue =>
          { queue with frames := queue.frames.tail } })

/-- Dropping a `Subscription`. -/
def drop (broadcaster : Broadcaster) (id : SubscriptionId) : Broadcaster :=
  { broadcaster with
    shared :=
      broadcaster.shared.modify id fun pair =>
        { pair with alive := false } }

/-- The operations of capture threads, connection threads and the service. -/
inductive Operation where
  | subscribe
  | publish (accessUnit : EncodedAccessUnit) (now : Instant)
  | setCodecConfig (codec : CodecConfig)
  | setFrameRate (numerator denominator : UInt32)
  | takeKeyframeRequest
  | recvTimeout (id : SubscriptionId)
  | drop (id : SubscriptionId)
  deriving Repr, DecidableEq

/--
One operation.  A subscription that does not exist, or was dropped, cannot be
read; such an operation changes nothing.
-/
def step (broadcaster : Broadcaster) : Operation → Broadcaster
  | .subscribe => broadcaster.subscribe.2
  | .publish accessUnit now => broadcaster.publish accessUnit now
  | .setCodecConfig codec => broadcaster.setCodecConfig codec
  | .setFrameRate numerator denominator =>
      broadcaster.setFrameRate numerator denominator
  | .takeKeyframeRequest => broadcaster.takeKeyframeRequest.2
  | .recvTimeout id =>
      if broadcaster.alive id then
        (broadcaster.recvTimeout id).2
      else
        broadcaster
  | .drop id => broadcaster.drop id

/-- A run of operations. -/
def run (broadcaster : Broadcaster) (operations : List Operation) :
    Broadcaster :=
  operations.foldl step broadcaster

end Broadcaster

end CamRtsp
