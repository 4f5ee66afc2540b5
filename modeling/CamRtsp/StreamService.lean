import CamRtsp.Core

namespace CamRtsp

open RustText

/-!
# The Android streaming service

`StreamService` owns the native server and the camera encoder.  All its work
runs as messages on one worker thread.  `World` holds what one message learns
from outside; the order of the messages is left open, and the main thread may
set `destroyed` in the middle of one.

Kotlin keeps `generation` in 32 bits.  Here it counts on, and `sameInt`
compares as Kotlin does.
-/

namespace StreamService

/-- Equality of two counters in Kotlin's `Int`. -/
def sameInt (first second : Nat) : Bool :=
  first % 4294967296 == second % 4294967296

/-- The extras of a start intent that reach the native server. -/
structure Intent where
  port : Option Int32
  path : Option Text
  username : Option Text
  password : Option Text
  transport : Option Int32
  deriving Repr, DecidableEq

/-- `Intent()`. -/
def Intent.empty : Intent where
  port := none
  path := none
  username := none
  password := none
  transport := none

/-- The arguments of `nativeCreateServer`. -/
structure ServerRequest where
  port : Int32
  path : Text
  username : Text
  password : Text
  transport : Int32
  deriving Repr, DecidableEq

/-- The extras with their defaults. -/
def Intent.serverRequest (intent : Intent) : ServerRequest where
  port := intent.port.getD 8554
  path := intent.path.getD "/camera".toList
  username := intent.username.getD []
  password := intent.password.getD []
  transport := intent.transport.getD 0

/-- What the service catches, with the message of the error. -/
inductive Throwable where
  | exception (message : Option Text)
  | linkageError (message : Option Text)
  deriving Repr, DecidableEq

/-- A `CameraEncoder` and the token its callbacks carry. -/
structure CameraEncoder where
  token : Nat
  handle : Int64
  deriving Repr, DecidableEq

/-- A message of the worker thread. -/
inductive Message where
  | start (intent : Option Intent)
  | poll
  | restart (delay : Nat)
  | info (token : Nat) (info : Text)
  | error (token : Nat) (error : Text)
  | destroy
  deriving Repr, DecidableEq

/--
A call of the native library; a creation is recorded with the fields `handle`
and `encoder` at that moment.
-/
inductive NativeCall where
  | create
      (handle : Int64)
      (encoder : Option CameraEncoder)
      (request : ServerRequest)
      (result : Except Throwable Int64)
  | stop (handle : Int64)

/-- What `nativeGetStats` reports. -/
structure Stats where
  active : Bool
  ready : Bool
  viewers : Nat
  lastFrameAgeMs : Int
  deriving Repr, DecidableEq

/-- The preparations of an attempt failed, with the wake lock held or not. -/
structure Refusal where
  wakeLock : Bool
  thrown : Throwable
  deriving Repr, DecidableEq

/-- Everything a message learns from outside. -/
structure World where
  destroyedAtEntry : Bool
  destroyedAtRecover : Bool
  prepared : Except Refusal Unit
  created : Except Throwable Int64
  built : Except Throwable Unit
  started : Except Throwable Unit
  urls : Text
  now : Int
  stats : Except (Option Text) Stats
  keyframe : Except (Option Text) Unit
  measuredFps : Text
  notified : Except (Option Text) Unit

/--
The fields of the service and of its companion, the messages of its worker,
and the tokens of all encoders and the native calls so far.
-/
structure Service where
  destroyed : Bool
  handle : Int64
  encoder : Option CameraEncoder
  wakeLock : Bool
  wifiLock : Bool
  wanted : Bool
  generation : Nat
  retries : Nat
  options : Option Intent
  startedAt : Int
  negotiated : Text
  isStreaming : Bool
  statusMessage : Text
  queue : List Message
  tokens : List Nat
  calls : List NativeCall

namespace Service

/-- A service that has just been constructed. -/
def initial : Service where
  destroyed := false
  handle := 0
  encoder := none
  wakeLock := false
  wifiLock := false
  wanted := false
  generation := 0
  retries := 0
  options := none
  startedAt := 0
  negotiated := "Waiting for camera".toList
  isStreaming := false
  statusMessage := "Idle · ready for your next stream".toList
  queue := []
  tokens := []
  calls := []

/-- `worker.post`. -/
def post (service : Service) (message : Message) : Service :=
  { service with queue := service.queue ++ [message] }

/-- `destroyed.get()`, which the main thread may have set by now. -/
def observe (service : Service) (destroyed : Bool) : Service :=
  { service with destroyed := service.destroyed || destroyed }

/-- `releaseStream`. -/
def releaseStream (service : Service) : Service :=
  { service with
    generation := service.generation + 1
    queue := service.queue.filter (· ≠ .poll)
    encoder := none
    calls :=
      if service.handle ≠ 0 then
        service.calls ++ [.stop service.handle]
      else
        service.calls
    handle := 0
    wakeLock := false
    wifiLock := false }

/-- `finishWithError`. -/
def finishWithError (service : Service) (error : Text) : Service :=
  { ({ service with wanted := false }).releaseStream with
    isStreaming := false
    statusMessage := "Stopped: ".toList ++ error }

/-- `recover`. -/
def recover (service : Service) (world : World) (error : Text) : Service :=
  let service := service.observe world.destroyedAtRecover
  if !service.wanted || service.destroyed then
    service
  else
    let service := service.releaseStream
    if 3 ≤ service.retries then
      service.finishWithError error
    else
      let delay := 500 <<< service.retries
      let retries := service.retries + 1
      { service with
        retries := retries
        statusMessage :=
          "Reconnecting (".toList ++ decimal retries ++ "/3): ".toList ++
            error }.post (.restart delay)

/-- The `catch` clauses of `startAttempt`. -/
def caught
    (service : Service)
    (world : World) : Throwable → Service
  | .exception message =>
      service.recover world
        (message.getD "Unable to start streaming".toList)
  | .linkageError message =>
      service.finishWithError
        ("Native library unavailable: ".toList ++
          message.getD "null".toList)

/-- `startAttempt` from the construction of the encoder on. -/
def startEncoder (service : Service) (world : World) : Service :=
  match world.built with
  | .error thrown => service.caught world thrown
  | .ok () =>
      let service :=
        { service with
          encoder := some {
            token := service.generation, handle := service.handle }
          tokens := service.tokens ++ [service.generation] }
      match world.started with
      | .error thrown => service.caught world thrown
      | .ok () =>
          { service with
            statusMessage := "Starting ".toList ++ world.urls
          }.post .poll

/-- `startAttempt` from the call of `nativeCreateServer` on. -/
def createServer
    (service : Service)
    (world : World)
    (request : ServerRequest) : Service :=
  let service :=
    { service with
      calls :=
        service.calls ++
          [NativeCall.create service.handle service.encoder request
            world.created] }
  match world.created with
  | .error thrown => service.caught world thrown
  | .ok handle =>
      let service := { service with handle := handle }
      if handle = 0 then
        service.caught world
          (.exception (some "Native RTSP server did not start".toList))
      else
        { service with
          startedAt := world.now
          negotiated := "Waiting for camera".toList }.startEncoder world

/-- `startAttempt`. -/
def startAttempt (service : Service) (world : World) : Service :=
  let service := service.observe world.destroyedAtEntry
  if !service.wanted || service.destroyed then
    service
  else
    let service :=
      { service with generation := service.generation + 1 }
    match service.options with
    | none => service
    | some intent =>
        match world.prepared with
        | .error refusal =>
            { service with
              wakeLock := refusal.wakeLock }.caught world refusal.thrown
        | .ok () =>
            { service with
              wakeLock := true
              wifiLock := true }.createServer world intent.serverRequest

/-- `poll` shows the statistics of a ready stream. -/
def showStats
    (service : Service)
    (world : World)
    (stats : Stats) : Service :=
  if stats.ready then
    { service with
      statusMessage :=
        "Streaming ".toList ++ world.urls ++ '\n' ::
          service.negotiated ++ '\n' ::
          decimal stats.viewers ++ " viewers · ".toList ++
          world.measuredFps ++ " measured FPS".toList
      retries :=
        if 60000 < world.now - service.startedAt then
          0
        else
          service.retries }
  else
    service

/-- `poll` on a live server, behind its statistics. -/
def report (service : Service) (world : World) (stats : Stats) : Service :=
  let service := service.showStats world stats
  match world.notified with
  | .error message =>
      service.recover world
        (message.getD "Unable to read stream status".toList)
  | .ok () => service.post .poll

/-- `poll`. -/
def poll (service : Service) (world : World) : Service :=
  let service := service.observe world.destroyedAtEntry
  if !service.wanted || service.destroyed || service.handle == 0 then
    service
  else
    match world.stats with
    | .error message =>
        service.recover world
          (message.getD "Unable to read stream status".toList)
    | .ok stats =>
        if !stats.active then
          service.recover world "RTSP server stopped".toList
        else if
            (stats.ready = false ∧
              15000 < world.now - service.startedAt) ∨
              15000 < stats.lastFrameAgeMs then
          service.recover world
            "Camera stopped delivering encoded frames".toList
        else
          match world.keyframe with
          | .error message =>
              service.recover world
                (message.getD "Unable to read stream status".toList)
          | .ok () => service.report world stats

/-- The message that `onStartCommand` posts. -/
def start
    (service : Service)
    (world : World)
    (intent : Option Intent) : Service :=
  if service.wanted then
    service
  else
    { service with
      wanted := true
      isStreaming := true
      retries := 0
      options := some (intent.getD .empty) }.startAttempt world

/-- The message that `onDestroy` posts. -/
def destroy (service : Service) : Service :=
  let service :=
    { service with wanted := false, queue := [] }.releaseStream
  { service with
    isStreaming := false
    statusMessage :=
      if "Stopped:".toList.isPrefixOf service.statusMessage then
        service.statusMessage
      else
        "Idle · ready for your next stream".toList }

/-- The worker handles a message. -/
def handleMessage
    (service : Service)
    (world : World) : Message → Service
  | .start intent => service.start world intent
  | .poll => service.poll world
  | .restart _ =>
      if service.wanted then service.startAttempt world else service
  | .info token info =>
      if sameInt token service.generation && service.wanted then
        { service with negotiated := info }
      else
        service
  | .error token error =>
      if sameInt token service.generation && service.wanted then
        service.recover world error
      else
        service
  | .destroy => service.destroy

end Service

/--
What can happen: a start command, a callback of some encoder, `onDestroy`, a
write of the activity to the shared texts, or the worker takes any message.
-/
inductive Action where
  | startCommand (intent : Option Intent)
  | configured (token : Nat) (info : Text)
  | failed (token : Nat) (error : Text)
  | onDestroy
  | display (isStreaming : Bool) (statusMessage : Text)
  | work (index : Nat) (world : World)

namespace Service

/-- The service while the worker runs the message at the index. -/
def taken (service : Service) (index : Nat) : Service :=
  { service with queue := service.queue.eraseIdx index }

/-- One action; a callback needs an encoder that was built. -/
def step (service : Service) : Action → Service
  | .startCommand intent => service.post (.start intent)
  | .configured token info =>
      if token ∈ service.tokens then
        service.post (.info token info)
      else
        service
  | .failed token error =>
      if token ∈ service.tokens then
        service.post (.error token error)
      else
        service
  | .onDestroy => (service.observe true).post .destroy
  | .display isStreaming statusMessage =>
      { service with
        isStreaming := isStreaming
        statusMessage := statusMessage }
  | .work index world =>
      match service.queue[index]? with
      | some message =>
          (service.taken index).handleMessage world message
      | none => service

/-- A run of actions. -/
def run (service : Service) (actions : List Action) : Service :=
  actions.foldl step service

end Service

end StreamService

end CamRtsp
