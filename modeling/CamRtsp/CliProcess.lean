import CamRtsp.CameraFormats
import CamRtsp.NativeBridge
import CamRtsp.ServerSystem

namespace CamRtsp.Cli

open RustText
open Broadcaster (Operation)

/-!
# The command line program

`run` prepares the stream, starts the camera and the server's thread, and then
polls both until one of them or the user ends it.  The start-up is a function;
from `capture.start` on the main thread is taken apart into steps, because
capture code and the server work on the same broadcaster from then on.
-/

/-! ## Arguments -/

/-- `str::parse::<u32>`. -/
def parseU32 (text : Text) : Option UInt32 :=
  (fromStrRadix 10 (2 ^ 32) text).map UInt32.ofNat

/-- `(1..=16384).contains`. -/
def isDimension (number : UInt32) : Bool :=
  decide (1 ≤ number ∧ number ≤ 16384)

/-- `resolution`. -/
def resolution (value : Text) : Except Text (UInt32 × UInt32) :=
  let parsed :=
    (splitOnce 'x' value).bind fun (width, height) =>
      (parseU32 width).bind fun width =>
        (parseU32 height).map fun height => (width, height)
  match parsed.filter fun both =>
      isDimension both.1 && isDimension both.2 with
  | some both => .ok both
  | none =>
      .error
        "expected WIDTHxHEIGHT with each dimension in 1–16384".toList

/-- `bitrate`. -/
def bitrate (value : Text) : Except Text BitrateMode :=
  if eqIgnoreAsciiCase value "auto".toList then
    .ok .auto
  else
    match (parseU32 value).filter fun bits =>
        decide (0 < bits ∧ bits ≤ 2147483647) with
    | some bits => .ok (.bitsPerSecond bits)
    | none =>
        .error "expected auto or bitrate in 1–2147483647".toList

/-- `stream_path`. -/
def streamPath (value : Text) : Except Text Text :=
  if validPath value then
    .ok value
  else
    .error
      ("expected an absolute RTSP path without whitespace, query, " ++
        "or fragment").toList

/--
`value_parser!(u32).range(low..=high)`, which reads an `i64` first; a negative
number is below every range in use.
-/
def ranged (low high : Nat) (text : Text) : Option UInt32 :=
  ((fromStrRadix 10 (2 ^ 63) text).filter fun number =>
    decide (low ≤ number ∧ number ≤ high)).map UInt32.ofNat

/-- The subcommands. -/
inductive Command where
  | devices (json : Bool)
  deriving Repr, DecidableEq

/-- The command line before its values are parsed. -/
structure Words where
  command : Option Command
  camera : Text
  resolution : Text
  fps : Text
  bitrate : Text
  gop : Text
  bind : SocketAddr
  path : Text
  transport : TransportPolicy
  username : Option Text
  password : Option Text

/-- `Args`. -/
structure Args where
  command : Option Command
  camera : Text
  resolution : UInt32 × UInt32
  fps : UInt32
  bitrate : BitrateMode
  gop : UInt32
  bind : SocketAddr
  path : Text
  transport : TransportPolicy
  username : Option Text
  password : Option Text

/-- `Args::parse`, when the command line is accepted. -/
def Words.parse (words : Words) : Option Args := do
  let resolution ← (Cli.resolution words.resolution).toOption
  let fps ← ranged 1 240 words.fps
  let bitrate ← (Cli.bitrate words.bitrate).toOption
  let gop ← ranged 1 60 words.gop
  let path ← (streamPath words.path).toOption
  if words.username.isSome != words.password.isSome then
    none
  return {
    command := words.command
    camera := words.camera
    resolution := resolution
    fps := fps
    bitrate := bitrate
    gop := gop
    bind := words.bind
    path := path
    transport := words.transport
    username := words.username
    password := words.password }

/-! ## The start-up -/

/-- A camera as `enumerate` lists it. -/
structure CameraDescriptor where
  id : Text
  name : Text
  deriving Repr, DecidableEq

/-- The errors that `run` returns. -/
inductive Failure where
  | camera (message : Text)
  | text (message : Text)
  | io (error : IoError)
  deriving Repr, DecidableEq

/-- The camera that the arguments name. -/
def Args.chosen
    (args : Args)
    (devices : List CameraDescriptor) : Option CameraDescriptor :=
  (devices.find? fun device => device.id == args.camera).or
    ((fromStrRadix 10 usizeBound args.camera).bind (devices[·]?))

/-- What is requested of the camera. -/
def Args.config (args : Args) : StreamConfig where
  requestedWidth := args.resolution.1
  requestedHeight := args.resolution.2
  requestedFps := args.fps
  bitrate := args.bitrate
  gopSeconds := args.gop

/-- `args.username.zip(args.password)`. -/
def Args.credentials (args : Args) : Option Credentials :=
  args.username.bind fun username =>
    args.password.map fun password =>
      { username := username, password := password }

/-- What the start-up learns from outside. -/
structure StartUp where
  enumerated : Except Text (List CameraDescriptor)
  listener : Except IoError Unit
  localAddr : Except IoError SocketAddr

/-- What stays fixed from `capture.start` on. -/
structure Setting where
  camera : CameraDescriptor
  config : StreamConfig
  source : Broadcaster
  server : ServerConfig
  address : SocketAddr

/-- A server is bound with a valid path only. -/
theorem validPath_of_bindWithTransport
    {listener : Except IoError Unit}
    {path : Text}
    {source : Broadcaster}
    {fps : UInt32}
    {credentials : Option Credentials}
    {transport : TransportPolicy}
    {server : BoundServer}
    (bound :
      bindWithTransport listener path source fps credentials transport =
        .ok server) :
    validPath server.path = true := by
  rw [bindWithTransport] at bound
  split at bound
  · cases bound
  · rename_i accepted
    rw [Bool.or_eq_true, not_or, Bool.not_eq_true', Bool.not_eq_false]
      at accepted
    cases listener with
    | error error =>
        cases bound
    | ok _ =>
        cases bound
        exact accepted.1

/-- The server of the program and its address. -/
def bindServer
    (crates : Crates)
    (startUp : StartUp)
    (args : Args) :
    Except IoError (Broadcaster × ServerConfig × SocketAddr) :=
  match bound : bindWithTransport startUp.listener args.path .initial
      args.fps args.credentials args.transport with
  | .error error => .error error
  | .ok server =>
      startUp.localAddr.map fun address =>
        (server.source,
          { crates := crates
            path := server.path
            pathValid := validPath_of_bindWithTransport bound
            credentials := server.credentials
            transportPolicy := server.transport },
          address)

/--
`run` up to `capture.start`: what it returns when it returns early, or the
setting.
-/
def prepare
    (crates : Crates)
    (startUp : StartUp)
    (args : Args) : Except (Except Failure Unit) Setting :=
  match startUp.enumerated with
  | .error message => .error (.error (.camera message))
  | .ok devices =>
      match args.command with
      | some (.devices _) => .error (.ok ())
      | none =>
          match args.chosen devices with
          | none =>
              .error (.error (.text
                ("Camera not found. Run 'camrtsp devices' to list " ++
                  "available cameras.").toList))
          | some camera =>
              match args.config.validate with
              | .error message => .error (.error (.camera message.toList))
              | .ok _ =>
                  match bindServer crates startUp args with
                  | .error error => .error (.error (.io error))
                  | .ok (source, server, address) =>
                      .ok {
                        camera := camera
                        config := args.config
                        source := source
                        server := server
                        address := address }

/-! ## What is announced -/

/-- `IpAddr::is_unspecified`. -/
def isUnspecified : IpAddr → Bool
  | .v4 octets => octets.toList == [0, 0, 0, 0]
  | .v6 segments => segments.toList == [0, 0, 0, 0, 0, 0, 0, 0]

/-- `IpAddr::is_loopback`. -/
def isLoopback : IpAddr → Bool
  | .v4 octets => octets.toList.head? == some 127
  | .v6 segments => segments.toList == [0, 0, 0, 0, 0, 0, 0, 1]

/-- The address 127.0.0.1 has four octets. -/
theorem size_localhost : (#[127, 0, 0, 1] : Array UInt8).size = 4 :=
  rfl

/-- The loopback address of the same family. -/
def loopback : IpAddr → IpAddr
  | .v4 _ => .v4 ⟨#[127, 0, 0, 1], size_localhost⟩
  | .v6 _ => .v6 ((Vector.replicate 7 0).push 1)

/-- `stream_addresses`, given the local address of the connected socket. -/
def streamAddresses
    (bound : SocketAddr)
    (probed : Option SocketAddr) : List SocketAddr :=
  if isUnspecified bound.ip then
    .new (loopback bound.ip) bound.port ::
      ((probed.filter fun address =>
        !isLoopback address.ip && !isUnspecified address.ip).map
          fun address => .new address.ip bound.port).toList
  else
    [bound]

/-- `NegotiatedStreamConfig`, without what is never read. -/
structure NegotiatedStreamConfig where
  width : UInt32
  height : UInt32
  fpsNum : UInt32
  fpsDen : UInt32
  encoderName : Text
  hardwareEncoder : Bool
  deriving Repr, DecidableEq

/-- What is printed when the stream is ready. -/
structure Announcement where
  camera : Text
  urls : List Text
  negotiated : NegotiatedStreamConfig
  deriving Repr, DecidableEq

/-- A line `Streaming:`, from the scheme on. -/
def streamUrl (path : Text) (address : SocketAddr) : Text :=
  "rtsp://".toList ++ address.display ++ path

/-- The announcement of a stream. -/
def announcement
    (setting : Setting)
    (negotiated : NegotiatedStreamConfig)
    (probed : Option SocketAddr) : Announcement where
  camera := setting.camera.name
  urls :=
    (streamAddresses setting.address probed).map
      (streamUrl setting.server.path)
  negotiated := negotiated

/-! ## The main thread -/

/-- What the main thread does with the camera. -/
inductive CameraCall where
  | start (camera : Text) (config : StreamConfig) (started : Bool)
  | requestKeyframe
  | stop
  deriving Repr, DecidableEq

/-- The variables of the poll loop. -/
structure Watch where
  negotiated : NegotiatedStreamConfig
  started : Instant
  announced : Bool
  deriving Repr, DecidableEq

/-- Where the main thread is. -/
inductive Position where
  | starting
  | refused (message : Text)
  | rating (negotiated : NegotiatedStreamConfig)
  | spawning (negotiated : NegotiatedStreamConfig)
  | building (negotiated : NegotiatedStreamConfig)
  | selecting (watch : Watch)
  | checking (watch : Watch)
  | taking (watch : Watch)
  | requesting (watch : Watch)
  | reading (watch : Watch)
  | leaving (left : Except Failure Unit)
  | stopping (left : Except Failure Unit)
  | joining
      (left : Except Failure Unit)
      (captured : Except Text Unit)
  | returned
      (left : Except Failure Unit)
      (captured : Except Text Unit)
      (served : Except IoError Unit)

/-- The server's thread has not been spawned yet. -/
def Position.isBefore : Position → Bool
  | .starting => true
  | .refused _ => true
  | .rating _ => true
  | .spawning _ => true
  | _ => false

/-- What a step of the main thread learns from outside. -/
structure Response where
  start : Except Text NegotiatedStreamConfig
  runtime : Except IoError Unit
  interrupt : Option (Except IoError Unit)
  noticed : Bool
  statsAt : Instant
  now : Instant
  probed : Option SocketAddr
  stop : Except Text Unit

/-- The main thread, the stop flag, and the server with its broadcaster. -/
structure Process where
  setting : Setting
  position : Position
  stopping : Bool
  system : ServerSystem.System
  calls : List CameraCall
  announcements : List Announcement

/-- The worker's thread has run to its end. -/
def serverEnded : Failure :=
  .text "RTSP server stopped unexpectedly".toList

/-- No frames have come for too long. -/
def cameraStalled : Failure :=
  .text
    ("Camera stopped delivering H.264 frames. Check camera permissions, " ++
      "connection, and encoder availability.").toList

/-- The last test of a round of the poll loop. -/
def isStalled
    (announced : Bool)
    (started now : Instant)
    (stats : StreamStats) : Bool :=
  (!announced && decide (seconds 15 < elapsed started now)) ||
    stats.lastFrameAgeMs.any fun age => decide (15000 < age)

/-- `result?; capture_result?; server_result?; Ok(())`. -/
def conclude
    (left : Except Failure Unit)
    (captured : Except Text Unit)
    (served : Except IoError Unit) : Except Failure Unit := do
  left
  captured.mapError .camera
  served.mapError .io

namespace Process

/-- The process when `capture.start` is called. -/
def initial (setting : Setting) : Process where
  setting := setting
  position := .starting
  stopping := false
  system :=
    ServerSystem.System.initial.perform none
      [.setFrameRate setting.config.requestedFps 1]
  calls := []
  announcements := []

/-- The end of a round of the poll loop. -/
def read
    (process : Process)
    (watch : Watch)
    (response : Response) : Process :=
  let stats := process.system.broadcaster.stats response.statsAt
  let announced := watch.announced || stats.ready
  { process with
    announcements :=
      if !watch.announced && stats.ready then
        process.announcements ++
          [announcement process.setting watch.negotiated response.probed]
      else
        process.announcements
    position :=
      if isStalled announced watch.started response.now stats then
        .leaving (.error cameraStalled)
      else
        .selecting { watch with announced := announced } }

/-- The main thread takes one step; the join waits for the server's thread. -/
def main (process : Process) (response : Response) : Process :=
  match process.position with
  | .starting =>
      { process with
        calls :=
          process.calls ++
            [.start process.setting.camera.id process.setting.config
              response.start.isOk]
        position :=
          match response.start with
          | .error message => .refused message
          | .ok negotiated => .rating negotiated }
  | .rating negotiated =>
      { process with
        system :=
          process.system.perform none
            [.setFrameRate negotiated.fpsNum negotiated.fpsDen]
        position := .spawning negotiated }
  | .spawning negotiated =>
      { process with position := .building negotiated }
  | .building negotiated =>
      { process with
        position :=
          match response.runtime with
          | .error error => .leaving (.error (.io error))
          | .ok _ =>
              .selecting {
                negotiated := negotiated
                started := response.now
                announced := false } }
  | .selecting watch =>
      { process with
        position :=
          match response.interrupt with
          | none => .checking watch
          | some result => .leaving (result.mapError .io) }
  | .checking watch =>
      { process with
        position :=
          match process.system.loop.point with
          | .returned _ =>
              if response.noticed then
                .leaving (.error serverEnded)
              else
                .taking watch
          | _ => .taking watch }
  | .taking watch =>
      { process with
        system := process.system.perform none [.takeKeyframeRequest]
        position :=
          if process.system.broadcaster.takeKeyframeRequest.1 then
            .requesting watch
          else
            .reading watch }
  | .requesting watch =>
      { process with
        calls := process.calls ++ [.requestKeyframe]
        position := .reading watch }
  | .reading watch => process.read watch response
  | .leaving left =>
      { process with
        stopping := true
        position := .stopping left }
  | .stopping left =>
      { process with
        calls := process.calls ++ [.stop]
        position := .joining left response.stop }
  | .joining left captured =>
      match process.system.loop.point with
      | .returned served =>
          { process with position := .returned left captured served }
      | _ => process
  | .refused _ => process
  | .returned _ _ _ => process

end Process

/-- What the sink of the camera does. -/
def isSink : Operation → Bool
  | .publish _ _ => true
  | .setCodecConfig _ => true
  | _ => false

/-- A step of one of the parties. -/
inductive Event where
  | main (response : Response)
  | sink (operation : Operation)
  | server (event : ServerSystem.Event)

namespace Process

/--
A step of the server.  Its thread runs once it is spawned; it reads the flag of
the process, and may read it late.
-/
def serve (process : Process) : ServerSystem.Event → Process
  | .capture _ => process
  | .loop surroundings connection opening =>
      if process.position.isBefore then
        process
      else
        { process with
          system :=
            process.system.step
              (.loop
                { surroundings with
                  stopping := surroundings.stopping && process.stopping }
                { connection with server := process.setting.server }
                opening) }
  | event => { process with system := process.system.step event }

/-- One step. -/
def step (process : Process) : Event → Process
  | .main response => process.main response
  | .sink operation =>
      if isSink operation then
        { process with system := process.system.perform none [operation] }
      else
        process
  | .server event => process.serve event

/-- A run. -/
def run (process : Process) (events : List Event) : Process :=
  events.foldl step process

/-- What `run` returns, behind `capture.start`. -/
def result? (process : Process) : Option (Except Failure Unit) :=
  match process.position with
  | .refused message => some (.error (.camera message))
  | .returned left captured served => some (conclude left captured served)
  | _ => none

end Process

end CamRtsp.Cli
