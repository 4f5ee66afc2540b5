import CamRtsp.Auth
import CamRtsp.Broadcaster
import CamRtsp.SplitH264
import CamRtsp.Target
import CamRtsp.Transport

namespace CamRtsp

open RustText

/-!
# The native library of the Android application

The Java side knows a server by a handle only.  `SERVERS` maps the handles to
the servers, each with a broadcaster, a stop flag and a thread.  Any number of
Java threads call the library, and the servers run on by themselves; a call
that takes the lock more than once, or waits, is more than one step.

A `ServerHandle` shares its broadcaster and its flag with the server thread.
Here all servers ever started live in one list, and both sides hold an index
into it.
-/

/-- What `RtspServer::bind_with_transport` keeps, besides the listener. -/
structure BoundServer where
  path : Text
  source : Broadcaster
  credentials : Option Credentials
  transport : TransportPolicy

/-- `RtspServer::bind_with_transport`, given how the listener is bound. -/
def bindWithTransport
    (listener : Except IoError Unit)
    (path : Text)
    (source : Broadcaster)
    (fps : UInt32)
    (credentials : Option Credentials)
    (transport : TransportPolicy) : Except IoError BoundServer :=
  if !validPath path ||
      credentials.any fun both =>
        both.username.isEmpty || both.password.isEmpty then
    .error {
      kind := .invalidInput
      message := "invalid stream path or incomplete credentials".toList }
  else
    let source := source.setFrameRate fps 1
    listener.map fun _ => {
      path := path
      source := source
      credentials := credentials
      transport := transport }

namespace NativeBridge

/-- The arguments of `nativeCreateServer`, with its strings as read. -/
structure CreateRequest where
  port : Int32
  path : Except Text Text
  username : Except Text Text
  password : Except Text Text
  transport : Int32

/-- What `nativeCreateServer` binds a server with. -/
structure Settings where
  port : Int32
  path : Text
  credentials : Option Credentials
  transport : TransportPolicy
  deriving Repr, DecidableEq

/-- The transport policies by number. -/
def transportPolicy (number : Int32) : Except Text TransportPolicy :=
  if number = 0 then
    .ok .both
  else if number = 1 then
    .ok .tcp
  else if number = 2 then
    .ok .udp
  else
    .error "invalid transport policy".toList

/-- The checks of `nativeCreateServer`. -/
def CreateRequest.check (request : CreateRequest) : Except Text Settings := do
  if ¬ (1 ≤ request.port ∧ request.port ≤ 65535) then
    throw "RTSP port must be in 1..65535".toList
  let path ← request.path
  if !validPath path then
    throw "RTSP path must start with '/'".toList
  let username ← request.username
  let password ← request.password
  if username.isEmpty != password.isEmpty then
    throw "supply both username and password or neither".toList
  let transport ← transportPolicy request.transport
  return {
    port := request.port
    path := path
    credentials :=
      if username.isEmpty then
        none
      else
        some { username := username, password := password }
    transport := transport }

/-- A direct buffer: how its address and its capacity are read. -/
structure DirectBuffer where
  address : Except Text Unit
  capacity : Except Text Unit
  bytes : Bytes

/-- The arguments of `nativePushAccessUnit`, without the handle. -/
structure PushRequest where
  buffer : DirectBuffer
  offset : Int32
  size : Int32
  ptsUs : Int64
  flags : Int32

/-- `bytes.get(start..end)`. -/
def slice (bytes : Bytes) (start stop : Nat) : Option Bytes :=
  if start ≤ stop ∧ stop ≤ bytes.length then
    some ((bytes.take stop).drop start)
  else
    none

/-- `((pts_us as u128 * 90) / 1000) as u32`. -/
def pts90khz (ptsUs : Int64) : UInt32 :=
  UInt32.ofNat (ptsUs.toInt.toNat * 90 / 1000)

/-- `nativePushAccessUnit` up to the lookup; `usize` has 32 bits at least. -/
def PushRequest.accessUnit
    (request : PushRequest) : Except Text EncodedAccessUnit := do
  if request.offset < 0 ∨ request.size < 0 ∨ request.ptsUs < 0 then
    throw "encoded access-unit range is invalid".toList
  request.buffer.address
  request.buffer.capacity
  let start := request.offset.toInt.toNat
  let stop := start + request.size.toInt.toNat
  if 4294967296 ≤ stop then
    throw "encoded access-unit range overflow".toList
  match slice request.buffer.bytes start stop with
  | none =>
      throw "encoded access-unit range is outside the buffer".toList
  | some payload =>
      let nalUnits := Android.splitH264 payload
      if nalUnits.isEmpty then
        throw "encoded access unit contains no H.264 NAL units".toList
      return {
        nalUnits := nalUnits
        pts90khz := pts90khz request.ptsUs
        duration90khz := 0
        keyframe := request.flags &&& 1 != 0 }

/-- `nativeSetCodecConfig` up to the lookup, with its arrays as read. -/
def codecConfig (sps pps : Except Text Bytes) : Except Text CodecConfig := do
  let sps ← sps
  let pps ← pps
  if sps.length < 4 ∨ nalType sps ≠ some 7 ∨ nalType pps ≠ some 8 then
    throw "SPS and PPS are required".toList
  match sps.drop 1 with
  | profile :: constraints :: level :: _ =>
      return {
        sps := sps
        pps := pps
        profileLevelId := (profile, constraints, level) }
  | _ => throw "invalid SPS".toList

/-- The first check of `nativeSetFrameRate`. -/
def checkFrameRate (numerator denominator : Int32) : Except Text Unit :=
  if numerator < 0 ∨ denominator ≤ 0 then
    .error "invalid frame rate".toList
  else
    .ok ()

/-- The text of a lookup that fails. -/
def unknownHandle : Text :=
  "unknown native server handle".toList

/-- The object that `nativeGetStats` prints. -/
inductive StatsObject where
  | server (stats : StreamStats) (active : Bool)
  | unknown
  deriving Repr, DecidableEq

/-- A JSON boolean. -/
def jsonBool (value : Bool) : Text :=
  if value then "true".toList else "false".toList

/-- The text of the object; the keys of a `serde_json` map are sorted. -/
def StatsObject.text : StatsObject → Text
  | .server stats active =>
      "\x7b\"active\":".toList ++ jsonBool active ++
        ",\"frames\":".toList ++ decimal stats.frames.toNat ++
        ",\"last_frame_age_ms\":".toList ++
        (stats.lastFrameAgeMs.elim "null".toList fun age =>
          decimal age.toNat) ++
        ",\"ready\":".toList ++ jsonBool stats.ready ++
        ",\"viewers\":".toList ++ decimal stats.viewers ++ "\x7d".toList
  | .unknown =>
      "\x7b\"active\":false,\"ready\":false,\"viewers\":0,\"frames\":0\x7d".toList

/-- A thread of a server. -/
inductive Worker where
  | running
  | returned
  | panicked
  deriving Repr, DecidableEq

/-- The index of a server. -/
abbrev ServerId := Nat

/-- A server with what its `ServerHandle` shares with its thread. -/
structure Server where
  broadcaster : Broadcaster
  stopping : Bool
  worker : Worker
  deriving Repr, DecidableEq

/-- A Java thread. -/
abbrev ThreadId := Nat

/-- Where a Java thread is inside the library, when not at a lock. -/
inductive Call where
  | outside
  | spawned (server : ServerId)
  | numbered (server : ServerId) (handle : Int64)
  | removed (server : ServerId) (handle : Int64)
  | joining (server : ServerId) (handle : Int64)
  deriving Repr, DecidableEq

/-- `NEXT_HANDLE` and `SERVERS`, all servers and the Java threads. -/
structure Bridge where
  nextHandle : Int64
  servers : List (Int64 × ServerId)
  started : List Server
  calls : ThreadId → Call

/--
How a step ends: the call goes on, or it returns or throws.  A creation and a
stop also tell the server they are about; an impossible step is ignored.
-/
inductive Reply where
  | ignored
  | running
  | returned
  | threw (message : Text)
  | created (handle : Int64) (server : ServerId)
  | stats (object : StatsObject)
  | keyframe (request : Bool)
  | took (handle : Int64) (server : ServerId)
  | stopped
      (handle : Int64)
      (server : ServerId)
      (thrown : Option Text)
  deriving Repr, DecidableEq

/-- A call, a further step of one, or a step of a server. -/
inductive Action where
  | create
      (thread : ThreadId)
      (request : CreateRequest)
      (listener spawn : Except IoError Unit)
  | number (thread : ThreadId)
  | insert (thread : ThreadId)
  | setCodecConfig (handle : Int64) (sps pps : Except Text Bytes)
  | pushAccessUnit (handle : Int64) (request : PushRequest) (now : Instant)
  | getStats (handle : Int64) (now : Instant)
  | setFrameRate (handle : Int64) (numerator denominator : Int32)
  | takeKeyframeRequest (handle : Int64)
  | stop (thread : ThreadId) (handle : Int64)
  | raise (thread : ThreadId)
  | join (thread : ThreadId)
  | connection (server : ServerId) (operation : Broadcaster.Operation)
  | finish (server : ServerId) (panics : Bool)

/-- What the connections of a server do with its broadcaster. -/
def isConnections : Broadcaster.Operation → Bool
  | .subscribe => true
  | .recvTimeout _ => true
  | .drop _ => true
  | _ => false

namespace Bridge

/-- The library when it is loaded. -/
def initial : Bridge where
  nextHandle := 1
  servers := []
  started := []
  calls := fun _ => .outside

/-- `servers.get(&handle)`. -/
def find (bridge : Bridge) (handle : Int64) : Option ServerId :=
  bridge.servers.lookup handle

/-- Change a server. -/
def modify
    (bridge : Bridge)
    (server : ServerId)
    (change : Server → Server) : Bridge :=
  { bridge with started := bridge.started.modify server change }

/-- An operation on the broadcaster of a server. -/
def operate
    (bridge : Bridge)
    (server : ServerId)
    (operation : Broadcaster.Operation) : Bridge :=
  bridge.modify server fun state =>
    { state with broadcaster := state.broadcaster.step operation }

/-- The thread goes on from here. -/
def proceed (bridge : Bridge) (thread : ThreadId) (call : Call) : Bridge :=
  { bridge with calls := Function.update bridge.calls thread call }

/-- A call that operates on the broadcaster behind a handle. -/
def perform
    (bridge : Bridge)
    (handle : Int64)
    (operation : Except Text Broadcaster.Operation) : Bridge × Reply :=
  match operation with
  | .error message => (bridge, .threw message)
  | .ok operation =>
      match bridge.find handle with
      | none => (bridge, .threw unknownHandle)
      | some server => (bridge.operate server operation, .returned)

/-- `nativeCreateServer` up to the spawned thread. -/
def create
    (bridge : Bridge)
    (thread : ThreadId)
    (request : CreateRequest)
    (listener spawn : Except IoError Unit) : Bridge × Reply :=
  match request.check with
  | .error message => (bridge, .threw message)
  | .ok settings =>
      match bindWithTransport listener settings.path .initial 0
          settings.credentials settings.transport with
      | .error error => (bridge, .threw error.message)
      | .ok bound =>
          match spawn with
          | .error error => (bridge, .threw error.message)
          | .ok () =>
              let server : Server :=
                { broadcaster := bound.source
                  stopping := false
                  worker := .running }
              ({ bridge with
                  started := bridge.started ++ [server] }.proceed thread
                (.spawned bridge.started.length), .running)

/-- `SERVERS.insert`, which replaces what it finds. -/
def insert
    (bridge : Bridge)
    (handle : Int64)
    (server : ServerId) : Bridge :=
  { bridge with
    servers :=
      bridge.servers.filter (fun entry => entry.1 != handle) ++
        [(handle, server)] }

/-- `SERVERS.remove`. -/
def remove (bridge : Bridge) (handle : Int64) : Bridge :=
  { bridge with
    servers :=
      bridge.servers.filter fun entry => entry.1 != handle }

/-- `nativeGetStats`. -/
def getStats
    (bridge : Bridge)
    (handle : Int64)
    (now : Instant) : StatsObject :=
  match (bridge.find handle).bind (bridge.started[·]?) with
  | none => .unknown
  | some server =>
      .server (server.broadcaster.stats now) (!server.stopping)

/-- `nativeTakeKeyframeRequest`. -/
def takeKeyframeRequest
    (bridge : Bridge)
    (handle : Int64) : Bridge × Reply :=
  match bridge.find handle with
  | none => (bridge, .keyframe false)
  | some server =>
      (bridge.operate server .takeKeyframeRequest,
        .keyframe
          ((bridge.started[server]?).any fun state =>
            state.broadcaster.takeKeyframeRequest.1))

/-- `worker.join()`, once the thread has ended. -/
def join
    (bridge : Bridge)
    (thread : ThreadId)
    (handle : Int64)
    (server : ServerId) : Bridge × Reply :=
  match (bridge.started[server]?).map Server.worker with
  | some .returned =>
      (bridge.proceed thread .outside, .stopped handle server none)
  | some .panicked =>
      (bridge.proceed thread .outside,
        .stopped handle server
          (some "RTSP server thread panicked".toList))
  | _ => (bridge, .ignored)

/-- One step. -/
def step (bridge : Bridge) : Action → Bridge × Reply
  | .create thread request listener spawn =>
      match bridge.calls thread with
      | .outside => bridge.create thread request listener spawn
      | _ => (bridge, .ignored)
  | .number thread =>
      match bridge.calls thread with
      | .spawned server =>
          ({ bridge with
              nextHandle := bridge.nextHandle + 1 }.proceed thread
            (.numbered server bridge.nextHandle), .running)
      | _ => (bridge, .ignored)
  | .insert thread =>
      match bridge.calls thread with
      | .numbered server handle =>
          ((bridge.insert handle server).proceed thread .outside,
            .created handle server)
      | _ => (bridge, .ignored)
  | .setCodecConfig handle sps pps =>
      bridge.perform handle
        ((codecConfig sps pps).map .setCodecConfig)
  | .pushAccessUnit handle request now =>
      bridge.perform handle
        (request.accessUnit.map fun accessUnit => .publish accessUnit now)
  | .getStats handle now => (bridge, .stats (bridge.getStats handle now))
  | .setFrameRate handle numerator denominator =>
      bridge.perform handle
        ((checkFrameRate numerator denominator).map fun _ =>
          .setFrameRate numerator.toUInt32 denominator.toUInt32)
  | .takeKeyframeRequest handle => bridge.takeKeyframeRequest handle
  | .stop thread handle =>
      match bridge.calls thread, bridge.find handle with
      | .outside, some server =>
          ((bridge.remove handle).proceed thread (.removed server handle),
            .took handle server)
      | .outside, none => (bridge, .threw unknownHandle)
      | _, _ => (bridge, .ignored)
  | .raise thread =>
      match bridge.calls thread with
      | .removed server handle =>
          ((bridge.modify server fun state =>
              { state with stopping := true }).proceed thread
            (.joining server handle), .running)
      | _ => (bridge, .ignored)
  | .join thread =>
      match bridge.calls thread with
      | .joining server handle => bridge.join thread handle server
      | _ => (bridge, .ignored)
  | .connection server operation =>
      if isConnections operation ∧ server < bridge.started.length then
        (bridge.operate server operation, .running)
      else
        (bridge, .ignored)
  | .finish server panics =>
      (bridge.modify server fun state =>
        if state.worker = .running then
          if panics then
            { state with worker := .panicked }
          else
            { state with stopping := true, worker := .returned }
        else
          state, .running)

/-- An action with its reply. -/
abbrev History := List (Action × Reply)

/-- A run, with the replies in their order. -/
def run (bridge : Bridge) : List Action → Bridge × History
  | [] => (bridge, [])
  | action :: later =>
      let next := bridge.step action
      let rest := next.1.run later
      (rest.1, (action, next.2) :: rest.2)

end Bridge

end NativeBridge

end CamRtsp
