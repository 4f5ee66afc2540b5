import CamRtsp.Auth
import CamRtsp.Broadcaster
import CamRtsp.Rtp
import CamRtsp.Target
import CamRtsp.Transport

namespace CamRtsp

open RustText

/-!
# One connection

`handle` is a loop.  Each iteration serves at most one request and then moves
media.  `Iteration` holds everything an iteration learns from outside: clocks,
random bytes, the broadcaster's answers, which ports can be bound and which
write fails.  A turn is first computed as if all writes succeed; `perform` then
cuts it at the failing write, behind which `handle` returns.
-/

/-- What the server is configured with. -/
structure ServerConfig where
  crates : Crates
  path : Text
  pathValid : validPath path = true
  credentials : Option Credentials
  transportPolicy : TransportPolicy

/-- What stays fixed for one connection. -/
structure Connection where
  server : ServerConfig
  peerIp : IpAddr
  localAddr : SocketAddr
  sessionData : Bytes
  ssrc : UInt32

namespace Connection

/-- `session_id`. -/
def sessionId (connection : Connection) : Text :=
  randomHex connection.sessionData

/-- `session_header`, without its line end. -/
def sessionHeader (connection : Connection) : Text :=
  "Session: ".toList ++ connection.sessionId

end Connection

/-- The variables of the loop. -/
structure Session where
  delivery : Option Delivery
  subscription : Option SubscriptionId
  auth : AuthState
  counters : RtpCounters
  lastTimestamp : Option (UInt32 × Instant)
  lastReport : Instant
  lastControl : Instant
  deriving Repr, DecidableEq

/-- The values drawn and read before the loop. -/
structure Opening where
  nonceData : Bytes
  issuedAt : Instant
  sequence : UInt16
  reportAt : Instant
  controlAt : Instant
  deriving Repr, DecidableEq

/-- The variables at the start of the loop. -/
def Session.start (opening : Opening) : Session where
  delivery := none
  subscription := none
  auth := {
    nonce := randomHex opening.nonceData
    issued := opening.issuedAt
  }
  counters := { sequence := opening.sequence, packets := 0, octets := 0 }
  lastTimestamp := none
  lastReport := opening.reportAt
  lastControl := opening.controlAt

/--
A failing write: how many writes of the turn succeed before it, and how many
bytes of it still reach the stream.
-/
structure SendFailure where
  after : Nat
  written : Nat
  error : IoError
  deriving Repr, DecidableEq

/-- Everything an iteration learns from outside. -/
structure Iteration where
  controlAt : Instant
  checkedAt : Instant
  renewalAt : Instant
  nonceData : Bytes
  renewedAt : Instant
  codec : Option CodecConfig
  frameRate : Option (UInt32 × UInt32)
  canBind : UInt16 → Bool
  socketError : Option IoError
  subscription : SubscriptionId
  idleAt : Instant
  received : Option EncodedAccessUnit
  sentAt : Instant
  reportAt : Instant
  elapsedAt : Instant
  reportedAt : Instant
  wallClock : WallClock
  failure : Option SendFailure

/-- The status lines the server answers with. -/
inductive Status where
  | ok
  | unauthorized
  | notFound
  | sessionNotFound
  | methodNotValid
  | unsupportedTransport
  | serviceUnavailable
  deriving Repr, DecidableEq

/-- The status code and its phrase. -/
def Status.phrase : Status → String
  | .ok => "200 OK"
  | .unauthorized => "401 Unauthorized"
  | .notFound => "404 Not Found"
  | .sessionNotFound => "454 Session Not Found"
  | .methodNotValid => "455 Method Not Valid in This State"
  | .unsupportedTransport => "461 Unsupported Transport"
  | .serviceUnavailable => "503 Service Unavailable"

/-- The arguments of `respond`; each header line ends in CR LF on the wire. -/
structure Response where
  cseq : Text
  status : Status
  headers : List Text
  body : Text
  deriving Repr, DecidableEq

/-- What `respond` writes. -/
def Response.encode (response : Response) : Bytes :=
  let crlf : Text := ['\r', '\n']
  toUtf8
    ("RTSP/1.0 ".toList ++ response.status.phrase.toList ++ crlf ++
      "CSeq: ".toList ++ response.cseq ++ crlf ++
      response.headers.flatMap (· ++ crlf) ++
      "Content-Length: ".toList ++
      decimal (toUtf8 response.body).length ++ crlf ++ crlf ++
      response.body)

/-- One write of the server; the failure of a goodbye is ignored. -/
inductive Send where
  | response (response : Response)
  | rtp (delivery : Delivery) (packet : Bytes)
  | rtcp (delivery : Delivery) (packet : Bytes)
  | bye (delivery : Delivery) (packet : Bytes)
  deriving Repr, DecidableEq

/-- The bytes a write puts on the control connection. -/
def Send.wire : Send → Bytes
  | .response reply => reply.encode
  | .rtp delivery packet => delivery.rtpBytes packet
  | .rtcp delivery packet => delivery.rtcpBytes packet
  | .bye delivery packet => delivery.rtcpBytes packet

/-- The datagrams a write sends. -/
def Send.datagrams : Send → List Datagram
  | .response _ => []
  | .rtp delivery packet => delivery.rtpDatagrams packet
  | .rtcp delivery packet => delivery.rtcpDatagrams packet
  | .bye delivery packet => delivery.rtcpDatagrams packet

/-- How a turn ends. -/
inductive Next where
  | running (session : Session)
  | closed (result : Except IoError Unit)

/-! ## Answering a request -/

/-- `sdp`. -/
def sdp
    (crates : Crates)
    (rate : Option (UInt32 × UInt32))
    (codec : CodecConfig) : Text :=
  let crlf : Text := ['\r', '\n']
  let framerate :=
    rate.elim [] fun (numerator, denominator) =>
      "a=framerate:".toList ++ crates.framerate numerator denominator ++
        crlf
  let (profile, constraints, level) := codec.profileLevelId
  "v=0".toList ++ crlf ++
    "o=- 0 0 IN IP4 127.0.0.1".toList ++ crlf ++
    "s=camrtsp".toList ++ crlf ++
    "c=IN IP4 0.0.0.0".toList ++ crlf ++
    "t=0 0".toList ++ crlf ++
    "a=control:*".toList ++ crlf ++
    "m=video 0 RTP/AVP 96".toList ++ crlf ++
    "a=rtpmap:96 H264/90000".toList ++ crlf ++
    "a=fmtp:96 packetization-mode=1;profile-level-id=".toList ++
    hexByte profile ++ hexByte constraints ++ hexByte level ++
    ";sprop-parameter-sets=".toList ++ crates.base64Encode codec.sps ++
    ',' :: crates.base64Encode codec.pps ++ crlf ++
    framerate ++
    "a=control:trackID=0".toList ++ crlf

/-- The challenges of a 401 answer. -/
def challenges (nonce : Text) : List Text :=
  let digest (algorithm : String) : Text :=
    "WWW-Authenticate: Digest realm=\"camrtsp\", nonce=\"".toList ++
      nonce ++ "\", algorithm=".toList ++ algorithm.toList ++
      ", qop=\"auth\"".toList
  [digest "SHA-256", digest "MD5",
    "WWW-Authenticate: Basic realm=\"camrtsp\"".toList]

/-- The path of the stream without a trailing slash. -/
def aggregate (path : Text) : Text :=
  if path = ['/'] then ['/'] else trimEndMatches '/' path

/-- The path of the stream with a trailing slash. -/
def aggregateWithSlash (path : Text) : Text :=
  if aggregate path = ['/'] then ['/'] else aggregate path ++ ['/']

/-- The path of the only track. -/
def track (path : Text) : Text :=
  aggregateWithSlash path ++ "trackID=0".toList

/-- The request names the stream, its track, or the server itself. -/
def targets (path : Text) (request : Request) : Prop :=
  (request.method = "OPTIONS".toList ∧ request.uri = ['*']) ∨
    requestPath request.uri = some (aggregate path) ∨
    requestPath request.uri = some (aggregateWithSlash path) ∨
    requestPath request.uri = some (track path)

instance (path : Text) (request : Request) :
    Decidable (targets path request) :=
  inferInstanceAs (Decidable (_ ∨ _))

/-- `supplied_session`: the Session value up to a semicolon. -/
def suppliedSession (request : Request) : Option Text :=
  (request.header "session").map fun value =>
    trim (value.takeWhile (· != ';'))

/-- The method needs the session to be named once it exists. -/
def needsSession (method : Text) : Bool :=
  method == "PLAY".toList || method == "PAUSE".toList ||
    method == "TEARDOWN".toList

/-- The session gate turns the request away. -/
def wrongSession
    (connection : Connection)
    (session : Session)
    (request : Request) : Prop :=
  (∃ supplied ∈ suppliedSession request,
      supplied ≠ connection.sessionId) ∨
    (needsSession request.method = true ∧ session.delivery.isSome = true ∧
      suppliedSession request = none)

instance
    (connection : Connection)
    (session : Session)
    (request : Request) :
    Decidable (wrongSession connection session request) :=
  inferInstanceAs (Decidable (_ ∨ _))

/-- The Content-Base of a DESCRIBE answer, without the final slash. -/
def contentBase (connection : Connection) (uri : Text) : Text :=
  let path := trimEndMatches '/' connection.server.path
  match stripPrefix "rtsp://".toList uri with
  | some rest =>
      let authority :=
        (rest.takeWhile (· != '/')).rtakeWhile (· != '@')
      "rtsp://".toList ++ authority ++ path
  | none => "rtsp://".toList ++ connection.localAddr.display ++ path

/-- What follows a served request in the same iteration. -/
inductive Flow where
  | proceed
  | again
  | finished
  | failed (error : IoError)
  deriving Repr, DecidableEq

/-- The state, the writes and the control flow behind a request. -/
structure Handled where
  session : Session
  sends : List Send
  flow : Flow
  deriving Repr, DecidableEq

/-- Answer without a body and change nothing. -/
def answer
    (session : Session)
    (request : Request)
    (status : Status)
    (headers : List Text)
    (flow : Flow) : Handled where
  session := session
  sends := [.response {
    cseq := request.cseq, status := status, headers := headers, body := [] }]
  flow := flow

/-- The header line of an answer to OPTIONS. -/
def publicMethods : Text :=
  ("Public: OPTIONS, DESCRIBE, SETUP, PLAY, PAUSE, " ++
    "GET_PARAMETER, TEARDOWN").toList

/-- The answer that describes the stream. -/
def description
    (connection : Connection)
    (iteration : Iteration)
    (request : Request)
    (codec : CodecConfig) : Response where
  cseq := request.cseq
  status := .ok
  headers :=
    ["Content-Type: application/sdp".toList,
      "Content-Base: ".toList ++ contentBase connection request.uri ++
        ['/']]
  body := sdp connection.server.crates iteration.frameRate codec

/-- The `DESCRIBE` arm. -/
def describe
    (connection : Connection)
    (iteration : Iteration)
    (session : Session)
    (request : Request) : Handled :=
  match iteration.codec with
  | some codec =>
      { session := session
        sends := [.response (description connection iteration request codec)]
        flow := .proceed }
  | none =>
      answer session request .serviceUnavailable
        ["Retry-After: 1".toList] .proceed

/-- The `SETUP` arm. -/
def setup
    (connection : Connection)
    (iteration : Iteration)
    (session : Session)
    (request : Request) : Handled :=
  match (request.header "transport").bind fun value =>
    negotiateTransport value connection.peerIp connection.localAddr.ip
      connection.server.transportPolicy iteration.canBind with
  | some selected =>
      match iteration.socketError, selected.usesSockets with
      | some error, true =>
          { session := session, sends := [], flow := .failed error }
      | _, _ =>
          answer { session with delivery := some selected } request .ok
            ["Transport: ".toList ++ selected.transportHeader,
              connection.sessionHeader]
            .proceed
  | none => answer session request .unsupportedTransport [] .proceed

/-- The `TEARDOWN` arm. -/
def teardown
    (connection : Connection)
    (session : Session)
    (delivery : Delivery)
    (request : Request) : Handled :=
  let answered :=
    answer session request .ok [connection.sessionHeader] .finished
  { answered with
    sends := answered.sends ++ [.bye delivery (rtcpBye connection.ssrc)] }

/-- The `match` on the method. -/
def dispatch
    (connection : Connection)
    (iteration : Iteration)
    (session : Session)
    (request : Request) : Handled :=
  if request.method = "OPTIONS".toList then
    answer session request .ok [publicMethods] .proceed
  else if request.method = "DESCRIBE".toList then
    describe connection iteration session request
  else if request.method = "SETUP".toList ∧ session.subscription = none then
    setup connection iteration session request
  else if request.method = "PLAY".toList ∧ session.delivery.isSome then
    answer
      { session with
        subscription :=
          session.subscription.or (some iteration.subscription) }
      request .ok [connection.sessionHeader, "Range: npt=now-".toList]
      .proceed
  else if request.method = "PAUSE".toList ∧ session.subscription.isSome then
    answer { session with subscription := none } request .ok
      [connection.sessionHeader] .proceed
  else if request.method = "GET_PARAMETER".toList then
    answer session request .ok [connection.sessionHeader] .proceed
  else
    match session.delivery with
    | some delivery =>
        if request.method = "TEARDOWN".toList then
          teardown connection session delivery request
        else
          answer session request .methodNotValid [] .proceed
    | none => answer session request .methodNotValid [] .proceed

/-- The nonce offered in a 401 answer: a fresh one when the old has expired. -/
def renewed (iteration : Iteration) (auth : AuthState) : AuthState :=
  if nonceTtl ≤ elapsed auth.issued iteration.renewalAt then
    { nonce := randomHex iteration.nonceData
      issued := iteration.renewedAt }
  else
    auth

/-- The part of an iteration that serves a request. -/
def serve
    (connection : Connection)
    (iteration : Iteration)
    (session : Session)
    (request : Request) : Handled :=
  let session := { session with lastControl := iteration.controlAt }
  if request.method ≠ "OPTIONS".toList ∧
      authorized connection.server.crates request
        connection.server.credentials session.auth
        iteration.checkedAt = false then
    let auth := renewed iteration session.auth
    answer { session with auth := auth } request .unauthorized
      (challenges auth.nonce) .again
  else if ¬ targets connection.server.path request then
    answer session request .notFound [] .again
  else if wrongSession connection session request then
    answer session request .sessionNotFound [] .again
  else
    dispatch connection iteration session request

/-! ## Moving media -/

/-- Send a received access unit. -/
def sendMedia
    (connection : Connection)
    (iteration : Iteration)
    (session : Session)
    (delivery : Delivery) : List Send × Session :=
  match iteration.received with
  | some accessUnit =>
      let packets :=
        sendAccessUnit connection.ssrc session.counters accessUnit
      (packets.1.map (.rtp delivery),
        { session with
          counters := packets.2
          lastTimestamp :=
            some (accessUnit.pts90khz, iteration.sentAt) })
  | none => ([], session)

/-- Send a sender report every five seconds. -/
def sendReport
    (connection : Connection)
    (iteration : Iteration)
    (session : Session)
    (delivery : Delivery) : List Send × Session :=
  match session.lastTimestamp with
  | some (timestamp, sent) =>
      if seconds 5 ≤ elapsed session.lastReport iteration.reportAt then
        let micros := elapsed sent iteration.elapsedAt / 1000
        let timestamp := timestamp + UInt32.ofNat (micros * 90 / 1000)
        ([.rtcp delivery
            (rtcpSenderReport iteration.wallClock connection.ssrc timestamp
              session.counters.packets session.counters.octets)],
          { session with lastReport := iteration.reportedAt })
      else
        ([], session)
  | none => ([], session)

/-- The part of an iteration behind the request. -/
def stream
    (connection : Connection)
    (iteration : Iteration)
    (session : Session) : List Send × Next :=
  match session.subscription with
  | none =>
      if seconds 30 < elapsed session.lastControl iteration.idleAt then
        ([], .closed (.error {
          kind := .timedOut, message := "idle RTSP session".toList }))
      else
        ([], .running session)
  | some _ =>
      match session.delivery with
      | none => ([], .running session)
      | some delivery =>
          let media := sendMedia connection iteration session delivery
          let report := sendReport connection iteration media.2 delivery
          (media.1 ++ report.1, .running report.2)

/-! ## Turns -/

/-- The variables behind the request of a turn. -/
def served
    (connection : Connection)
    (iteration : Iteration)
    (session : Session) : Option Request → Handled
  | some request => serve connection iteration session request
  | none => { session := session, sends := [], flow := .proceed }

/-- A turn whose writes all succeed. -/
def turn
    (connection : Connection)
    (iteration : Iteration)
    (session : Session)
    (request : Option Request) : List Send × Next :=
  let handled := served connection iteration session request
  match handled.flow with
  | .proceed =>
      let media := stream connection iteration handled.session
      (handled.sends ++ media.1, media.2)
  | .again => (handled.sends, .running handled.session)
  | .finished => (handled.sends, .closed (.ok ()))
  | .failed error => (handled.sends, .closed (.error error))

/-- What a turn really does. -/
structure Performed where
  sends : List Send
  torn : Bytes
  next : Next

/-- Cut a turn at its failing write. -/
def perform
    (failure : Option SendFailure)
    (sends : List Send)
    (next : Next) : Performed :=
  match failure with
  | none => { sends := sends, torn := [], next := next }
  | some failure =>
      match sends[failure.after]? with
      | none => { sends := sends, torn := [], next := next }
      | some failed =>
          { sends := sends.take failure.after
            torn := failed.wire.dropLast.take failure.written
            next :=
              match failed with
              | .bye _ _ => next
              | _ => .closed (.error failure.error) }

/-- One iteration, given the request it reads. -/
def step
    (connection : Connection)
    (session : Session)
    (request : Option Request)
    (iteration : Iteration) : Performed :=
  let whole := turn connection iteration session request
  perform iteration.failure whole.1 whole.2

/-- One iteration of a run, with the state it finds. -/
structure Transition where
  before : Session
  request : Option Request
  iteration : Iteration
  performed : Performed

/-- The loop on requests that are already read. -/
def run
    (connection : Connection)
    (session : Session) :
    List (Option Request × Iteration) → List Transition × Next
  | [] => ([], .running session)
  | (request, iteration) :: later =>
      let performed := step connection session request iteration
      let transition : Transition := {
        before := session
        request := request
        iteration := iteration
        performed := performed
      }
      match performed.next with
      | .running session =>
          let rest := run connection session later
          (transition :: rest.1, rest.2)
      | .closed result => ([transition], .closed result)

/-- `handle`: the loop with its reads of the control connection. -/
def handle
    (connection : Connection)
    (session : Session)
    (input : Bytes) :
    List (ReadOutcome × Iteration) → List Transition × Next
  | [] => ([], .running session)
  | (read, iteration) :: later =>
      match readControl read input with
      | .error error => ([], .closed (.error error))
      | .ok (request, input) =>
          let performed := step connection session request iteration
          let transition : Transition := {
            before := session
            request := request
            iteration := iteration
            performed := performed
          }
          match performed.next with
          | .running session =>
              let rest := handle connection session input later
              (transition :: rest.1, rest.2)
          | .closed result => ([transition], .closed result)

end CamRtsp
