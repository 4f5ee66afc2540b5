import CamRtsp.Core
import Mathlib.Data.List.DropRight

namespace CamRtsp

open RustText

/-!
# Transport negotiation and delivery

A SETUP request lists transport alternatives.  The negotiated `Delivery` tells
where RTP and RTCP packets go: into frames on the control connection, or to UDP
ports of the peer.
-/

/-- `std::net::IpAddr`. -/
inductive IpAddr where
  | v4 (octets : Vector UInt8 4)
  | v6 (segments : Vector UInt16 8)
  deriving Repr, DecidableEq

/-- `std::net::SocketAddr`, without the flow label that is never shown. -/
structure SocketAddr where
  ip : IpAddr
  port : UInt16
  scopeId : UInt32
  deriving Repr, DecidableEq

/-- `SocketAddr::new`. -/
def SocketAddr.new (ip : IpAddr) (port : UInt16) : SocketAddr where
  ip := ip
  port := port
  scopeId := 0

/-- Decimal octets with dots. -/
def displayOctets (octets : List UInt8) : Text :=
  ['.'].intercalate (octets.map fun octet => decimal octet.toNat)

/-- `{:x}` of an IPv6 segment. -/
def displaySegment (segment : UInt16) : Text :=
  Nat.toDigits 16 segment.toNat

/-- IPv6 segments with colons. -/
def displaySegments (segments : List UInt16) : Text :=
  [':'].intercalate (segments.map displaySegment)

/-- A run of zero segments. -/
structure ZeroRun where
  start : Nat
  length : Nat
  deriving Repr, DecidableEq

/-- The first of the longest runs of zero segments. -/
def longestZeroRun
    (index : Nat)
    (current longest : ZeroRun) : List UInt16 → ZeroRun
  | [] => longest
  | segment :: later =>
      if segment = 0 then
        let current : ZeroRun := {
          start := if current.length = 0 then index else current.start
          length := current.length + 1
        }
        let longest :=
          if longest.length < current.length then current else longest
        longestZeroRun (index + 1) current longest later
      else
        longestZeroRun (index + 1) { start := 0, length := 0 } longest later

/-- `Display` of an address. -/
def IpAddr.display : IpAddr → Text
  | .v4 octets => displayOctets octets.toList
  | .v6 segments =>
      let segments := segments.toList
      if segments.take 6 = [0, 0, 0, 0, 0, 0xffff] then
        "::ffff:".toList ++
          displayOctets
            ((segments.drop 6).flatMap fun segment =>
              [UInt8.ofNat (segment.toNat / 256),
                UInt8.ofNat segment.toNat])
      else
        let zeroes :=
          longestZeroRun 0 { start := 0, length := 0 }
            { start := 0, length := 0 } segments
        if 1 < zeroes.length then
          displaySegments (segments.take zeroes.start) ++ "::".toList ++
            displaySegments
              (segments.drop (zeroes.start + zeroes.length))
        else
          displaySegments segments

/-- `Display` of a socket address. -/
def SocketAddr.display (address : SocketAddr) : Text :=
  match address.ip with
  | .v4 _ =>
      address.ip.display ++ ':' :: decimal address.port.toNat
  | .v6 _ =>
      let scope :=
        if address.scopeId = 0 then
          []
        else
          '%' :: decimal address.scopeId.toNat
      '[' :: address.ip.display ++ scope ++ ']' :: ':' ::
        decimal address.port.toNat

/-- A bound `UdpSocket`, by its local address. -/
structure UdpSocket where
  ip : IpAddr
  port : UInt16
  deriving Repr, DecidableEq

/-- `TransportPolicy`. -/
inductive TransportPolicy where
  | tcp
  | udp
  | both
  deriving Repr, DecidableEq

/-- `Delivery`. -/
inductive Delivery where
  | tcp (rtpChannel rtcpChannel : UInt8)
  | udp (rtp rtcp : UdpSocket) (clientRtp clientRtcp : SocketAddr)
  deriving Repr, DecidableEq

/-- `parameter`: the first parameter with the given key. -/
def parameter (value : Text) (key : String) : Option Text :=
  (value.splitOn ';').findSome? fun part =>
    stripPrefix (key.toList ++ ['=']) (trim part)

/-- `parse_pair`. -/
def parsePair (value : Text) : Option (UInt16 × UInt16) :=
  (splitOnce '-' value).bind fun (first, second) =>
    (fromStrRadix 10 65536 first).bind fun first =>
      (fromStrRadix 10 65536 second).map fun second =>
        (UInt16.ofNat first, UInt16.ofNat second)

/-- The ports `bind_udp_pair` tries for RTP. -/
def rtpPorts : List UInt16 :=
  (List.range 5000).map fun index => UInt16.ofNat (50000 + 2 * index)

/-- `bind_udp_pair`, where `canBind` tells which ports can be bound. -/
def bindUdpPair
    (localIp : IpAddr)
    (canBind : UInt16 → Bool) : Option (UdpSocket × UdpSocket) :=
  (rtpPorts.find? fun port => canBind port && canBind (port + 1)).map
    fun port =>
      ({ ip := localIp, port := port }, { ip := localIp, port := port + 1 })

/--
One iteration of the loop in `negotiate_transport`: nothing where the source
continues, otherwise what it returns.
-/
def negotiateAlternative
    (clientIp localIp : IpAddr)
    (policy : TransportPolicy)
    (canBind : UInt16 → Bool)
    (alternative : Text) : Option (Option Delivery) :=
  let lower := toAsciiLowercase alternative
  let parts := lower.splitOn ';'
  if parts.any fun part => trim part == "multicast".toList then
    none
  else
    let protocol := trim (parts.headD [])
    if protocol = "rtp/avp/tcp".toList ∧ policy ≠ .udp then
      match parameter lower "interleaved" with
      | none => some (some (.tcp 0 1))
      | some value =>
          match parsePair value with
          | some (first, second) =>
              if first ≠ second ∧ first ≤ 255 ∧ second ≤ 255 then
                some (some (.tcp first.toUInt8 second.toUInt8))
              else
                none
          | none => none
    else if
        (protocol = "rtp/avp".toList ∨
          protocol = "rtp/avp/udp".toList) ∧ policy ≠ .tcp then
      match (parameter lower "client_port").bind parsePair with
      | none => none
      | some (rtpPort, rtcpPort) =>
          if rtpPort = 0 ∨ rtcpPort = 0 ∨ rtpPort = rtcpPort then
            none
          else
            some ((bindUdpPair localIp canBind).map fun (rtp, rtcp) =>
              .udp rtp rtcp (.new clientIp rtpPort)
                (.new clientIp rtcpPort))
    else
      none

/-- `negotiate_transport`. -/
def negotiateTransport
    (value : Text)
    (clientIp localIp : IpAddr)
    (policy : TransportPolicy)
    (canBind : UInt16 → Bool) : Option Delivery :=
  ((value.splitOn ',').findSome?
    (negotiateAlternative clientIp localIp policy canBind)).join

/-- `Delivery::transport_header`, when the sockets tell their addresses. -/
def Delivery.transportHeader : Delivery → Text
  | .tcp rtpChannel rtcpChannel =>
      "RTP/AVP/TCP;unicast;interleaved=".toList ++
        decimal rtpChannel.toNat ++ '-' :: decimal rtcpChannel.toNat
  | .udp rtp rtcp clientRtp clientRtcp =>
      "RTP/AVP;unicast;client_port=".toList ++
        decimal clientRtp.port.toNat ++
        '-' :: decimal clientRtcp.port.toNat ++
        ";server_port=".toList ++ decimal rtp.port.toNat ++
        '-' :: decimal rtcp.port.toNat ++
        ";source=".toList ++ rtp.ip.display

/-- The header asks the sockets for their addresses. -/
def Delivery.usesSockets : Delivery → Bool
  | .tcp _ _ => false
  | .udp _ _ _ _ => true

/-- The frame that carries a packet on a channel of the control connection. -/
def interleaved (channel : UInt8) (packet : Bytes) : Bytes :=
  [0x24, channel, UInt8.ofNat (packet.length / 256),
    UInt8.ofNat packet.length] ++ packet

/-- What `Delivery::send_rtp` writes to the control connection. -/
def Delivery.rtpBytes (delivery : Delivery) (packet : Bytes) : Bytes :=
  match delivery with
  | .tcp rtpChannel _ => interleaved rtpChannel packet
  | .udp _ _ _ _ => []

/-- What `Delivery::send_rtcp` writes to the control connection. -/
def Delivery.rtcpBytes (delivery : Delivery) (packet : Bytes) : Bytes :=
  match delivery with
  | .tcp _ rtcpChannel => interleaved rtcpChannel packet
  | .udp _ _ _ _ => []

/-- A call of `UdpSocket::send_to`. -/
structure Datagram where
  socket : UdpSocket
  packet : Bytes
  receiver : SocketAddr
  deriving Repr, DecidableEq

/-- The datagrams that `Delivery::send_rtp` sends. -/
def Delivery.rtpDatagrams
    (delivery : Delivery)
    (packet : Bytes) : List Datagram :=
  match delivery with
  | .tcp _ _ => []
  | .udp rtp _ clientRtp _ =>
      [{ socket := rtp, packet := packet, receiver := clientRtp }]

/-- The datagrams that `Delivery::send_rtcp` sends. -/
def Delivery.rtcpDatagrams
    (delivery : Delivery)
    (packet : Bytes) : List Datagram :=
  match delivery with
  | .tcp _ _ => []
  | .udp _ rtcp _ clientRtcp =>
      [{ socket := rtcp, packet := packet, receiver := clientRtcp }]

end CamRtsp
