import CamRtsp.Core
import CamRtsp.Foundation.BigEndian

namespace CamRtsp

open RustText

/-!
# RTP and RTCP packets

The payload format and the packet headers come from `camrtsp-rtp`; the sender
report, the goodbye and the loops over an access unit come from the server.
The loops of the source compare an index with a length to find the last
element; here it is the one with nothing behind it.
-/

/-- `RTP_MTU`. -/
def rtpMtu : Nat :=
  1400

/-- `slice::chunks`. -/
def chunks (size : Nat) (bytes : Bytes) : List Bytes :=
  if _done : size = 0 ∨ bytes = [] then
    []
  else
    bytes.take size :: chunks size (bytes.drop size)
termination_by bytes.length
decreasing_by
  rw [not_or] at _done
  have positive : 0 < bytes.length := List.length_pos_iff.mpr _done.2
  simp only [List.length_drop]
  omega

/-- `packetize_h264`. -/
def packetizeH264 (nal : Bytes) (mtu : Nat) : List Bytes :=
  match nal with
  | [] => []
  | header :: body =>
      if mtu ≤ 2 then
        []
      else if (header :: body).length ≤ mtu then
        [header :: body]
      else
        let fuIndicator := (header &&& 0xe0) ||| 28
        let type := header &&& 0x1f
        let chunk := mtu - 2
        (chunks chunk body).mapIdx fun index data =>
          let last : Bool := (index + 1) * chunk ≥ (header :: body).length - 1
          fuIndicator ::
            ((type ||| (if index = 0 then 0x80 else 0)) |||
              (if last then 0x40 else 0)) :: data

/-- `rtp_packet`. -/
def rtpPacket
    (payload : Bytes)
    (sequence : UInt16)
    (timestamp ssrc : UInt32)
    (marker : Bool) : Bytes :=
  [0x80, 96 ||| (if marker then 0x80 else 0)] ++
    BigEndian.toBytes 2 sequence.toNat ++
    BigEndian.toBytes 4 timestamp.toNat ++
    BigEndian.toBytes 4 ssrc.toNat ++ payload

/-- `SystemTime::now()` since the epoch. -/
structure WallClock where
  seconds : Nat
  nanoseconds : Nat
  deriving Repr, DecidableEq

/-- `rtcp_sender_report`. -/
def rtcpSenderReport
    (now : WallClock)
    (ssrc rtpTimestamp packets octets : UInt32) : Bytes :=
  let ntpSeconds := UInt32.ofNat (now.seconds + 2208988800)
  let ntpFraction :=
    UInt32.ofNat (now.nanoseconds * 2 ^ 32 / 1000000000)
  let cname : Bytes := [99, 97, 109, 114, 116, 115, 112]
  [0x80, 200, 0, 6] ++
    BigEndian.toBytes 4 ssrc.toNat ++
    BigEndian.toBytes 4 ntpSeconds.toNat ++
    BigEndian.toBytes 4 ntpFraction.toNat ++
    BigEndian.toBytes 4 rtpTimestamp.toNat ++
    BigEndian.toBytes 4 packets.toNat ++
    BigEndian.toBytes 4 octets.toNat ++
    ([0x81, 202, 0, 4] ++
      BigEndian.toBytes 4 ssrc.toNat ++
      [1, UInt8.ofNat cname.length] ++ cname ++ [0, 0, 0])

/-- `rtcp_bye`. -/
def rtcpBye (ssrc : UInt32) : Bytes :=
  [0x81, 203, 0, 1] ++ BigEndian.toBytes 4 ssrc.toNat

/-- The counters of `handle` that advance with every RTP packet. -/
structure RtpCounters where
  sequence : UInt16
  packets : UInt32
  octets : UInt32
  deriving Repr, DecidableEq

/-- The counters after a packet with the given payload. -/
def RtpCounters.advance
    (counters : RtpCounters)
    (payload : Bytes) : RtpCounters where
  sequence := counters.sequence + 1
  packets := counters.packets + 1
  octets := counters.octets + UInt32.ofNat payload.length

/-- The inner loop: the packets of one NAL unit. -/
def sendPayloads
    (ssrc timestamp : UInt32)
    (lastNal : Bool)
    (counters : RtpCounters) : List Bytes → List Bytes × RtpCounters
  | [] => ([], counters)
  | payload :: later =>
      let marker := lastNal && later.isEmpty
      let packet :=
        rtpPacket payload counters.sequence timestamp ssrc marker
      let rest :=
        sendPayloads ssrc timestamp lastNal (counters.advance payload) later
      (packet :: rest.1, rest.2)

/-- The outer loop: the packets of one access unit. -/
def sendNalUnits
    (ssrc timestamp : UInt32)
    (counters : RtpCounters) : List Bytes → List Bytes × RtpCounters
  | [] => ([], counters)
  | nal :: later =>
      let first :=
        sendPayloads ssrc timestamp later.isEmpty counters
          (packetizeH264 nal rtpMtu)
      let rest := sendNalUnits ssrc timestamp first.2 later
      (first.1 ++ rest.1, rest.2)

/-- The packets of one access unit. -/
def sendAccessUnit
    (ssrc : UInt32)
    (counters : RtpCounters)
    (accessUnit : EncodedAccessUnit) : List Bytes × RtpCounters :=
  sendNalUnits ssrc accessUnit.pts90khz counters accessUnit.nalUnits

end CamRtsp
