import CamRtsp.Foundation.BigEndian

/-!
# Reading RTP packets and RTCP sender reports

A receiver's view of the fixed RTP header, without contributing sources,
extension or padding, and of the sender information in a sender report.
-/

namespace RtpFormat

open RustText

/-- An RTP packet as a receiver reads it. -/
structure Packet where
  marker : Bool
  payloadType : UInt8
  sequence : UInt16
  timestamp : UInt32
  ssrc : UInt32
  payload : Bytes
  deriving Repr, DecidableEq

/-- Read a packet with a plain fixed header. -/
def Packet.decode : Bytes → Option Packet
  | 0x80 :: flags :: s₁ :: s₀ :: t₃ :: t₂ :: t₁ :: t₀ ::
      r₃ :: r₂ :: r₁ :: r₀ :: payload =>
      some {
        marker := flags &&& 0x80 ≠ 0
        payloadType := flags &&& 0x7f
        sequence := UInt16.ofNat (BigEndian.ofBytes [s₁, s₀])
        timestamp := UInt32.ofNat (BigEndian.ofBytes [t₃, t₂, t₁, t₀])
        ssrc := UInt32.ofNat (BigEndian.ofBytes [r₃, r₂, r₁, r₀])
        payload := payload
      }
  | _ => none

/-- The sender information of a sender report. -/
structure SenderReport where
  ssrc : UInt32
  rtpTimestamp : UInt32
  packets : UInt32
  octets : UInt32
  deriving Repr, DecidableEq

/-- Read a sender report without report blocks in front of a compound packet. -/
def SenderReport.decode : Bytes → Option SenderReport
  | 0x80 :: 200 :: 0 :: 6 :: r₃ :: r₂ :: r₁ :: r₀ ::
      _ :: _ :: _ :: _ :: _ :: _ :: _ :: _ :: t₃ :: t₂ :: t₁ :: t₀ ::
      p₃ :: p₂ :: p₁ :: p₀ :: o₃ :: o₂ :: o₁ :: o₀ :: _ =>
      some {
        ssrc := UInt32.ofNat (BigEndian.ofBytes [r₃, r₂, r₁, r₀])
        rtpTimestamp := UInt32.ofNat (BigEndian.ofBytes [t₃, t₂, t₁, t₀])
        packets := UInt32.ofNat (BigEndian.ofBytes [p₃, p₂, p₁, p₀])
        octets := UInt32.ofNat (BigEndian.ofBytes [o₃, o₂, o₁, o₀])
      }
  | _ => none

/-- The flag byte of a marked or unmarked packet. -/
def flagByte (payloadType : UInt8) (marker : Bool) : UInt8 :=
  payloadType ||| (if marker then 0x80 else 0)

/-- A packet laid out with a plain fixed header. -/
def Packet.encode (packet : Packet) : Bytes :=
  [0x80, flagByte packet.payloadType packet.marker] ++
    BigEndian.toBytes 2 packet.sequence.toNat ++
    BigEndian.toBytes 4 packet.timestamp.toNat ++
    BigEndian.toBytes 4 packet.ssrc.toNat ++ packet.payload

/-- The flag byte carries the marker and a seven-bit payload type. -/
theorem flagByte_bits
    {payloadType : UInt8}
    (sevenBits : payloadType &&& 0x80 = 0)
    (marker : Bool) :
    (flagByte payloadType marker &&& 0x80 ≠ 0 ↔ marker = true) ∧
      flagByte payloadType marker &&& 0x7f = payloadType := by
  have everyByte :
      ∀ byte : Fin 256, ∀ marker : Bool,
        let payloadType := UInt8.ofFin byte
        payloadType &&& 0x80 = 0 →
          (flagByte payloadType marker &&& 0x80 ≠ 0 ↔ marker = true) ∧
            flagByte payloadType marker &&& 0x7f = payloadType := by
    decide +kernel
  exact everyByte payloadType.toFin marker sevenBits

/-- A 16-bit number survives its two bytes. -/
theorem ofBytes_toBytes_uint16 (number : UInt16) :
    UInt16.ofNat (BigEndian.ofBytes (BigEndian.toBytes 2 number.toNat)) =
      number := by
  rw [BigEndian.ofBytes_toBytes_of_lt number.toNat_lt]
  exact UInt16.ofNat_toNat

/-- A 32-bit number survives its four bytes. -/
theorem ofBytes_toBytes_uint32 (number : UInt32) :
    UInt32.ofNat (BigEndian.ofBytes (BigEndian.toBytes 4 number.toNat)) =
      number := by
  rw [BigEndian.ofBytes_toBytes_of_lt number.toNat_lt]
  exact UInt32.ofNat_toNat

/-- A receiver reads back what was laid out. -/
theorem Packet.decode_encode
    (packet : Packet)
    (sevenBits : packet.payloadType &&& 0x80 = 0) :
    Packet.decode packet.encode = some packet := by
  obtain ⟨markerBit, typeBits⟩ := flagByte_bits sevenBits packet.marker
  have laidOut :
      Packet.decode packet.encode =
        some {
          marker := flagByte packet.payloadType packet.marker &&& 0x80 ≠ 0
          payloadType :=
            flagByte packet.payloadType packet.marker &&& 0x7f
          sequence :=
            UInt16.ofNat
              (BigEndian.ofBytes
                (BigEndian.toBytes 2 packet.sequence.toNat))
          timestamp :=
            UInt32.ofNat
              (BigEndian.ofBytes
                (BigEndian.toBytes 4 packet.timestamp.toNat))
          ssrc :=
            UInt32.ofNat
              (BigEndian.ofBytes (BigEndian.toBytes 4 packet.ssrc.toNat))
          payload := packet.payload
        } :=
    rfl
  rw [laidOut, ofBytes_toBytes_uint16, ofBytes_toBytes_uint32,
    ofBytes_toBytes_uint32, typeBits]
  simp [markerBit]

/-- A sender report laid out in front of a compound packet. -/
def SenderReport.encode
    (report : SenderReport)
    (ntpSeconds ntpFraction : UInt32)
    (later : Bytes) : Bytes :=
  [0x80, 200, 0, 6] ++
    BigEndian.toBytes 4 report.ssrc.toNat ++
    BigEndian.toBytes 4 ntpSeconds.toNat ++
    BigEndian.toBytes 4 ntpFraction.toNat ++
    BigEndian.toBytes 4 report.rtpTimestamp.toNat ++
    BigEndian.toBytes 4 report.packets.toNat ++
    BigEndian.toBytes 4 report.octets.toNat ++ later

/-- A receiver reads back the sender information. -/
theorem SenderReport.decode_encode
    (report : SenderReport)
    (ntpSeconds ntpFraction : UInt32)
    (later : Bytes) :
    SenderReport.decode (report.encode ntpSeconds ntpFraction later) =
      some report := by
  have laidOut :
      SenderReport.decode (report.encode ntpSeconds ntpFraction later) =
        some {
          ssrc :=
            UInt32.ofNat
              (BigEndian.ofBytes (BigEndian.toBytes 4 report.ssrc.toNat))
          rtpTimestamp :=
            UInt32.ofNat
              (BigEndian.ofBytes
                (BigEndian.toBytes 4 report.rtpTimestamp.toNat))
          packets :=
            UInt32.ofNat
              (BigEndian.ofBytes
                (BigEndian.toBytes 4 report.packets.toNat))
          octets :=
            UInt32.ofNat
              (BigEndian.ofBytes
                (BigEndian.toBytes 4 report.octets.toNat))
        } :=
    rfl
  rw [laidOut, ofBytes_toBytes_uint32, ofBytes_toBytes_uint32,
    ofBytes_toBytes_uint32, ofBytes_toBytes_uint32]

end RtpFormat
