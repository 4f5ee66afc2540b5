import CamRtsp.Foundation.RustText

namespace CamRtsp

open RustText

/-!
# Shared data of the camera and the server

Access units and codec configuration come from `camrtsp-core`.  Operating
system errors keep their kind and message, because the server reports both.
-/

/-- The parameter sets advertised for the stream. -/
structure CodecConfig where
  sps : Bytes
  pps : Bytes
  profileLevelId : UInt8 × UInt8 × UInt8
  deriving Repr, DecidableEq

/-- One encoded picture. -/
structure EncodedAccessUnit where
  nalUnits : List Bytes
  pts90khz : UInt32
  duration90khz : UInt32
  keyframe : Bool
  deriving Repr, DecidableEq

/-- `nal_unit_type` of a NAL unit, when it has a header byte. -/
def nalType (nal : Bytes) : Option UInt8 :=
  nal.head?.map (· &&& 0x1f)

/-- The kinds of `std::io::Error` the server creates or inspects. -/
inductive ErrorKind where
  | invalidData
  | invalidInput
  | unexpectedEof
  | timedOut
  | wouldBlock
  | interrupted
  | connectionReset
  | brokenPipe
  | addrNotAvailable
  | other
  deriving Repr, DecidableEq

/-- `std::io::Error`. -/
structure IoError where
  kind : ErrorKind
  message : Text
  deriving Repr, DecidableEq

/-- An `InvalidData` error with the given message. -/
def invalidData (message : String) : IoError where
  kind := .invalidData
  message := message.toList

/-- `std::time::Instant`, in nanoseconds since some fixed moment. -/
abbrev Instant := Nat

/-- `Instant::elapsed` as read at the moment `now`. -/
def elapsed (since now : Instant) : Nat :=
  now - since

/-- A duration in nanoseconds. -/
def seconds (count : Nat) : Nat :=
  count * 1000000000

/-- A duration in nanoseconds. -/
def milliseconds (count : Nat) : Nat :=
  count * 1000000

end CamRtsp
