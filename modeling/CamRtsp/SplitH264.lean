import CamRtsp.Core
import CamRtsp.Foundation.AnnexB

namespace CamRtsp

open RustText AnnexB

/-!
# Splitting encoder output into NAL units

Each platform hands over an access unit in a container of its own.  The
Android and the Windows capture code both tell Annex B, length-prefixed and,
on Android, raw payloads apart by looking at the bytes; the macOS code knows
that its encoder prefixes lengths.

The loops index into one buffer.  Here they walk down the buffer instead: the
argument is always `payload[offset..]`.
-/

namespace Android

/-- Push `payload[start..end]` without its trailing zeros, if anything is left. -/
def closeUnit (unit : Bytes) : List Bytes :=
  let trimmed := unit.rdropWhile (· == 0)
  if trimmed = [] then [] else [trimmed]

/--
The Annex B loop.  `start?` holds `payload[start..index]` once a start code
has been seen.
-/
def annexBUnits (start? : Option Bytes) (bytes : Bytes) : List Bytes :=
  match bytes with
  | [] => start?.elim [] closeUnit
  | byte :: rest =>
      if codeLength (byte :: rest) = 0 then
        annexBUnits (start?.map (· ++ [byte])) rest
      else
        start?.elim [] closeUnit ++
          annexBUnits (some [])
            ((byte :: rest).drop (codeLength (byte :: rest)))
termination_by bytes.length
decreasing_by
  all_goals simp_wf
  omega

/-- The length-prefixed loop; `none` is the early `return Vec::new()`. -/
def avccUnits (bytes : Bytes) : Option (List Bytes) :=
  if bytes = [] then
    some []
  else if _short : bytes.length < 4 then
    none
  else
    let length := BigEndian.ofBytes (bytes.take 4)
    let rest := bytes.drop 4
    if rest.length < length ∨ rest.take length = [] then
      none
    else
      (avccUnits (rest.drop length)).map (rest.take length :: ·)
termination_by bytes.length
decreasing_by
  simp only [List.length_drop]
  omega

/-- The first byte could be the header of a raw NAL unit. -/
def startsRawNal (payload : Bytes) : Prop :=
  ∃ byte ∈ payload.head?,
    byte &&& 0x80 = 0 ∧ 1 ≤ byte &&& 0x1f ∧ byte &&& 0x1f ≤ 23

instance (payload : Bytes) : Decidable (startsRawNal payload) :=
  inferInstanceAs (Decidable (∃ byte ∈ payload.head?, _))

/-- The Android `split_h264`. -/
def splitH264 (payload : Bytes) : List Bytes :=
  if StartsCode payload then
    annexBUnits none payload
  else if startsRawNal payload then
    [payload]
  else
    (avccUnits payload).getD []

end Android

namespace Windows

/-- The positions at which a start code begins. -/
def starts (bytes : Bytes) : List Nat :=
  (List.range bytes.length).filter
    fun index => StartsCode (bytes.drop index)

/-- The bytes behind each start code up to the next one. -/
def unitsBetween (bytes : Bytes) : List Nat → List Bytes
  | [] => []
  | start :: later =>
      let codeSize :=
        if [0, 0, 0, 1] <+: bytes.drop start then 4 else 3
      let stop := later.headD bytes.length
      if start + codeSize < stop then
        (bytes.take stop).drop (start + codeSize) ::
          unitsBetween bytes later
      else
        unitsBetween bytes later

/-- The length-prefixed loop; `none` is the early `return Vec::new()`. -/
def lengthPrefixedUnits (bytes : Bytes) : Option (List Bytes) :=
  if _short : bytes.length < 4 then
    some []
  else
    let length := BigEndian.ofBytes (bytes.take 4)
    let rest := bytes.drop 4
    if rest.length < length then
      none
    else
      (lengthPrefixedUnits (rest.drop length)).map
        (rest.take length :: ·)
termination_by bytes.length
decreasing_by
  simp only [List.length_drop]
  omega

/-- The Windows `split_h264`. -/
def splitH264 (bytes : Bytes) : List Bytes :=
  if starts bytes ≠ [] then
    unitsBetween bytes (starts bytes)
  else
    (lengthPrefixedUnits bytes).getD []

end Windows

namespace MacOs

/-- The macOS `split_avcc`: a truncated unit ends the loop. -/
def splitAvcc (data : Bytes) : List Bytes :=
  if _short : data.length < 4 then
    []
  else
    let length := BigEndian.ofBytes (data.take 4)
    let rest := data.drop 4
    if rest.length < length then
      []
    else
      rest.take length :: splitAvcc (rest.drop length)
termination_by data.length
decreasing_by
  simp only [List.length_drop]
  omega

end MacOs

end CamRtsp
