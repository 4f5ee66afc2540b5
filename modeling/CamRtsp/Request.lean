import CamRtsp.Core
import CamRtsp.Foundation.BigEndian
import CamRtsp.Foundation.CrlfLines
import CamRtsp.Foundation.IncrementalFraming

namespace CamRtsp

open RustText CrlfLines

/-!
# RTSP requests and their framing

`takeRequest` is called on everything read from the socket so far.  It skips
complete interleaved frames, waits for a complete header block and body, and
otherwise answers with a request or an error.
-/

/-- `MAX_REQUEST_BYTES`. -/
def maxRequestBytes : Nat := 65536

/-- Number of values of `usize` on a 64-bit target. -/
def usizeBound : Nat := 2 ^ 64

/-- `usize::checked_add`. -/
def checkedAdd (first second : Nat) : Option Nat :=
  if first + second < usizeBound then some (first + second) else none

/-- The byte `$` that starts an interleaved frame. -/
def dollar : UInt8 := 0x24

/-- A parsed request.  Header names are stored in lower case. -/
structure Request where
  method : Text
  uri : Text
  headers : TextMap

namespace Request

/-- `Request::header`. -/
def header (request : Request) (name : String) : Option Text :=
  request.headers.lookup (toAsciiLowercase name.toList)

/-- `Request::cseq`. -/
def cseq (request : Request) : Text :=
  (request.header "cseq").getD "1".toList

end Request

/-- The header loop of `parse_request`. -/
def parseHeaders :
    TextMap → List Text → Except IoError TextMap
  | headers, [] => .ok headers
  | headers, line :: lines =>
      match splitOnce ':' line with
      | none => .error (invalidData "malformed RTSP header")
      | some (key, value) =>
          let name := toAsciiLowercase (trim key)
          if (headers.lookup name).isSome then
            .error (invalidData "duplicate RTSP header")
          else
            parseHeaders (headers.insert name (trim value)) lines

/-- `parse_request`. -/
def parseRequest (raw : Text) : Except IoError Request :=
  let lines := splitLines '\r' '\n' raw
  match splitWhitespace (lines.headD []) with
  | [] => .error (invalidData "missing RTSP method")
  | [_] => .error (invalidData "missing RTSP URI")
  | method :: uri :: version =>
      if version = ["RTSP/1.0".toList] then
        (parseHeaders ∅
            (lines.tail.filter fun line => !line.isEmpty)).map
          fun headers =>
            { method := toAsciiUppercase method
              uri := uri
              headers := headers }
      else
        .error (invalidData "unsupported RTSP version")

/-- `header_value`. -/
def headerValue (headers : Text) (name : String) : Option Text :=
  (splitLines '\r' '\n' headers).findSome? fun line =>
    (splitOnce ':' line).bind fun (key, value) =>
      if eqIgnoreAsciiCase (trim key) name.toList then
        some (trim value)
      else
        none

/-- The announced body length; `none` when the announcement is unreadable. -/
def bodyLength (headers : Text) : Option Nat :=
  match headerValue headers "content-length" with
  | some value => fromStrRadix 10 usizeBound value
  | none => some 0

/-- The size of the whole request, when it is within the limit. -/
def requestTotal (headerEnd bodyLength : Nat) : Option Nat :=
  (checkedAdd headerEnd bodyLength).filter (· ≤ maxRequestBytes)

/-- The part of `take_request` behind a complete header block. -/
def takeHeaders (input : Bytes) (headerEnd : Nat) :
    Except IoError (Option Request × Bytes) :=
  match fromUtf8 (input.take headerEnd) with
  | none => .error (invalidData "invalid RTSP headers")
  | some headers =>
      match bodyLength headers with
      | none => .error (invalidData "invalid content length")
      | some bodyLength =>
          match requestTotal headerEnd bodyLength with
          | none => .error (invalidData "RTSP request too large")
          | some total =>
              if input.length < total then
                .ok (none, input)
              else
                (parseRequest headers).map fun request =>
                  (some request, input.drop total)

/-- The part of `take_request` behind the interleaved frames. -/
def takeText (input : Bytes) :
    Except IoError (Option Request × Bytes) :=
  match position (blankLine 13 10) input with
  | none =>
      if maxRequestBytes ≤ input.length then
        .error (invalidData "RTSP headers too large")
      else
        .ok (none, input)
  | some stop => takeHeaders input (stop + 4)

/-- Where the interleaved frame at the front of the buffer ends. -/
def frameEnd (input : Bytes) : Nat :=
  4 + BigEndian.ofBytes ((input.drop 2).take 2)

/-- `take_request`: the answer and what is left of the buffer. -/
def takeRequest (input : Bytes) :
    Except IoError (Option Request × Bytes) :=
  if input.head? = some dollar then
    if _short : input.length < 4 then
      .ok (none, input)
    else if maxRequestBytes < frameEnd input then
      .error (invalidData "interleaved frame too large")
    else if input.length < frameEnd input then
      .ok (none, input)
    else
      takeRequest (input.drop (frameEnd input))
  else
    takeText input
termination_by input.length
decreasing_by
  simp only [List.length_drop, frameEnd]
  omega

/-- The size of the buffer `read_control` reads into. -/
def readChunk : Nat := 4096

/-- What one non-blocking read of the control socket gives. -/
inductive ReadOutcome where
  | received (bytes : Bytes) (fits : bytes.length ≤ readChunk)
  | failed (error : IoError)
  deriving Repr, DecidableEq

/-- `read_control`: at most one read, and at most one request. -/
def readControl (read : ReadOutcome) (input : Bytes) :
    Except IoError (Option Request × Bytes) :=
  match takeRequest input with
  | .error error => .error error
  | .ok (some request, rest) => .ok (some request, rest)
  | .ok (none, rest) =>
      match read with
      | .received [] _ =>
          .error
            { kind := .unexpectedEof
              message := "RTSP client disconnected".toList }
      | .received bytes _ => takeRequest (rest ++ bytes)
      | .failed error =>
          if error.kind = .wouldBlock ∨ error.kind = .timedOut ∨
              error.kind = .interrupted then
            .ok (none, rest)
          else
            .error error

end CamRtsp
