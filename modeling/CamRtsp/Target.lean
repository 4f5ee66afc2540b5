import CamRtsp.Core

namespace CamRtsp

open RustText

/-!
# Stream paths and request targets
-/

/-- `u8::is_ascii_graphic`. -/
def isAsciiGraphic (byte : UInt8) : Bool :=
  0x21 ≤ byte && byte ≤ 0x7e

/-- `valid_path`. -/
def validPath (path : Text) : Bool :=
  path.head? == some '/' && !path.contains '?' && !path.contains '#' &&
    (toUtf8 path).all isAsciiGraphic && decide (¬ "//".toList <:+: path)

/-- `request_path`. -/
def requestPath (uri : Text) : Option Text :=
  let path? :=
    match stripPrefix "rtsp://".toList uri with
    | some rest =>
        if '/' ∈ rest then some (rest.dropWhile (· != '/')) else none
    | none => if uri.head? = some '/' then some uri else none
  path?.map fun path => path.takeWhile (· != '?')

end CamRtsp
