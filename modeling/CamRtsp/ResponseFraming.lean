import CamRtsp.ClientReader
import CamRtsp.Handle

namespace CamRtsp

open RustText CrlfLines

/-!
# Responses as a client reads them

A response is a header block and a body.  Its own header lines contain no
carriage return and are not mistaken for Content-Length, and the CSeq it
echoes ends no line, so a client reads exactly the response.
-/

/-! ## Header values -/

/-- The value a header line contributes under the given name. -/
def lineValue (name : Text) (line : Text) : Option Text :=
  (splitOnce ':' line).bind fun (key, value) =>
    if eqIgnoreAsciiCase (trim key) name then
      some (trim value)
    else
      none

/-- In a header block the first line with the name decides. -/
theorem headerValue_headerBlock
    {lines : List Text}
    (free : ∀ line ∈ lines, CrlfFree '\r' '\n' line)
    (name : String) :
    headerValue (headerBlock '\r' '\n' lines) name =
      lines.findSome? (lineValue name.toList) := by
  have noName : [([] : Text), []].findSome? (lineValue name.toList) = none :=
    rfl
  rw [headerValue, splitLines_headerBlock free (by decide)]
  change (lines ++ [[], []]).findSome? (lineValue name.toList) = _
  rw [List.findSome?_append, noName, Option.or_none]

/-- A line that starts with a name and a colon has that name. -/
theorem lineValue_of_front
    {front key blank rest name : Text}
    (split : splitOnce ':' front = some (key, blank)) :
    lineValue name (front ++ rest) =
      if eqIgnoreAsciiCase (trim key) name then
        some (trim (blank ++ rest))
      else
        none := by
  obtain ⟨shape, colonFree⟩ := splitOnce_some split
  have wholeSplit :
      splitOnce ':' (front ++ rest) = some (key, blank ++ rest) := by
    rw [shape, List.append_assoc, List.cons_append]
    exact splitOnce_append colonFree
  rw [lineValue, wholeSplit]
  rfl

/-- A line of the server's own that no client misreads. -/
structure HeaderLine (line : Text) : Prop where
  clean : '\r' ∉ line
  named : ':' ∈ line
  other : lineValue "content-length".toList line = none

/-- The text starts with a field name other than Content-Length. -/
def namesOther (front : Text) : Bool :=
  (splitOnce ':' front).any fun (key, _) =>
    !eqIgnoreAsciiCase (trim key) "content-length".toList

/-- A clean text behind a name other than Content-Length. -/
theorem headerLine_append
    (front : Text)
    {rest : Text}
    (names : namesOther front = true)
    (frontClean : '\r' ∉ front)
    (restClean : '\r' ∉ rest) :
    HeaderLine (front ++ rest) := by
  cases split : splitOnce ':' front with
  | none =>
      simp [namesOther, split] at names
  | some pair =>
      obtain ⟨key, blank⟩ := pair
      simp only [namesOther, split, Option.any_some,
        Bool.not_eq_true'] at names
      obtain ⟨shape, _⟩ := splitOnce_some split
      refine { clean := ?_, named := ?_, other := ?_ }
      · rw [List.mem_append, not_or]
        exact ⟨frontClean, restClean⟩
      · simp [shape]
      · rw [lineValue_of_front split, names]
        rfl

/-- A fixed clean line with a name other than Content-Length. -/
theorem headerLine_of_names
    {line : Text}
    (names : namesOther line = true)
    (clean : '\r' ∉ line) :
    HeaderLine line := by
  rw [← List.append_nil line]
  exact headerLine_append line names clean List.not_mem_nil

namespace Response

/-! ## The header block of a response -/

/-- The status line. -/
def statusLine (response : Response) : Text :=
  "RTSP/1.0 ".toList ++ response.status.phrase.toList

/-- The CSeq line. -/
def cseqLine (response : Response) : Text :=
  "CSeq: ".toList ++ response.cseq

/-- The Content-Length line. -/
def lengthLine (response : Response) : Text :=
  "Content-Length: ".toList ++ decimal (toUtf8 response.body).length

/-- The lines of the header block. -/
def lines (response : Response) : List Text :=
  response.statusLine :: response.cseqLine ::
    (response.headers ++ [response.lengthLine])

/-- The header block. -/
def head (response : Response) : Text :=
  headerBlock '\r' '\n' response.lines

/-- The text of `respond` as a header block, for any of its pieces. -/
theorem headerBlock_eq
    (version phrase cseqName cseq lengthName length body : Text)
    (headers : List Text) :
    version ++ phrase ++ ['\r', '\n'] ++ cseqName ++ cseq ++
        ['\r', '\n'] ++ headers.flatMap (· ++ ['\r', '\n']) ++
        lengthName ++ length ++ ['\r', '\n'] ++ ['\r', '\n'] ++ body =
      headerBlock '\r' '\n'
          ((version ++ phrase) :: (cseqName ++ cseq) ::
            (headers ++ [lengthName ++ length])) ++ body := by
  simp [headerBlock, joinLines]

/-- A response is its header block and its body. -/
theorem encode_eq (response : Response) :
    response.encode = toUtf8 response.head ++ toUtf8 response.body := by
  rw [← toUtf8_append]
  exact congrArg toUtf8 (headerBlock_eq _ _ _ _ _ _ _ _)

/-- Nothing in the response can be mistaken for its structure. -/
structure Clean (response : Response) : Prop where
  cseqFree : CrlfFree '\r' '\n' response.cseq
  cseqTrimmed : Trimmed response.cseq
  headerLines : ∀ line ∈ response.headers, HeaderLine line

variable {response : Response}

/-- The status line is no header line. -/
theorem statusLine_plain (response : Response) :
    '\r' ∉ response.statusLine ∧ ':' ∉ response.statusLine := by
  unfold statusLine
  cases response.status with
  | _ =>
      decide

theorem lines_free
    (clean : response.Clean) :
    ∀ line ∈ response.lines, CrlfFree '\r' '\n' line := by
  intro line member
  simp only [lines, List.mem_cons, List.mem_append, List.not_mem_nil,
    or_false] at member
  rcases member with isStatus | isCseq | isHeader | isLength
  · rw [isStatus]
    exact crlfFree_of_not_mem (statusLine_plain response).1
  · rw [isCseq]
    exact .append_of_not_mem (by decide) clean.cseqFree
  · exact crlfFree_of_not_mem (clean.headerLines line isHeader).clean
  · rw [isLength]
    apply crlfFree_of_not_mem
    change '\r' ∉ "Content-Length: ".toList ++ decimal _
    rw [List.mem_append, not_or]
    refine ⟨by decide, fun inDigits => ?_⟩
    exact absurd (isDigit_of_mem_decimal inDigits) (by decide)

theorem lines_ne_nil
    (clean : response.Clean) :
    ∀ line ∈ response.lines, line ≠ [] := by
  intro line member
  simp only [lines, List.mem_cons, List.mem_append, List.not_mem_nil,
    or_false] at member
  rcases member with isStatus | isCseq | isHeader | isLength
  · rw [isStatus]
    exact List.cons_ne_nil _ _
  · rw [isCseq]
    exact List.cons_ne_nil _ _
  · exact List.ne_nil_of_mem (clean.headerLines line isHeader).named
  · rw [isLength]
    exact List.cons_ne_nil _ _

theorem lineValue_statusLine (response : Response) (name : Text) :
    lineValue name response.statusLine = none := by
  rw [lineValue, splitOnce_eq_none (statusLine_plain response).2]
  rfl

theorem lineValue_cseqLine
    (clean : response.Clean)
    (name : Text) :
    lineValue name response.cseqLine =
      if eqIgnoreAsciiCase "CSeq".toList name then
        some response.cseq
      else
        none := by
  have split :
      splitOnce ':' "CSeq: ".toList = some ("CSeq".toList, [' ']) := by
    decide
  have key : trim "CSeq".toList = "CSeq".toList := by
    decide
  have value : trim ([' '] ++ response.cseq) = response.cseq := by
    rw [trim_append_of_whitespace (List.all_eq_true.mp rfl),
      clean.cseqTrimmed.trim_eq]
  change lineValue name ("CSeq: ".toList ++ response.cseq) = _
  rw [lineValue_of_front split, key, value]

/-- A client finds the CSeq of the response. -/
theorem headerValue_cseq
    (clean : response.Clean) :
    headerValue response.head "cseq" = some response.cseq := by
  have named :
      eqIgnoreAsciiCase "CSeq".toList "cseq".toList = true := by
    decide
  rw [head, headerValue_headerBlock (lines_free clean), lines,
    List.findSome?_cons, lineValue_statusLine]
  simp only
  rw [List.findSome?_cons, lineValue_cseqLine clean, named]
  rfl

/-- A client finds the length of the body. -/
theorem headerValue_contentLength
    (clean : response.Clean) :
    headerValue response.head "content-length" =
      some (decimal (toUtf8 response.body).length) := by
  have notCseq :
      eqIgnoreAsciiCase "CSeq".toList "content-length".toList =
        false := by
    decide
  have others :
      response.headers.findSome? (lineValue "content-length".toList) =
        none :=
    List.findSome?_eq_none_iff.mpr fun line member =>
      (clean.headerLines line member).other
  have split :
      splitOnce ':' "Content-Length: ".toList =
        some ("Content-Length".toList, [' ']) := by
    decide
  have named :
      eqIgnoreAsciiCase (trim "Content-Length".toList)
        "content-length".toList = true := by
    decide
  have value :
      trim ([' '] ++ decimal (toUtf8 response.body).length) =
        decimal (toUtf8 response.body).length := by
    rw [trim_append_of_whitespace (List.all_eq_true.mp rfl),
      (trimmed_decimal _).trim_eq]
  rw [head, headerValue_headerBlock (lines_free clean), lines,
    List.findSome?_cons, lineValue_statusLine]
  simp only
  rw [List.findSome?_cons, lineValue_cseqLine clean, notCseq]
  simp only [Bool.false_eq_true, ↓reduceIte]
  rw [List.findSome?_append, others, Option.none_or,
    List.findSome?_singleton]
  change lineValue "content-length".toList
    ("Content-Length: ".toList ++ decimal _) = _
  rw [lineValue_of_front split, named, value]
  rfl

theorem announcedLength_head
    (clean : response.Clean) :
    announcedLength response.head =
      some (toUtf8 response.body).length := by
  rw [announcedLength, headerValue_contentLength clean]
  exact digitsValue_decimal _

/-- A response does not start like a frame. -/
theorem head?_encode (response : Response) (later : Bytes) :
    (response.encode ++ later).head? ≠ some dollar := by
  obtain ⟨tail, shape⟩ :
      ∃ tail, response.encode = 82 :: tail := by
    rw [encode_eq]
    exact ⟨_, rfl⟩
  rw [shape]
  simp [dollar]

/-- A response at the front of the buffer is read exactly. -/
theorem takeMessage_encode
    (clean : response.Clean)
    (later : Bytes) :
    takeMessage (response.encode ++ later) =
      .ok (some (.response response.head (toUtf8 response.body)), later) := by
  obtain ⟨stop, found, headEnd⟩ :=
    position_toUtf8_headerBlock (List.cons_ne_nil _ _) (lines_free clean)
      (lines_ne_nil clean) (toUtf8 response.body ++ later)
  change position (blankLine 13 10) (toUtf8 response.head ++ _) = _
    at found
  change stop + 4 = (toUtf8 response.head).length at headEnd
  have buffer :
      response.encode ++ later =
        toUtf8 response.head ++ (toUtf8 response.body ++ later) := by
    rw [encode_eq, List.append_assoc]
  have complete :
      ¬ (toUtf8 response.head ++
          (toUtf8 response.body ++ later)).length <
        (toUtf8 response.head).length + (toUtf8 response.body).length := by
    simp only [List.length_append]
    omega
  rw [takeMessage, if_neg (response.head?_encode later), buffer,
    takeResponse_of_position found, headEnd, takeBody, List.take_left,
    fromUtf8_toUtf8]
  simp only
  rw [announcedLength_head clean]
  simp only
  rw [if_neg complete, List.drop_left, List.take_left, List.drop_append,
    List.drop_of_length_le (by omega)]
  simp

end Response

end CamRtsp
