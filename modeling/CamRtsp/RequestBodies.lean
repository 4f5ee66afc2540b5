import CamRtsp.Foundation.LengthPrefix
import CamRtsp.RequestRoundTrip
import CamRtsp.ResponseFraming

namespace CamRtsp

open RustText CrlfLines LengthPrefix

/-!
# Framing and parsing agree on the body

The body of a request is measured by a scan of all lines, the request line
included, that stops at the first match; the request itself keeps the header
lines and refuses duplicates.  Both find the same Content-Length in every
request that is returned.
-/

/-! ## The two scans -/

section Scans

variable {name : String}

theorem headerValue_eq (headers : Text) :
    headerValue headers name =
      (splitLines '\r' '\n' headers).findSome? (lineValue name.toList) :=
  rfl

/-- Empty lines have no name. -/
theorem findSome?_filter_lineValue (lines : List Text) :
    (lines.filter fun line => !line.isEmpty).findSome? (lineValue name.toList) =
      lines.findSome? (lineValue name.toList) := by
  induction lines with
  | nil =>
      rfl
  | cons line lines inductionHypothesis =>
      cases line with
      | nil =>
          exact inductionHypothesis
      | cons first rest =>
          rw [List.filter_cons_of_pos (by simp), List.findSome?_cons,
            List.findSome?_cons, inductionHypothesis]

/-- The header loop keeps the value of the first line with the name. -/
theorem lookup_parseHeaders
    {headers parsed : TextMap}
    {lines : List Text}
    (parses : parseHeaders headers lines = .ok parsed) :
    parsed.lookup (toAsciiLowercase name.toList) =
      (headers.lookup (toAsciiLowercase name.toList)).or
        (lines.findSome? (lineValue name.toList)) := by
  induction lines generalizing headers with
  | nil =>
      cases parses
      rw [List.findSome?_nil, Option.or_none]
  | cons line lines inductionHypothesis =>
      rw [parseHeaders] at parses
      cases split : splitOnce ':' line with
      | none =>
          rw [split] at parses
          cases parses
      | some pair =>
          obtain ⟨key, value⟩ := pair
          rw [split] at parses
          simp only at parses
          split at parses
          · cases parses
          · rename_i fresh
            have valued :
                lineValue name.toList line =
                  if eqIgnoreAsciiCase (trim key) name.toList then
                    some (trim value)
                  else
                    none := by
              rw [lineValue, split]
              rfl
            rw [inductionHypothesis parses, List.findSome?_cons, valued]
            by_cases named :
                toAsciiLowercase name.toList = toAsciiLowercase (trim key)
            · have same :
                  eqIgnoreAsciiCase (trim key) name.toList = true :=
                beq_iff_eq.mpr named.symm
              rw [← named, Option.not_isSome_iff_eq_none] at fresh
              rw [if_pos same, named, AList.lookup_insert, ← named, fresh]
              rfl
            · have differs :
                  ¬ eqIgnoreAsciiCase (trim key) name.toList = true :=
                fun same => named (beq_iff_eq.mp same).symm
              rw [if_neg differs, AList.lookup_insert_ne named]

/-- A request is made of a request line and header lines. -/
theorem exists_lines_of_parseRequest
    {raw : Text}
    {request : Request}
    (parses : parseRequest raw = .ok request) :
    ∃ first later, splitLines '\r' '\n' raw = first :: later ∧
      "RTSP/1.0".toList ∈ splitWhitespace first ∧
      ∀ name : String,
        request.header name = later.findSome? (lineValue name.toList) := by
  simp only [parseRequest] at parses
  split at parses
  · cases parses
  · cases parses
  · rename_i method uri version words
    split at parses
    · rename_i isVersion
      cases lines : splitLines '\r' '\n' raw with
      | nil =>
          rw [lines] at words
          cases words
      | cons first later =>
          rw [lines] at words parses
          rw [List.headD_cons] at words
          rw [List.tail_cons] at parses
          refine ⟨first, later, rfl, by rw [words, isVersion]; simp, ?_⟩
          intro name
          cases headersParse :
              parseHeaders ∅ (later.filter fun line => !line.isEmpty) with
          | error error =>
              rw [headersParse] at parses
              cases parses
          | ok headers =>
              rw [headersParse] at parses
              cases parses
              rw [← findSome?_filter_lineValue]
              exact lookup_parseHeaders headersParse
    · cases parses

end Scans

/-! ## The request line is no header -/

/-- A numeral has no slash. -/
theorem slash_not_mem_numeral
    {text : Text}
    {number : Nat}
    (numeral : IsNumeral text number) :
    '/' ∉ text := by
  obtain ⟨digits, textEq, _, isDigit, _⟩ := numeral
  have noSlash : '/' ∉ digits :=
    fun member => absurd (isDigit '/' member) (by decide)
  rcases textEq with rfl | rfl
  · exact noSlash
  · rw [List.mem_cons, not_or]
    exact ⟨by decide, noSlash⟩

/-- The slash of the version is in what follows the name. -/
theorem slash_mem_lineValue
    {line value : Text}
    (slash : '/' ∈ line)
    (valued : lineValue "content-length".toList line = some value) :
    '/' ∈ value := by
  obtain ⟨⟨key, rest⟩, split, named⟩ := Option.bind_eq_some_iff.mp valued
  obtain ⟨rfl, _⟩ := splitOnce_some split
  simp only at named
  split at named
  · rename_i same
    cases named
    have notInKey : '/' ∉ key := by
      intro member
      have folded : '/' ∈ toAsciiLowercase (trim key) :=
        List.mem_map.mpr ⟨'/', mem_trim member (by decide), by decide⟩
      rw [beq_iff_eq.mp same] at folded
      exact absurd folded (by decide)
    rw [List.mem_append, List.mem_cons] at slash
    rcases slash with inKey | colon | behind
    · exact (notInKey inKey).elim
    · exact absurd colon (by decide)
    · exact mem_trim behind (by decide)
  · cases named

/-- Both scans find the same Content-Length. -/
theorem headerValue_eq_header
    {raw : Text}
    {request : Request}
    {size : Nat}
    (announced : bodyLength raw = some size)
    (parses : parseRequest raw = .ok request) :
    headerValue raw "content-length" = request.header "content-length" := by
  obtain ⟨first, later, lines, version, header⟩ :=
    exists_lines_of_parseRequest parses
  rw [header, headerValue_eq, lines, List.findSome?_cons]
  cases valued : lineValue "content-length".toList first with
  | none =>
      rfl
  | some value =>
      have found : headerValue raw "content-length" = some value := by
        rw [headerValue_eq, lines, List.findSome?_cons, valued]
      rw [bodyLength, found] at announced
      obtain ⟨numeral, _⟩ := fromStrRadix_eq_some_iff.mp announced
      have slash : '/' ∈ first :=
        mem_of_mem_splitWhitespace version (by decide)
      exact (slash_not_mem_numeral numeral
        (slash_mem_lineValue slash valued)).elim

/-! ## What is removed from the buffer -/

/-- A frame is its length field behind two bytes. -/
theorem InterleavedFrame.encode_eq (frame : InterleavedFrame) :
    frame.encode =
      dollar :: frame.channel :: field 2 frame.payload :=
  rfl

/-- What is skipped as a frame is one. -/
theorem exists_frame
    {input : Bytes}
    (framed : input.head? = some dollar)
    (long : ¬ input.length < 4)
    (small : ¬ maxRequestBytes < frameEnd input)
    (complete : ¬ input.length < frameEnd input) :
    ∃ frame : InterleavedFrame,
      input = frame.encode ++ input.drop (frameEnd input) := by
  obtain ⟨afterDollar, rfl⟩ := List.head?_eq_some_iff.mp framed
  cases afterDollar with
  | nil =>
      exact (long (by decide)).elim
  | cons channel behind =>
      have endEq :
          frameEnd (dollar :: channel :: behind) = 4 + announced 2 behind :=
        rfl
      cases taken : takeField 2 behind with
      | none =>
          rw [takeField_eq_none_iff] at taken
          rw [endEq] at complete
          simp only [List.length_cons, List.length_drop] at *
          omega
      | some pair =>
          obtain ⟨payload, later⟩ := pair
          have shape := exists_takeField_iff.mp ⟨later, taken⟩
          obtain ⟨_, rfl⟩ := takeField_eq_some_iff.mp taken
          have fits : payload.length ≤ maxFramePayload := by
            rw [endEq, ← shape.2.1] at small
            simp only [maxFramePayload]
            omega
          have frameLength :
              frameEnd (dollar :: channel :: (field 2 payload ++ later)) =
                (dollar :: channel :: field 2 payload).length := by
            rw [endEq, ← shape.2.1, List.length_cons, List.length_cons,
              length_field]
            omega
          refine ⟨{ channel := channel, payload := payload, fits := fits },
            ?_⟩
          rw [InterleavedFrame.encode_eq, frameLength, ← List.cons_append,
            ← List.cons_append, List.drop_left]

/-- A returned request is text behind complete frames. -/
theorem exists_frames_of_takeRequest
    {input rest : Bytes}
    {request : Request}
    (taken : takeRequest input = .ok (some request, rest)) :
    ∃ (frames : List InterleavedFrame) (text : Bytes),
      input = frames.flatMap InterleavedFrame.encode ++ text ∧
        text.head? ≠ some dollar ∧
        takeText text = .ok (some request, rest) := by
  refine takeRequest_induction
    (motive := fun input =>
      ∃ (frames : List InterleavedFrame) (text : Bytes),
        input = frames.flatMap InterleavedFrame.encode ++ text ∧
          text.head? ≠ some dollar ∧
          takeText text = .ok (some request, rest))
    ?_ ?_ taken
  · intro input text textTaken
    exact ⟨[], input, rfl, text, textTaken⟩
  · intro input framed long small complete behindFrame
    obtain ⟨frame, inputEq⟩ := exists_frame framed long small complete
    obtain ⟨frames, text, behindEq, notFramed, textTaken⟩ := behindFrame
    refine ⟨frame :: frames, text, ?_, notFramed, textTaken⟩
    rw [List.flatMap_cons, List.append_assoc, ← behindEq]
    exact inputEq

/-- The value announces the size; without a value there is nothing. -/
def Announces (value : Option Text) (size : Nat) : Prop :=
  match value with
  | some value => IsNumeral value size
  | none => size = 0

/-- A request and the bytes that were removed for it. -/
structure Removed
    (input rest : Bytes)
    (request : Request)
    (frames : List InterleavedFrame)
    (head body : Bytes) : Prop where
  inputEq :
    input =
      frames.flatMap InterleavedFrame.encode ++ (head ++ (body ++ rest))
  notFramed : head.head? ≠ some dollar
  headEnds : blankLine 13 10 <:+ head
  headFirst :
    ∀ front later, head = front ++ (blankLine 13 10 ++ later) → later = []
  announced : Announces (request.header "content-length") body.length
  scansAgree :
    ∃ text, fromUtf8 head = some text ∧
      parseRequest text = .ok request ∧
      headerValue text "content-length" = request.header "content-length"

/-- The size that is announced is the size of the body. -/
theorem announces_of_bodyLength
    {headers : Text}
    {size : Nat}
    (announced : bodyLength headers = some size) :
    Announces (headerValue headers "content-length") size := by
  unfold bodyLength at announced
  cases found : headerValue headers "content-length" with
  | none =>
      rw [found] at announced
      exact (Option.some.inj announced).symm
  | some value =>
      rw [found] at announced
      exact (fromStrRadix_eq_some_iff.mp announced).1

/-- The head ends with the blank line that was found. -/
theorem headEnds_of_position
    {text : Bytes}
    {stop : Nat}
    (found : position (blankLine 13 10) text = some stop) :
    blankLine 13 10 <:+ text.take (stop + 4) := by
  obtain ⟨later, behind⟩ := (position_some found).1
  have fourBytes : (text.drop stop).take 4 = blankLine 13 10 := by
    rw [← behind]
    rfl
  rw [List.take_add, fourBytes]
  exact List.suffix_append _ _

/-- The head ends with the first blank line of the text. -/
theorem headFirst_of_position
    {text front later : Bytes}
    {stop : Nat}
    (found : position (blankLine 13 10) text = some stop)
    (headEq : text.take (stop + 4) = front ++ (blankLine 13 10 ++ later)) :
    later = [] := by
  have bound : stop + 4 ≤ text.length := (position_some found).2
  have headLength : (text.take (stop + 4)).length = stop + 4 := by
    rw [List.length_take, Nat.min_eq_left bound]
  rw [headEq, List.length_append, List.length_append] at headLength
  have occurrence :
      blankLine 13 10 <+: text.drop front.length := by
    refine List.IsPrefix.trans ?_
      (List.IsPrefix.drop (List.take_prefix (stop + 4) text) front.length)
    rw [headEq, List.drop_left]
    exact List.prefix_append _ _
  have inside : front.length ≤ text.length := by
    simp only [blankLine, List.length_cons, List.length_nil] at *
    omega
  obtain ⟨first, foundFirst, isFirst⟩ :=
    position_le_of_occurrence occurrence inside
  rw [found] at foundFirst
  cases foundFirst
  apply List.eq_nil_of_length_eq_zero
  simp only [blankLine, List.length_cons, List.length_nil] at headLength
  omega

/--
Every returned request was removed with some complete frames, the bytes up to
the first blank line, and as many bytes as its own Content-Length says, which
is also what the scan over all lines has found.
-/
theorem takeRequest_removes_announced
    {input rest : Bytes}
    {request : Request}
    (taken : takeRequest input = .ok (some request, rest)) :
    ∃ frames head body, Removed input rest request frames head body := by
  obtain ⟨frames, text, inputEq, notFramed, textTaken⟩ :=
    exists_frames_of_takeRequest taken
  obtain ⟨headers, stop, size, total, request, found, decoded, announced,
    totalEq, limit, inside, parse⟩ := textRequest_of_takeText textTaken
  have agree := headerValue_eq_header announced parse
  have bodyLength : ((text.drop (stop + 4)).take size).length = size := by
    rw [List.length_take, List.length_drop]
    omega
  have behind : text.drop total = (text.drop (stop + 4)).drop size := by
    rw [totalEq, List.drop_drop]
  refine ⟨frames, text.take (stop + 4), (text.drop (stop + 4)).take size, {
    inputEq := ?_
    notFramed := ?_
    headEnds := headEnds_of_position found
    headFirst := fun front later => headFirst_of_position found
    announced := ?_
    scansAgree := ⟨headers, decoded, parse, agree⟩
  }⟩
  · rw [inputEq, behind, List.take_append_drop, List.take_append_drop]
  · rw [List.head?_take, if_neg (Nat.succ_ne_zero _)]
    exact notFramed
  · rw [bodyLength, ← agree]
    exact announces_of_bodyLength announced

/-- A request with a body that looks like the start of a request. -/
def bodyMessage : RequestMessage where
  method := "SET_PARAMETER".toList
  uri := "/camera".toList
  fields :=
    [{ name := "content-LENGTH".toList
       value := "+4".toList
       nameNonempty := by decide
       nameColonFree := by decide
       nameTrimmed := by decide
       valueTrimmed := by decide
       nameCrlfFree := crlfFree_of_not_mem (by decide)
       valueCrlfFree := crlfFree_of_not_mem (by decide) }]
  body := toUtf8 "PLAY".toList
  methodNonempty := by decide
  methodLetters := List.all_iff_forall_prop.mp rfl
  uriSolid := (by decide : IsWord "/camera".toList).solid
  uriForm := by decide
  keysDistinct := by decide
  bodyAnnounced := by
    change fromStrRadix 10 usizeBound "+4".toList = some 4
    decide
  fits := by decide

/-- Its body belongs to it, not to what is read next. -/
theorem takeRequest_removes_announced_body :
    ∃ frames head body,
      Removed (bodyMessage.encode ++ []) [] bodyMessage.request frames head
        body :=
  takeRequest_removes_announced (bodyMessage.takeRequest_encode [])

end CamRtsp
