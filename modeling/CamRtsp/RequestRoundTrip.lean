import CamRtsp.RequestFraming

namespace CamRtsp

open RustText CrlfLines IncrementalFraming

/-!
# Round trip of the client's byte stream

A client sends interleaved frames and RTSP requests.  `WireMessage` is what it
may send, `WireMessage.encode` the bytes it sends, and the result is that
draining any concatenation of encodings yields the requests and nothing else,
whatever bytes the frames and bodies carry.
-/

/-! ## Trimming around inner characters -/

/-- A character between two visible characters survives trimming. -/
theorem mem_trim_of_between
    {before after : Text}
    {c : Char}
    (visibleBefore : ∃ v ∈ before, isWhitespace v = false)
    (visibleAfter : ∃ v ∈ after, isWhitespace v = false) :
    c ∈ trim (before ++ c :: after) := by
  obtain ⟨first, firstMember, firstVisible⟩ := visibleBefore
  obtain ⟨last, lastMember, lastVisible⟩ := visibleAfter
  have frontKept :
      ((before ++ c :: after).dropWhile isWhitespace) =
        before.dropWhile isWhitespace ++ c :: after := by
    rw [List.dropWhile_append]
    have keeps :
        (before.dropWhile isWhitespace).isEmpty = false := by
      rw [List.isEmpty_eq_false_iff]
      intro dropped
      rw [List.dropWhile_eq_nil_iff] at dropped
      have isBlank := dropped first firstMember
      rw [firstVisible] at isBlank
      cases isBlank
    rw [keeps]
    rfl
  have backKept :
      (before.dropWhile isWhitespace ++ c :: after).rdropWhile
          isWhitespace =
        before.dropWhile isWhitespace ++ c ::
          after.rdropWhile isWhitespace := by
    simp only [List.rdropWhile, List.reverse_append,
      List.reverse_cons, List.append_assoc, List.dropWhile_append]
    have keeps :
        (after.reverse.dropWhile isWhitespace).isEmpty = false := by
      rw [List.isEmpty_eq_false_iff]
      intro dropped
      rw [List.dropWhile_eq_nil_iff] at dropped
      have isBlank := dropped last (by simpa using lastMember)
      rw [lastVisible] at isBlank
      cases isBlank
    rw [keeps]
    simp
  rw [trim, frontKept, backKept]
  simp

/-- A prefix without the separator lies inside the part before it. -/
theorem prefix_of_prefix_append_cons
    {start key value : Text}
    {separator : Char}
    (starts : start <+: key ++ separator :: value)
    (absent : separator ∉ start) :
    start <+: key := by
  by_cases short : start.length ≤ key.length
  · exact List.prefix_of_prefix_length_le starts
      (List.prefix_append _ _) short
  · have separated : key ++ [separator] <+: key ++ separator :: value :=
      ⟨value, by simp⟩
    have longer : key ++ [separator] <+: start :=
      List.prefix_of_prefix_length_le separated starts (by
        simp only [List.length_append, List.length_singleton]
        omega)
    exact (absent (longer.subset (by simp))).elim

/-! ## Messages on the wire -/

/-- A header field, with the invariants that make its line parse back. -/
structure HeaderField where
  name : Text
  value : Text
  nameNonempty : name ≠ []
  nameColonFree : ':' ∉ name
  nameTrimmed : Trimmed name
  valueTrimmed : Trimmed value
  nameCrlfFree : CrlfFree '\r' '\n' name
  valueCrlfFree : CrlfFree '\r' '\n' value

namespace HeaderField

/-- The field name as `parse_request` stores it. -/
def key (field : HeaderField) : Text :=
  toAsciiLowercase field.name

/-- The header line of a field. -/
def line (field : HeaderField) : Text :=
  field.name ++ ':' :: ' ' :: field.value

/-- The value of the field with the given name, ignoring ASCII case. -/
def find? (fields : List HeaderField) (name : Text) : Option Text :=
  (fields.find? fun field => eqIgnoreAsciiCase field.name name).map
    HeaderField.value

end HeaderField

/-- The longest payload of an interleaved frame that is accepted. -/
def maxFramePayload : Nat := maxRequestBytes - 4

/-- An interleaved frame that a client may send. -/
structure InterleavedFrame where
  channel : UInt8
  payload : Bytes
  fits : payload.length ≤ maxFramePayload

/-- The bytes of an interleaved frame. -/
def InterleavedFrame.encode (frame : InterleavedFrame) : Bytes :=
  dollar :: frame.channel ::
    (BigEndian.toBytes 2 frame.payload.length ++ frame.payload)

/-- The request line of a request. -/
def requestLine (method uri : Text) : Text :=
  method ++ ' ' :: (uri ++ ' ' :: "RTSP/1.0".toList)

/-- The header lines of a request. -/
def requestLines
    (method uri : Text)
    (fields : List HeaderField) : List Text :=
  requestLine method uri :: fields.map HeaderField.line

/-- A request that a client may send. -/
structure RequestMessage where
  method : Text
  uri : Text
  fields : List HeaderField
  body : Bytes
  methodNonempty : method ≠ []
  methodLetters : ∀ c ∈ method, c.isAlpha = true ∨ c = '_'
  uriSolid : ∀ c ∈ uri, isWhitespace c = false
  uriForm :
    uri = ['*'] ∨ ['/'] <+: uri ∨ "rtsp://".toList <+: uri
  keysDistinct : (fields.map HeaderField.key).Nodup
  bodyAnnounced :
    match HeaderField.find? fields "content-length".toList with
    | some value => fromStrRadix 10 usizeBound value = some body.length
    | none => body = []
  fits :
    (toUtf8 (headerBlock '\r' '\n'
        (requestLines method uri fields))).length + body.length ≤
      maxRequestBytes

namespace RequestMessage

/-- The header lines of the message. -/
def lines (message : RequestMessage) : List Text :=
  requestLines message.method message.uri message.fields

/-- The header block of the message. -/
def head (message : RequestMessage) : Text :=
  headerBlock '\r' '\n' message.lines

/-- The bytes of the message. -/
def encode (message : RequestMessage) : Bytes :=
  toUtf8 message.head ++ message.body

/-- The request the server is meant to read. -/
def request (message : RequestMessage) : Request where
  method := toAsciiUppercase message.method
  uri := message.uri
  headers :=
    message.fields.foldl
      (fun headers field => headers.insert field.key field.value) ∅

end RequestMessage

/-- One message of the client's byte stream. -/
inductive WireMessage where
  | frame (frame : InterleavedFrame)
  | request (message : RequestMessage)

namespace WireMessage

/-- The bytes of a message. -/
def encode : WireMessage → Bytes
  | .frame interleaved => interleaved.encode
  | .request message => message.encode

/-- The request carried by a message, if it is one. -/
def request? : WireMessage → Option RequestMessage
  | .frame _ => none
  | .request message => some message

end WireMessage

/-! ## Header lines -/

namespace HeaderField

variable (field : HeaderField)

theorem line_ne_nil : field.line ≠ [] := by
  simp [line]

/-- A header line contains no terminator. -/
theorem line_crlfFree : CrlfFree '\r' '\n' field.line := by
  apply field.nameCrlfFree.append
  · apply crlfFree_cons
    · exact crlfFree_cons field.valueCrlfFree
        (fun isCr => absurd isCr (by decide))
    · exact fun isCr => absurd isCr (by decide)
  · simp

/-- A header line splits at the colon behind the name. -/
theorem splitOnce_line :
    splitOnce ':' field.line =
      some (field.name, ' ' :: field.value) :=
  splitOnce_append field.nameColonFree

/-- The blank behind the colon is not part of the value. -/
theorem trim_value : trim (' ' :: field.value) = field.value := by
  have blank : ∀ c ∈ [' '], isWhitespace c = true :=
    List.all_eq_true.mp rfl
  have trimmed :
      trim ([' '] ++ field.value) = trim field.value :=
    trim_append_of_whitespace blank
  simpa [field.valueTrimmed.trim_eq] using trimmed

/-- Fields whose names fold to the same key are the fields of that name. -/
theorem eqIgnoreAsciiCase_iff (name : Text) :
    eqIgnoreAsciiCase field.name name = true ↔
      field.key = toAsciiLowercase name := by
  simp [eqIgnoreAsciiCase, key]

/-- Looking a name up in the map the fields build finds their value. -/
theorem lookup_foldl_insert
    {fields : List HeaderField}
    (distinct : (fields.map HeaderField.key).Nodup)
    (headers : TextMap)
    (name : Text) :
    (fields.foldl
        (fun headers field => headers.insert field.key field.value)
        headers).lookup (toAsciiLowercase name) =
      (find? fields name).or
        (headers.lookup (toAsciiLowercase name)) := by
  induction fields generalizing headers with
  | nil =>
      simp [find?]
  | cons field fields inductionHypothesis =>
      simp only [List.map_cons, List.nodup_cons] at distinct
      rw [List.foldl_cons, inductionHypothesis distinct.2]
      by_cases named : field.key = toAsciiLowercase name
      · have found : eqIgnoreAsciiCase field.name name = true :=
          (field.eqIgnoreAsciiCase_iff name).mpr named
        have absent : find? fields name = none := by
          simp only [find?, Option.map_eq_none_iff,
            List.find?_eq_none]
          intro other member otherNamed
          have otherKey :=
            (other.eqIgnoreAsciiCase_iff name).mp otherNamed
          apply distinct.1
          rw [named, ← otherKey]
          exact List.mem_map_of_mem member
        rw [absent, ← named, AList.lookup_insert]
        simp [find?, found]
      · have notFound : eqIgnoreAsciiCase field.name name = false := by
          rw [Bool.eq_false_iff]
          exact fun found =>
            named ((field.eqIgnoreAsciiCase_iff name).mp found)
        rw [AList.lookup_insert_ne (Ne.symm named)]
        simp [find?, notFound]

/-- The header loop accepts lines of fields with new, distinct names. -/
theorem parseHeaders_lines
    {fields : List HeaderField}
    (distinct : (fields.map HeaderField.key).Nodup)
    {headers : TextMap}
    (fresh :
      ∀ field ∈ fields, headers.lookup field.key = none) :
    parseHeaders headers (fields.map HeaderField.line) =
      .ok (fields.foldl
        (fun headers field => headers.insert field.key field.value)
        headers) := by
  induction fields generalizing headers with
  | nil =>
      rfl
  | cons field fields inductionHypothesis =>
      simp only [List.map_cons, List.nodup_cons] at distinct
      have isFresh : headers.lookup field.key = none :=
        fresh field (by simp)
      have stepFresh :
          ∀ other ∈ fields,
            (headers.insert field.key field.value).lookup
              other.key = none := by
        intro other member
        have differs : other.key ≠ field.key := by
          intro same
          exact distinct.1 (same ▸ List.mem_map_of_mem member)
        rw [AList.lookup_insert_ne differs]
        exact fresh other (by simp [member])
      have step :
          parseHeaders headers
              (field.line :: fields.map HeaderField.line) =
            parseHeaders (headers.insert field.key field.value)
              (fields.map HeaderField.line) := by
        rw [parseHeaders, splitOnce_line]
        simp only
        rw [field.nameTrimmed.trim_eq, trim_value]
        have notStored : ¬ (headers.lookup field.key).isSome = true := by
          simp [isFresh]
        exact if_neg notStored
      rw [List.map_cons, step]
      exact inductionHypothesis distinct.2 stepFresh

end HeaderField

/-! ## Header blocks -/

/-- The letters of a method lie in one range of ASCII. -/
theorem range_of_letter
    {c : Char}
    (letter : c.isAlpha = true ∨ c = '_') :
    65 ≤ c.toNat ∧ c.toNat ≤ 122 := by
  rcases letter with alpha | underscore
  · change
      (decide ('A'.val ≤ c.val ∧ c.val ≤ 'Z'.val) ||
        (decide ('a'.val ≤ c.val) && decide (c.val ≤ 'z'.val))) =
          true at alpha
    simp only [Bool.or_eq_true, Bool.and_eq_true, decide_eq_true_eq,
      UInt32.le_iff_toNat_le] at alpha
    change (65 ≤ c.toNat ∧ c.toNat ≤ 90) ∨
      (97 ≤ c.toNat ∧ c.toNat ≤ 122) at alpha
    omega
  · subst underscore
    decide

/-- A letter of a method is not a whitespace character. -/
theorem isWhitespace_of_letter
    {c : Char}
    (letter : c.isAlpha = true ∨ c = '_') :
    isWhitespace c = false := by
  have range := range_of_letter letter
  simp only [isWhitespace, Bool.or_eq_false_iff,
    Bool.and_eq_false_iff, decide_eq_false_iff_not,
    beq_eq_false_iff_ne]
  omega

namespace RequestMessage

variable (message : RequestMessage)

theorem method_isWord : IsWord message.method where
  nonempty := message.methodNonempty
  solid := fun c member =>
    isWhitespace_of_letter (message.methodLetters c member)

/-- Every accepted URI starts with a visible character other than a colon. -/
theorem uri_eq_cons :
    ∃ first rest,
      message.uri = first :: rest ∧
        first ≠ ':' ∧ isWhitespace first = false := by
  rcases message.uriForm with star | slash | absolute
  · exact ⟨'*', [], star, by decide, by decide⟩
  · obtain ⟨rest, shape⟩ := slash
    exact ⟨'/', rest, shape.symm, by decide, by decide⟩
  · obtain ⟨rest, shape⟩ := absolute
    exact ⟨'r', "tsp://".toList ++ rest, shape.symm,
      by decide, by decide⟩

theorem uri_isWord : IsWord message.uri where
  nonempty := by
    obtain ⟨first, rest, shape, _⟩ := message.uri_eq_cons
    simp [shape]
  solid := message.uriSolid

/-- The three words of the request line. -/
theorem splitWhitespace_requestLine :
    splitWhitespace (requestLine message.method message.uri) =
      [message.method, message.uri, "RTSP/1.0".toList] := by
  have version : IsWord "RTSP/1.0".toList :=
    by decide
  rw [requestLine,
    splitWhitespace_cons message.method_isWord (by decide),
    splitWhitespace_cons message.uri_isWord (by decide),
    splitWhitespace_word version]

theorem requestLine_ne_nil :
    requestLine message.method message.uri ≠ [] := by
  simp [requestLine]

/-- The request line contains no terminator. -/
theorem requestLine_crlfFree :
    CrlfFree '\r' '\n' (requestLine message.method message.uri) := by
  apply crlfFree_of_not_mem
  intro member
  have blank : isWhitespace '\r' = true := by decide
  simp only [requestLine, List.mem_append, List.mem_cons] at member
  rcases member with inMethod | isBlank | inUri | isBlank | inVersion
  · have solid := message.method_isWord.solid _ inMethod
    rw [blank] at solid
    cases solid
  · exact absurd isBlank (by decide)
  · have solid := message.uriSolid _ inUri
    rw [blank] at solid
    cases solid
  · exact absurd isBlank (by decide)
  · exact absurd inVersion (by decide)

/-- The request line is never mistaken for a Content-Length field. -/
theorem requestLine_not_contentLength :
    ((splitOnce ':' (requestLine message.method message.uri)).bind
      fun (key, value) =>
        if eqIgnoreAsciiCase (trim key) "content-length".toList then
          some (trim value)
        else
          none) = none := by
  cases split : splitOnce ':' (requestLine message.method message.uri) with
  | none =>
      rfl
  | some pair =>
      obtain ⟨key, value⟩ := pair
      obtain ⟨shape, colonFree⟩ := splitOnce_some split
      obtain ⟨first, rest, uriShape, notColon, visible⟩ :=
        message.uri_eq_cons
      have methodColonFree : ':' ∉ message.method := by
        intro member
        rcases message.methodLetters ':' member with alpha | underscore
        · exact absurd alpha (by decide)
        · exact absurd underscore (by decide)
      have lineStart :
          message.method ++ [' ', first] <+: key ++ ':' :: value := by
        rw [← shape, requestLine, uriShape]
        exact ⟨rest ++ ' ' :: "RTSP/1.0".toList, by simp⟩
      have keyStart : message.method ++ [' ', first] <+: key :=
        prefix_of_prefix_append_cons lineStart (by
          simp [methodColonFree, Ne.symm notColon])
      obtain ⟨tail, keyShape⟩ := keyStart
      have blankKept : ' ' ∈ trim key := by
        have spaced :
            key = message.method ++ ' ' :: (first :: tail) := by
          rw [← keyShape]
          simp
        rw [spaced]
        apply mem_trim_of_between
        · obtain ⟨c, member⟩ :=
            List.exists_mem_of_ne_nil _ message.methodNonempty
          exact ⟨c, member, message.method_isWord.solid c member⟩
        · exact ⟨first, by simp, visible⟩
      have differs :
          eqIgnoreAsciiCase (trim key) "content-length".toList =
            false := by
        simp only [eqIgnoreAsciiCase, beq_eq_false_iff_ne]
        intro same
        have blankFolded :
            (' ' : Char) ∈ toAsciiLowercase (trim key) :=
          List.mem_map.mpr ⟨' ', blankKept, by decide⟩
        rw [same] at blankFolded
        exact absurd blankFolded (by decide)
      simp only [Option.bind_some, differs, Bool.false_eq_true,
        ↓reduceIte]

/-- No header line contains a terminator. -/
theorem lines_crlfFree :
    ∀ line ∈ message.lines, CrlfFree '\r' '\n' line := by
  intro line member
  rcases List.mem_cons.mp member with isFirst | isField
  · subst line
    exact message.requestLine_crlfFree
  · obtain ⟨field, _, rfl⟩ := List.mem_map.mp isField
    exact field.line_crlfFree

/-- No header line is empty. -/
theorem lines_ne_nil :
    ∀ line ∈ message.lines, line ≠ [] := by
  intro line member
  rcases List.mem_cons.mp member with isFirst | isField
  · subst line
    exact message.requestLine_ne_nil
  · obtain ⟨field, _, rfl⟩ := List.mem_map.mp isField
    exact field.line_ne_nil

/-- The lines of the header block. -/
theorem splitLines_head :
    splitLines '\r' '\n' message.head =
      requestLine message.method message.uri ::
        (message.fields.map HeaderField.line ++ [[], []]) := by
  rw [head, splitLines_headerBlock message.lines_crlfFree (by decide)]
  rfl

/-- The framing scan reads the Content-Length field of the message. -/
theorem headerValue_contentLength :
    headerValue message.head "content-length" =
      HeaderField.find? message.fields "content-length".toList := by
  rw [headerValue, splitLines_head, List.findSome?_cons,
    message.requestLine_not_contentLength]
  simp only
  induction message.fields with
  | nil =>
      rfl
  | cons field fields inductionHypothesis =>
      rw [List.map_cons, List.cons_append, List.findSome?_cons,
        field.splitOnce_line]
      simp only [Option.bind_some, field.nameTrimmed.trim_eq,
        field.trim_value, HeaderField.find?, List.find?_cons]
      cases eqIgnoreAsciiCase field.name "content-length".toList with
      | true =>
          rfl
      | false =>
          exact inductionHypothesis

/-- The framing scan reads the length of the body. -/
theorem bodyLength_head :
    bodyLength message.head = some message.body.length := by
  have announced := message.bodyAnnounced
  rw [bodyLength, headerValue_contentLength]
  cases found :
      HeaderField.find? message.fields "content-length".toList with
  | some value =>
      rw [found] at announced
      exact announced
  | none =>
      rw [found] at announced
      have empty : message.body = [] := announced
      simp [empty]

/-- The parser reads the request of the message. -/
theorem parseRequest_head :
    parseRequest message.head = .ok message.request := by
  have fieldLines :
      (message.fields.map HeaderField.line ++ [[], []]).filter
          (fun line => !line.isEmpty) =
        message.fields.map HeaderField.line := by
    rw [List.filter_append, List.filter_eq_self.mpr]
    · simp
    · intro line member
      obtain ⟨field, _, rfl⟩ := List.mem_map.mp member
      simp [field.line_ne_nil]
  have parsed :
      parseHeaders ∅ (message.fields.map HeaderField.line) =
        .ok message.request.headers :=
    HeaderField.parseHeaders_lines message.keysDistinct
      (fun field _ => AList.lookup_empty field.key)
  rw [parseRequest, splitLines_head]
  simp only [List.headD_cons, List.tail_cons]
  rw [message.splitWhitespace_requestLine]
  simp only [↓reduceIte]
  rw [fieldLines, parsed]
  rfl

/-- No header block starts like an interleaved frame. -/
theorem head?_encode (later : Bytes) :
    (message.encode ++ later).head? ≠ some dollar := by
  obtain ⟨first, rest, shape⟩ :=
    List.exists_cons_of_ne_nil message.methodNonempty
  have letter := message.methodLetters first (by simp [shape])
  intro framed
  have range := range_of_letter letter
  have ascii : first.toNat < 128 := by omega
  simp only [encode, head, lines, requestLines, headerBlock, joinLines,
    requestLine, shape, List.flatMap_cons, List.cons_append,
    toUtf8_cons, utf8EncodeChar_of_ascii ascii, List.head?_cons,
    Option.some.injEq] at framed
  have number := congrArg UInt8.toNat framed
  have dollarNumber : dollar.toNat = 36 := rfl
  simp only [UInt8.toNat_ofNat', Nat.toUInt8] at number
  omega

/-- A message at the front of the buffer is taken off exactly. -/
theorem takeRequest_encode (later : Bytes) :
    takeRequest (message.encode ++ later) =
      .ok (some message.request, later) := by
  obtain ⟨stop, found, headEnd⟩ :=
    position_toUtf8_headerBlock (by simp [lines, requestLines])
      message.lines_crlfFree message.lines_ne_nil
      (message.body ++ later)
  have buffer :
      message.encode ++ later =
        toUtf8 message.head ++ (message.body ++ later) := by
    simp [encode]
  have headTaken :
      (message.encode ++ later).take (stop + 4) =
        toUtf8 message.head := by
    rw [buffer, headEnd]
    exact List.take_left
  have sized :
      requestTotal (stop + 4) message.body.length =
        some message.encode.length := by
    have limit := message.fits
    have bound : maxRequestBytes < usizeBound := by decide
    have total :
        stop + 4 + message.body.length = message.encode.length := by
      rw [headEnd, encode, List.length_append]
      rfl
    have small : message.encode.length ≤ maxRequestBytes := by
      rw [encode, List.length_append]
      exact limit
    have fits : message.encode.length < usizeBound := by omega
    simp [requestTotal, checkedAdd, total, fits, small]
  have complete :
      ¬ (message.encode ++ later).length < message.encode.length := by
    simp
  rw [takeRequest_text (message.head?_encode later),
    takeText_of_position (by rw [buffer]; exact found), takeHeaders,
    headTaken, fromUtf8_toUtf8]
  simp only
  rw [message.bodyLength_head]
  simp only
  rw [sized]
  simp only [complete, ↓reduceIte]
  rw [message.parseRequest_head]
  simp [Except.map]

/-- A message that arrives in one read is answered with its request. -/
theorem readControl_encode
    (fits : message.encode.length ≤ readChunk) :
    readControl (.received message.encode fits) [] =
      .ok (some message.request, []) := by
  have nothing : takeRequest [] = .ok (none, []) := by
    rw [takeRequest_text (by simp)]
    rfl
  have taken := message.takeRequest_encode []
  rw [List.append_nil] at taken
  rw [readControl, nothing]
  generalize message.encode = bytes at taken fits
  cases bytes with
  | nil =>
      rw [nothing] at taken
      cases taken
  | cons first later =>
      exact taken

end RequestMessage

/-! ## Interleaved frames -/

/-- A frame at the front of the buffer is skipped exactly. -/
theorem InterleavedFrame.takeRequest_encode
    (frame : InterleavedFrame)
    (later : Bytes) :
    takeRequest (frame.encode ++ later) = takeRequest later := by
  have limit : frame.payload.length ≤ 65532 := frame.fits
  have lengthBytes :
      (BigEndian.toBytes 2 frame.payload.length).length = 2 := by
    simp
  have encodedLength :
      frame.encode.length = 4 + frame.payload.length := by
    simp [encode]
    omega
  have framedEnd :
      frameEnd (frame.encode ++ later) = frame.encode.length := by
    have lengthField :
        ((frame.encode ++ later).drop 2).take 2 =
          BigEndian.toBytes 2 frame.payload.length := by
      simp only [encode, List.cons_append, List.drop_succ_cons,
        List.drop_zero, List.append_assoc]
      rw [← lengthBytes]
      exact List.take_left
    rw [frameEnd, lengthField, BigEndian.ofBytes_toBytes_of_lt (by omega),
      encodedLength]
  have framed : (frame.encode ++ later).head? = some dollar := by
    simp [encode]
  have headerPresent : 4 ≤ (frame.encode ++ later).length := by
    rw [List.length_append]
    omega
  have small : frameEnd (frame.encode ++ later) ≤ maxRequestBytes := by
    rw [framedEnd, encodedLength]
    simp only [maxRequestBytes]
    omega
  have complete :
      frameEnd (frame.encode ++ later) ≤
        (frame.encode ++ later).length := by
    rw [framedEnd]
    simp
  rw [takeRequest_frame framed headerPresent small complete, framedEnd]
  simp

/-! ## Whole streams -/

/-- What the server is to learn from a request message. -/
structure Represents
    (message : RequestMessage)
    (request : Request) : Prop where
  method : request.method = toAsciiUppercase message.method
  uri : request.uri = message.uri
  headers :
    ∀ name,
      request.headers.lookup (toAsciiLowercase name) =
        HeaderField.find? message.fields name

/-- The request read from a message represents it. -/
theorem RequestMessage.represents (message : RequestMessage) :
    Represents message message.request where
  method := rfl
  uri := rfl
  headers := by
    intro name
    have looked :=
      HeaderField.lookup_foldl_insert message.keysDistinct ∅ name
    rw [AList.lookup_empty, Option.or_none] at looked
    exact looked

/-- A message whose body looks like a frame and a blank line. -/
example :
    ∃ message : RequestMessage,
      message.body = toUtf8 "$A\r\n\r\n".toList :=
  ⟨{ method := "get_parameter".toList
     uri := "rtsp://host/camera".toList
     fields :=
       [{ name := "Content-Length".toList
          value := "6".toList
          nameNonempty := by decide
          nameColonFree := by decide
          nameTrimmed := by decide
          valueTrimmed := by decide
          nameCrlfFree := crlfFree_of_not_mem (by decide)
          valueCrlfFree := crlfFree_of_not_mem (by decide) }]
     body := toUtf8 "$A\r\n\r\n".toList
     methodNonempty := by decide
     methodLetters := List.all_iff_forall_prop.mp rfl
     uriSolid := (by decide : IsWord "rtsp://host/camera".toList).solid
     uriForm := by decide
     keysDistinct := by decide
     bodyAnnounced := by
       change fromStrRadix 10 usizeBound "6".toList = some 6
       decide
     fits := by decide }, rfl⟩

/--
Decode after encode for the whole client stream: draining the concatenated
encodings of any messages yields exactly their requests, in order, and leaves
an empty buffer.  Frames and bodies are arbitrary bytes.
-/
theorem request_stream_round_trip (messages : List WireMessage) :
    ∃ requests,
      requestParser.drain (messages.flatMap WireMessage.encode) =
          (requests, .ok []) ∧
        List.Forall₂ Represents
          (messages.filterMap WireMessage.request?) requests := by
  refine
    ⟨(messages.filterMap WireMessage.request?).map
        RequestMessage.request, ?_, ?_⟩
  · have whole :
        requestParser.drain (messages.flatMap WireMessage.encode ++ []) =
          prepend
            (messages.filterMap fun message =>
              message.request?.map RequestMessage.request)
            (requestParser.drain []) := by
      apply Parser.drain_flatMap
      · intro message _ skipped later
        cases message with
        | frame interleaved =>
            exact interleaved.takeRequest_encode later
        | request message =>
            simp [WireMessage.request?] at skipped
      · intro message _ request means later
        cases message with
        | frame interleaved =>
            simp [WireMessage.request?] at means
        | request message =>
            simp only [WireMessage.request?, Option.map_some,
              Option.some.injEq] at means
            subst request
            exact message.takeRequest_encode later
    have emptyTaken :
        requestParser.take [] = .ok (none, []) :=
      takeRequest_text (by decide)
    rw [List.append_nil, Parser.drain_pending emptyTaken] at whole
    rw [whole]
    simp [prepend, List.map_filterMap]
  · induction messages.filterMap WireMessage.request? with
    | nil =>
        exact .nil
    | cons message messages inductionHypothesis =>
        exact .cons message.represents inductionHypothesis

end CamRtsp
