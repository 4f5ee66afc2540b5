import CamRtsp.ControlUrls
import CamRtsp.Foundation.Base64
import CamRtsp.LiveConnection

namespace CamRtsp.SessionDescription

open RustText CrlfLines
open Broadcaster (byOthers)

/-!
# What a player takes from a description

A player splits the description into lines, keeps the attributes behind the
`m=` line, and reads the stream's format and parameter sets from them.  `read`
is such a player.  What it reads is what the broadcaster held when the request
was served, for every description that crosses the wire.
-/

/-- What a player has to know before it plays. -/
structure Description where
  payloadType : Text
  encoding : Text
  clockRate : Text
  packetizationMode : Text
  profileLevelId : UInt8 × UInt8 × UInt8
  sps : Bytes
  pps : Bytes
  frameRate : Option Text
  control : Text
  deriving Repr, DecidableEq

/-! ## The player -/

/-- The attributes of the media section, by their names. -/
def mediaAttributes (lines : List Text) : List (Text × Text) :=
  (lines.dropWhile fun line => line.head? != some 'm').filterMap
    (splitOnce ':')

/-- The format at the end of the `m=` line. -/
def mediaFormat (lines : List Text) : Option Text :=
  (lines.find? fun line => line.head? == some 'm').bind fun line =>
    (splitWhitespace line).getLast?

/-- The value of an attribute that is about a format. -/
def formatAttribute
    (name : String)
    (format : Text)
    (attributes : List (Text × Text)) : Option Text :=
  (attributes.lookup name.toList).bind fun value =>
    (splitOnce ' ' value).bind fun parts =>
      if parts.1 = format then some parts.2 else none

/-- A byte of two hexadecimal digits. -/
def readHexByte (high low : Char) : Option UInt8 :=
  (digitsValue 16 0 [high, low]).map UInt8.ofNat

/-- `profile-level-id`. -/
def readProfile : Text → Option (UInt8 × UInt8 × UInt8)
  | [first, second, third, fourth, fifth, sixth] =>
      (readHexByte first second).bind fun profile =>
        (readHexByte third fourth).bind fun constraints =>
          (readHexByte fifth sixth).map fun level =>
            (profile, constraints, level)
  | _ => none

/-- The format parameters, by their names. -/
def formatParameters (value : Text) : List (Text × Text) :=
  (value.splitOn ';').filterMap (splitOnce '=')

/-- Read a description. -/
def read (decode : Text → Option Bytes) (text : Text) :
    Option Description := do
  let lines := splitLines '\r' '\n' text
  let attributes := mediaAttributes lines
  let format ← mediaFormat lines
  let map ← formatAttribute "a=rtpmap" format attributes
  let encoding ← splitOnce '/' map
  let value ← formatAttribute "a=fmtp" format attributes
  let parameters := formatParameters value
  let mode ← parameters.lookup "packetization-mode".toList
  let profile ← parameters.lookup "profile-level-id".toList
  let profile ← readProfile profile
  let sets ← parameters.lookup "sprop-parameter-sets".toList
  let sets ← splitOnce ',' sets
  let sps ← decode sets.1
  let pps ← decode sets.2
  let control ← attributes.lookup "a=control".toList
  return {
    payloadType := format
    encoding := encoding.1
    clockRate := encoding.2
    packetizationMode := mode
    profileLevelId := profile
    sps := sps
    pps := pps
    frameRate := attributes.lookup "a=framerate".toList
    control := control
  }

/-- What the server wants to be read. -/
def advertised
    (crates : Crates)
    (rate : Option (UInt32 × UInt32))
    (codec : CodecConfig) : Description where
  payloadType := "96".toList
  encoding := "H264".toList
  clockRate := "90000".toList
  packetizationMode := ['1']
  profileLevelId := codec.profileLevelId
  sps := codec.sps
  pps := codec.pps
  frameRate := rate.map fun rate => crates.framerate rate.1 rate.2
  control := "trackID=0".toList

/-- What is documented of the Base64 crate and of the printing of a rate. -/
structure Documented (crates : Crates) : Prop where
  decoded :
    ∀ bytes, crates.base64Decode (crates.base64Encode bytes) = some bytes
  symbols :
    ∀ bytes, ∀ character ∈ crates.base64Encode bytes,
      character ∈ Base64.alphabet ∨ character = '='
  oneLine :
    ∀ numerator denominator,
      '\r' ∉ crates.framerate numerator denominator

/-! ## The lines -/

/-- The format parameters of the server. -/
def parameterTexts (crates : Crates) (codec : CodecConfig) : List Text :=
  ["packetization-mode=1".toList,
    "profile-level-id=".toList ++
      (hexByte codec.profileLevelId.1 ++ hexByte codec.profileLevelId.2.1 ++
        hexByte codec.profileLevelId.2.2),
    "sprop-parameter-sets=".toList ++
      (crates.base64Encode codec.sps ++
        ',' :: crates.base64Encode codec.pps)]

/-- The lines behind the `m=` line. -/
def attributeLines
    (crates : Crates)
    (rate : Option (UInt32 × UInt32))
    (codec : CodecConfig) : List Text :=
  ["a=rtpmap:96 H264/90000".toList,
    "a=fmtp:96 ".toList ++ [';'].intercalate (parameterTexts crates codec)] ++
    (rate.map fun rate =>
      "a=framerate:".toList ++ crates.framerate rate.1 rate.2).toList ++
    ["a=control:trackID=0".toList]

/-- The lines of the session, and the `m=` line. -/
def sessionLines : List Text :=
  ["v=0".toList, "o=- 0 0 IN IP4 127.0.0.1".toList, "s=camrtsp".toList,
    "c=IN IP4 0.0.0.0".toList, "t=0 0".toList, "a=control:*".toList,
    "m=video 0 RTP/AVP 96".toList]

/-- `sdp` writes these lines. -/
theorem sdp_eq
    (crates : Crates)
    (rate : Option (UInt32 × UInt32))
    (codec : CodecConfig) :
    sdp crates rate codec =
      joinLines '\r' '\n'
        (sessionLines ++ attributeLines crates rate codec) := by
  have opening :
      "a=fmtp:96 packetization-mode=1;profile-level-id=".toList =
        "a=fmtp:96 ".toList ++
          ("packetization-mode=1".toList ++
            ';' :: "profile-level-id=".toList) :=
    rfl
  have sets :
      ";sprop-parameter-sets=".toList =
        ';' :: "sprop-parameter-sets=".toList :=
    rfl
  obtain ⟨sps, pps, profile, constraints, level⟩ := codec
  unfold sdp joinLines sessionLines attributeLines parameterTexts
  rw [opening, sets]
  -- What the texts are does not matter; as literals they would be unfolded.
  generalize "v=0".toList = version
  generalize "o=- 0 0 IN IP4 127.0.0.1".toList = origin
  generalize "s=camrtsp".toList = name
  generalize "c=IN IP4 0.0.0.0".toList = address
  generalize "t=0 0".toList = time
  generalize "a=control:*".toList = aggregate
  generalize "m=video 0 RTP/AVP 96".toList = media
  generalize "a=rtpmap:96 H264/90000".toList = map
  generalize "a=fmtp:96 ".toList = front
  generalize "packetization-mode=1".toList = mode
  generalize "profile-level-id=".toList = profileName
  generalize "sprop-parameter-sets=".toList = setsName
  generalize "a=framerate:".toList = rateName
  generalize "a=control:trackID=0".toList = control
  cases rate <;> simp [List.intercalate_cons_cons]

/-! ## What is written into them -/

/-- A hexadecimal digit reads back. -/
theorem toDigit_digitChar :
    ∀ digit < 16, toDigit 16 (Nat.digitChar digit) = some digit := by
  decide

/-- No digit is a separator. -/
theorem digitChar_plain :
    ∀ digit < 16, Nat.digitChar digit ∉ ['\r', ';'] := by
  decide

/-- A byte reads back from its two digits. -/
theorem readHexByte_digits (byte : UInt8) :
    readHexByte (Nat.digitChar (byte.toNat / 16))
      (Nat.digitChar (byte.toNat % 16)) = some byte := by
  have below := byte.toNat_lt
  rw [readHexByte, digitsValue, toDigit_digitChar _ (by omega)]
  simp only [Option.bind_some, digitsValue,
    toDigit_digitChar _ (Nat.mod_lt byte.toNat (by decide : 16 > 0))]
  rw [Option.map_some, Base64.ofNat_eq byte (by omega)]

/-- The profile reads back. -/
theorem readProfile_hexBytes (profile constraints level : UInt8) :
    readProfile
        (hexByte profile ++ hexByte constraints ++ hexByte level) =
      some (profile, constraints, level) := by
  change
    (readHexByte (Nat.digitChar (profile.toNat / 16))
      (Nat.digitChar (profile.toNat % 16))).bind _ = _
  rw [readHexByte_digits, Option.bind_some, readHexByte_digits,
    Option.bind_some, readHexByte_digits, Option.map_some]

/-- A byte has no separator of a description in it. -/
theorem plain_hexByte (byte : UInt8) :
    ∀ character ∈ hexByte byte, character ∉ ['\r', ';'] := by
  have below := byte.toNat_lt
  intro character member
  rcases List.mem_cons.mp member with rfl | isLow
  · exact digitChar_plain _ (by omega)
  · rw [List.mem_singleton.mp isLow]
    exact digitChar_plain _ (Nat.mod_lt _ (by decide))

/-- A text's search for forbidden characters says that it has none. -/
theorem plain_of_search
    {forbidden text : Text}
    (searched :
      text.all (fun character => !forbidden.elem character) = true) :
    ∀ character ∈ text, character ∉ forbidden := by
  intro character member isForbidden
  have notFound := List.all_eq_true.mp searched character member
  rw [List.elem_eq_true_of_mem isForbidden] at notFound
  cases notFound

/-- What stands in joined texts is the separator or in one of the texts. -/
theorem mem_intercalate
    {separator character : Char}
    {texts : List Text}
    (member : character ∈ [separator].intercalate texts) :
    character = separator ∨ ∃ text ∈ texts, character ∈ text := by
  induction texts with
  | nil =>
      cases member
  | cons text rest inductionHypothesis =>
      cases rest with
      | nil =>
          rw [List.intercalate_singleton] at member
          exact .inr ⟨text, List.mem_singleton_self _, member⟩
      | cons next rest =>
          rw [List.intercalate_cons_cons, List.append_assoc] at member
          rcases List.mem_append.mp member with inFirst | behind
          · exact .inr ⟨text, List.mem_cons_self, inFirst⟩
          · rcases List.mem_cons.mp behind with isSeparator | later
            · exact .inl isSeparator
            · refine (inductionHypothesis later).imp_right ?_
              rintro ⟨other, isOther, inside⟩
              exact ⟨other, List.mem_cons_of_mem _ isOther, inside⟩

section Written

variable {crates : Crates}
variable (documented : Documented crates)
variable (rate : Option (UInt32 × UInt32))
variable (codec : CodecConfig)

include documented

/-- A set in Base64 has no separator of a description in it. -/
theorem plain_base64 (bytes : Bytes) :
    ∀ character ∈ crates.base64Encode bytes,
      character ∉ ['\r', ';', ','] := by
  intro character member
  rcases documented.symbols bytes character member with inAlphabet | rfl
  · have plain :
        ∀ symbol ∈ Base64.alphabet, symbol ∉ ['\r', ';', ','] :=
      plain_of_search (by decide +kernel)
    exact plain character inAlphabet
  · decide

/-- The parameters have no separator in them. -/
theorem plain_parameter :
    ∀ text ∈ parameterTexts crates codec,
      ∀ character ∈ text, character ∉ ['\r', ';'] := by
  have inAlphabet (bytes : Bytes) :
      ∀ character ∈ crates.base64Encode bytes,
        character ∉ ['\r', ';'] := by
    intro character member isSeparator
    refine plain_base64 documented bytes character member ?_
    exact List.mem_append_left [','] isSeparator
  have mode :
      ∀ character ∈ "packetization-mode=1".toList,
        character ∉ ['\r', ';'] :=
    plain_of_search (by decide)
  have profileName :
      ∀ character ∈ "profile-level-id=".toList,
        character ∉ ['\r', ';'] :=
    plain_of_search (by decide)
  have setsName :
      ∀ character ∈ "sprop-parameter-sets=".toList,
        character ∉ ['\r', ';'] :=
    plain_of_search (by decide)
  intro text isText character member
  simp only [parameterTexts, List.mem_cons, List.not_mem_nil, or_false]
    at isText
  rcases isText with rfl | rfl | rfl
  · exact mode character member
  · simp only [List.mem_append] at member
    rcases member with isName | (first | second) | third
    · exact profileName character isName
    · exact plain_hexByte _ character first
    · exact plain_hexByte _ character second
    · exact plain_hexByte _ character third
  · simp only [List.mem_append, List.mem_cons] at member
    rcases member with isName | inSps | rfl | inPps
    · exact setsName character isName
    · exact inAlphabet _ character inSps
    · decide
    · exact inAlphabet _ character inPps

/-- The parameters read back. -/
theorem formatParameters_intercalate :
    formatParameters ([';'].intercalate (parameterTexts crates codec)) =
      [("packetization-mode".toList, ['1']),
        ("profile-level-id".toList,
          hexByte codec.profileLevelId.1 ++
              hexByte codec.profileLevelId.2.1 ++
            hexByte codec.profileLevelId.2.2),
        ("sprop-parameter-sets".toList,
          crates.base64Encode codec.sps ++
            ',' :: crates.base64Encode codec.pps)] := by
  have apart :
      ∀ text ∈ parameterTexts crates codec, ';' ∉ text := by
    intro text isText inside
    exact plain_parameter documented codec text isText ';' inside
      (by decide)
  have mode :
      splitOnce '=' "packetization-mode=1".toList =
        some ("packetization-mode".toList, ['1']) :=
    rfl
  have profileName : '=' ∉ "profile-level-id".toList := by decide
  have profile (value : Text) :
      splitOnce '=' ("profile-level-id=".toList ++ value) =
        some ("profile-level-id".toList, value) :=
    splitOnce_append profileName
  have setsName : '=' ∉ "sprop-parameter-sets".toList := by decide
  have sets (value : Text) :
      splitOnce '=' ("sprop-parameter-sets=".toList ++ value) =
        some ("sprop-parameter-sets".toList, value) :=
    splitOnce_append setsName
  rw [formatParameters, List.splitOn_intercalate ';' apart (by nofun),
    parameterTexts, List.filterMap_cons_some mode,
    List.filterMap_cons_some (profile _), List.filterMap_cons_some (sets _),
    List.filterMap_nil]

/-- The lines of a description are lines. -/
theorem crlfFree_of_mem_lines
    {line : Text}
    (member : line ∈ sessionLines ++ attributeLines crates rate codec) :
    CrlfFree '\r' '\n' line := by
  refine crlfFree_of_not_mem ?_
  have session : ∀ line ∈ sessionLines, '\r' ∉ line := by decide
  have map : '\r' ∉ "a=rtpmap:96 H264/90000".toList := by decide
  have front : '\r' ∉ "a=fmtp:96 ".toList := by decide
  have rateName : '\r' ∉ "a=framerate:".toList := by decide
  have control : '\r' ∉ "a=control:trackID=0".toList := by decide
  simp only [attributeLines, List.mem_append, List.mem_cons,
    List.not_mem_nil, or_false, Option.mem_toList,
    Option.map_eq_some_iff] at member
  rcases member with
    isSession | ((rfl | rfl) | ⟨rate, _, rfl⟩) | rfl
  · exact session line isSession
  · exact map
  · intro inside
    rcases List.mem_append.mp inside with inFront | inParameters
    · exact front inFront
    · rcases mem_intercalate inParameters with isSemicolon | inText
      · exact absurd isSemicolon (by decide)
      · obtain ⟨text, isText, inText⟩ := inText
        exact plain_parameter documented codec text isText '\r' inText
          (by decide)
  · intro inside
    rcases List.mem_append.mp inside with inName | inRate
    · exact rateName inName
    · exact documented.oneLine rate.1 rate.2 inRate
  · exact control

/-- A player splits a description into its lines. -/
theorem splitLines_sdp :
    splitLines '\r' '\n' (sdp crates rate codec) =
      sessionLines ++ attributeLines crates rate codec ++ [[]] := by
  rw [sdp_eq, ← List.append_nil (joinLines _ _ _),
    splitLines_joinLines
      (fun _ member => crlfFree_of_mem_lines documented rate codec member)
      (by decide)]
  rfl

/-- The attributes of a description. -/
theorem mediaAttributes_sdp :
    mediaAttributes (splitLines '\r' '\n' (sdp crates rate codec)) =
      [("a=rtpmap".toList, "96 H264/90000".toList),
        ("a=fmtp".toList,
          "96 ".toList ++
            [';'].intercalate (parameterTexts crates codec))] ++
        (rate.map fun rate =>
          ("a=framerate".toList,
            crates.framerate rate.1 rate.2)).toList ++
        [("a=control".toList, "trackID=0".toList)] := by
  have formatName : ':' ∉ "a=fmtp".toList := by decide
  have format (value : Text) :
      splitOnce ':' ("a=fmtp:96 ".toList ++ value) =
        some ("a=fmtp".toList, "96 ".toList ++ value) :=
    splitOnce_append formatName
  have rateName : ':' ∉ "a=framerate".toList := by decide
  have framerate (value : Text) :
      splitOnce ':' ("a=framerate:".toList ++ value) =
        some ("a=framerate".toList, value) :=
    splitOnce_append rateName
  have media :
      mediaAttributes
          (sessionLines ++ attributeLines crates rate codec ++ [[]]) =
        (attributeLines crates rate codec ++ [[]]).filterMap
          (splitOnce ':') :=
    rfl
  have map :
      splitOnce ':' "a=rtpmap:96 H264/90000".toList =
        some ("a=rtpmap".toList, "96 H264/90000".toList) :=
    rfl
  have control :
      splitOnce ':' "a=control:trackID=0".toList =
        some ("a=control".toList, "trackID=0".toList) :=
    rfl
  have none : splitOnce ':' [] = none := rfl
  rw [splitLines_sdp documented, media, attributeLines, List.filterMap_append,
    List.filterMap_append, List.filterMap_append,
    List.filterMap_cons_some map, List.filterMap_cons_some (format _),
    List.filterMap_cons_some control, List.filterMap_cons_none none,
    List.filterMap_nil, List.append_nil]
  cases rate with
  | none =>
      rfl
  | some rate =>
      rw [Option.map_some, Option.toList_some,
        List.filterMap_cons_some (framerate _)]
      rfl

/-- A player reads what the server advertises. -/
theorem read_sdp :
    read crates.base64Decode (sdp crates rate codec) =
      some (advertised crates rate codec) := by
  have attributes := mediaAttributes_sdp documented rate codec
  have format :
      mediaFormat (splitLines '\r' '\n' (sdp crates rate codec)) =
        some "96".toList := by
    rw [splitLines_sdp documented]
    rfl
  have map :
      formatAttribute "a=rtpmap" "96".toList
          (mediaAttributes
            (splitLines '\r' '\n' (sdp crates rate codec))) =
        some "H264/90000".toList := by
    rw [attributes]
    rfl
  have encoding :
      splitOnce '/' "H264/90000".toList =
        some ("H264".toList, "90000".toList) :=
    rfl
  have payloadType : ' ' ∉ "96".toList := by decide
  have value :
      formatAttribute "a=fmtp" "96".toList
          (mediaAttributes
            (splitLines '\r' '\n' (sdp crates rate codec))) =
        some ([';'].intercalate (parameterTexts crates codec)) := by
    have lookup :
        (mediaAttributes
            (splitLines '\r' '\n' (sdp crates rate codec))).lookup
              "a=fmtp".toList =
          some ("96 ".toList ++
            [';'].intercalate (parameterTexts crates codec)) := by
      rw [attributes]
      rfl
    have parts :
        splitOnce ' ' ("96 ".toList ++
            [';'].intercalate (parameterTexts crates codec)) =
          some ("96".toList,
            [';'].intercalate (parameterTexts crates codec)) :=
      splitOnce_append payloadType
    rw [formatAttribute, lookup, Option.bind_some, parts, Option.bind_some,
      if_pos rfl]
  have noComma : ',' ∉ crates.base64Encode codec.sps := by
    intro inside
    exact plain_base64 documented codec.sps ',' inside (by decide)
  have sets :
      splitOnce ',' (crates.base64Encode codec.sps ++
          ',' :: crates.base64Encode codec.pps) =
        some (crates.base64Encode codec.sps,
          crates.base64Encode codec.pps) :=
    splitOnce_append noComma
  have control :
      (mediaAttributes
          (splitLines '\r' '\n' (sdp crates rate codec))).lookup
            "a=control".toList =
        some "trackID=0".toList := by
    rw [attributes]
    cases rate <;> rfl
  have framerate :
      (mediaAttributes
          (splitLines '\r' '\n' (sdp crates rate codec))).lookup
            "a=framerate".toList =
        rate.map fun rate => crates.framerate rate.1 rate.2 := by
    rw [attributes]
    cases rate <;> rfl
  have parameters := formatParameters_intercalate documented codec
  have mode :
      (formatParameters
          ([';'].intercalate (parameterTexts crates codec))).lookup
            "packetization-mode".toList = some ['1'] := by
    rw [parameters]
    rfl
  have profile :
      (formatParameters
          ([';'].intercalate (parameterTexts crates codec))).lookup
            "profile-level-id".toList =
        some (hexByte codec.profileLevelId.1 ++
            hexByte codec.profileLevelId.2.1 ++
          hexByte codec.profileLevelId.2.2) := by
    rw [parameters]
    rfl
  have setTexts :
      (formatParameters
          ([';'].intercalate (parameterTexts crates codec))).lookup
            "sprop-parameter-sets".toList =
        some (crates.base64Encode codec.sps ++
          ',' :: crates.base64Encode codec.pps) := by
    rw [parameters]
    rfl
  simp only [read, format, map, encoding, value, mode, profile,
    readProfile_hexBytes, setTexts, sets, documented.decoded, control,
    framerate, Option.bind_eq_bind, Option.bind_some]
  rfl

end Written

/-! ## On the wire -/

/-- A player reads the body of an answer. -/
def readAnswer (crates : Crates) : ServerMessage → Option Description
  | .frame _ _ => none
  | .response _ body => (fromUtf8 body).bind (read crates.base64Decode)

/-- A written response is a write. -/
theorem mem_sends_of_mem_responses
    {transition : Transition}
    {reply : Response}
    (member : reply ∈ transition.responses) :
    .response reply ∈ transition.performed.sends := by
  obtain ⟨send, inSends, isReply⟩ := List.mem_filterMap.mp member
  cases send with
  | response other =>
      cases isReply
      exact inSends
  | _ =>
      cases isReply

/-- A transition of a run is an iteration on some broadcaster. -/
theorem exists_of_mem_liveRuns
    {connection : Connection}
    {session : Session}
    {broadcaster : Broadcaster}
    {transitions : List LiveTransition}
    (runs : LiveRuns connection session broadcaster transitions) :
    ∀ live ∈ transitions,
      ∃ before found request surroundings interference,
        live =
          liveStep connection before found request surroundings
            interference := by
  induction runs with
  | nil session broadcaster =>
      intro live member
      cases member
  | closed session broadcaster request surroundings interference result
      closes =>
      intro live member
      exact ⟨session, broadcaster, request, surroundings, interference,
        List.mem_singleton.mp member⟩
  | running session broadcaster request surroundings interference after
      goesOn rest inductionHypothesis =>
      intro live member
      rcases List.mem_cons.mp member with isFirst | later
      · exact ⟨session, broadcaster, request, surroundings, interference,
          isFirst⟩
      · exact inductionHypothesis live later

/-- A description is written from the codec that was read. -/
theorem codec_of_described
    {connection : Connection}
    {iteration : Iteration}
    {session : Session}
    {request : Request}
    (named : request.method = "DESCRIBE".toList)
    {reply : Response}
    (member :
      .response reply ∈
        (serve connection iteration session request).sends)
    (ok : reply.status = .ok) :
    ∃ codec, iteration.codec = some codec ∧
      reply = description connection iteration request codec := by
  have served := serve_served connection iteration session request
  obtain ⟨_, dispatched⟩ := served.admitted_of_ok member ok
  generalize serve connection iteration session request = handled
    at dispatched member
  cases dispatched with
  | described _ codec published =>
      cases List.mem_singleton.mp member
      exact ⟨codec, published, rfl⟩
  | unavailable _ _ =>
      rw [status_of_mem_answer member] at ok
      cases ok
  | notValid =>
      rw [status_of_mem_answer member] at ok
      cases ok
  | _ other =>
      exact absurd (named.symm.trans other) (by decide)

/--
A DESCRIBE is answered from the codec and the frame rate that the broadcaster
held one after the other, or put off when there was no codec.
-/
theorem answered_of_liveRuns
    {connection : Connection}
    {session : Session}
    {broadcaster : Broadcaster}
    {transitions : List LiveTransition}
    (runs : LiveRuns connection session broadcaster transitions) :
    ∀ live ∈ transitions, ∀ request ∈ live.transition.request,
      request.method = "DESCRIBE".toList →
        ∀ reply ∈ live.transition.responses,
          ∃ first second,
            live.before = first ++ second ∧
              (reply.status = .ok →
                ∃ codec,
                  (live.found.run first).state.codec = some codec ∧
                    reply.body =
                      sdp connection.server.crates
                        (live.found.run live.before).state.frameRate
                        codec) ∧
                (reply.status = .serviceUnavailable →
                  (live.found.run first).state.codec = none) := by
  intro live member request asked named reply replied
  obtain ⟨session, found, served, surroundings, interference, rfl⟩ :=
    exists_of_mem_liveRuns runs live member
  obtain rfl : served = some request := asked
  have isSent := mem_served_of_mem_responses replied
  refine ⟨byOthers session.subscription interference.beforeCodec,
    byOthers session.subscription interference.beforeFrameRate, rfl, ?_,
    codec_of_serviceUnavailable isSent⟩
  intro isOk
  obtain ⟨codec, published, rfl⟩ := codec_of_described named isSent isOk
  refine ⟨codec, published, ?_⟩
  change
    sdp connection.server.crates
        ((found.run
          (byOthers session.subscription
            interference.beforeCodec)).run
          (byOthers session.subscription
            interference.beforeFrameRate)).state.frameRate codec = _
  rw [← Broadcaster.run_append]
  rfl

/--
What a player gets with the answers to its DESCRIBE requests: behind a 200 it
reads, off the bytes of the connection, what the broadcaster held when the
codec and the frame rate were read; behind a 503 there was no codec.
-/
structure DescriptionRules
    (crates : Crates)
    (transitions : List LiveTransition) : Prop where
  described :
    ∀ live ∈ transitions, ∀ request ∈ live.transition.request,
      request.method = "DESCRIBE".toList →
        ∀ reply ∈ live.transition.responses, reply.status = .ok →
          ∃ first second codec,
            live.before = first ++ second ∧
              (live.found.run first).state.codec = some codec ∧
                ∃ message ∈
                    (messageParser.drain
                      (controlStream
                        (transitions.map LiveTransition.transition))).1,
                  message = .response reply.head (toUtf8 reply.body) ∧
                    readAnswer crates message =
                      some
                        (advertised crates
                          (live.found.run live.before).state.frameRate
                          codec)
  unavailable :
    ∀ live ∈ transitions, ∀ request ∈ live.transition.request,
      request.method = "DESCRIBE".toList →
        ∀ reply ∈ live.transition.responses,
          reply.status = .serviceUnavailable →
            ∃ first second,
              live.before = first ++ second ∧
                (live.found.run first).state.codec = none

/-- The rules hold in every run of a connection on a broadcaster. -/
theorem descriptions_on_the_wire
    (connection : Connection)
    (documented : Documented connection.server.crates)
    (opening : Opening)
    (broadcaster : Broadcaster)
    (inputs : List LiveInput) :
    DescriptionRules connection.server.crates
      (liveHandle connection (.start opening) [] broadcaster
        inputs).transitions := by
  have runs :=
    liveHandle_runs connection (.start opening) [] broadcaster inputs
  obtain ⟨reads, _, handled⟩ :=
    liveHandle_eq_handle connection (.start opening) [] broadcaster inputs
  obtain ⟨⟨next, plain⟩, parsed⟩ :=
    handle_runs connection (.start opening) [] reads
  rw [handled] at plain parsed
  obtain ⟨rest, drained, _⟩ :=
    plain.drain parsed (cr_not_mem_hex opening.nonceData)
  generalize (liveHandle connection (.start opening) [] broadcaster
    inputs).transitions = transitions at runs drained
  constructor
  · intro live member request asked named reply replied ok
    obtain ⟨first, second, split, described, _⟩ :=
      answered_of_liveRuns runs live member request asked named reply replied
    obtain ⟨codec, published, body⟩ := described ok
    refine ⟨first, second, codec, split, published, _, ?_, rfl, ?_⟩
    · rw [drained]
      refine List.mem_filterMap.mpr ⟨.response reply, ?_, rfl⟩
      exact List.mem_flatMap.mpr
        ⟨live.transition, List.mem_map_of_mem member,
          mem_sends_of_mem_responses replied⟩
    · rw [readAnswer, body, fromUtf8_toUtf8, Option.bind_some,
        read_sdp documented]
  · intro live member request asked named reply replied unavailable
    obtain ⟨first, second, split, _, without⟩ :=
      answered_of_liveRuns runs live member request asked named reply replied
    exact ⟨first, second, split, without unavailable⟩

/-- Base64 as it is documented; nothing here asks for a digest. -/
def standardCrates : Crates where
  base64Encode := Base64.encode
  base64Decode := Base64.decode
  md5 := fun _ => []
  sha256 := fun _ => []
  framerate := fun numerator _ => decimal numerator.toNat

/-- The standard alphabet keeps what is documented. -/
theorem documented_standardCrates : Documented standardCrates where
  decoded := Base64.decode_encode
  symbols := fun _ _ => Base64.mem_encode
  oneLine := fun numerator _ inside => by
    have isDigit := isDigit_of_mem_decimal inside
    cases isDigit

/-- The path of the stream is valid. -/
theorem validPath_camera : validPath "/camera".toList = true := by
  decide

/-- A connection to a server without a password. -/
def openConnection : Connection where
  server := {
    crates := standardCrates
    path := "/camera".toList
    pathValid := validPath_camera
    credentials := none
    transportPolicy := .both
  }
  peerIp := .v4 (Vector.replicate 4 10)
  localAddr := {
    ip := .v4 (Vector.replicate 4 10)
    port := 554
    scopeId := 0
  }
  sessionData := List.replicate 12 7
  ssrc := 1

/-- It is opened at the first moment. -/
def openOpening : Opening where
  nonceData := List.replicate 24 9
  issuedAt := 0
  sequence := 0
  reportAt := 0
  controlAt := 0

/-- A player asks while the codec and the frame rate are set. -/
def describeInput : LiveInput where
  read :=
    .received (toUtf8 "DESCRIBE /camera RTSP/1.0\r\n\r\n".toList)
      (by decide)
  surroundings := {
    controlAt := 1
    checkedAt := 1
    renewalAt := 1
    nonceData := []
    renewedAt := 1
    canBind := fun _ => true
    socketError := none
    idleAt := 1
    sentAt := 1
    reportAt := 1
    elapsedAt := 1
    reportedAt := 1
    wallClock := { seconds := 0, nanoseconds := 0 }
    failure := none
  }
  interference := {
    beforeCodec :=
      [.setCodecConfig {
        sps := [0x67, 0x4d, 0, 0x1f]
        pps := [0x68, 0xee]
        profileLevelId := (0x4d, 0, 0x1f) }]
    beforeFrameRate := [.setFrameRate 30 1]
    beforeReceive := []
    beforeEnd := []
  }

/-- The player gets its answer, and reads it. -/
theorem descriptions_on_the_wire_asked :
    let transitions :=
      (liveHandle openConnection (.start openOpening) [] .initial
        [describeInput]).transitions
    transitions.map
          (fun live => live.transition.responses.map Response.status) =
        [[.ok]] ∧
      DescriptionRules standardCrates transitions :=
  ⟨by decide +kernel,
    descriptions_on_the_wire openConnection documented_standardCrates
      openOpening .initial [describeInput]⟩

end CamRtsp.SessionDescription
