import CamRtsp.HandleSteps
import CamRtsp.ParsedRequest
import CamRtsp.ResponseFraming

namespace CamRtsp

open RustText CrlfLines

/-!
# Texts the server puts into responses

Everything the server writes into a header line of its own, addresses, numbers,
nonces, its path and the authority of a request URI, contains no carriage
return.  The CSeq it echoes was a header value of the request.
-/

/-! ## Numbers and addresses -/

/-- The characters of numbers and addresses; `*` stands for no digit. -/
def displayAlphabet : Text :=
  "0123456789abcdef*.:%[]".toList

theorem digitChar_mem_displayAlphabet (digit : Nat) :
    Nat.digitChar digit ∈ displayAlphabet := by
  have everyDigit :
      ∀ value : Fin 16, Nat.digitChar value ∈ displayAlphabet := by
    decide
  by_cases small : digit < 16
  · exact everyDigit ⟨digit, small⟩
  · have isStar : Nat.digitChar digit = '*' := by
      unfold Nat.digitChar
      repeat rw [if_neg (by omega)]
    rw [isStar]
    decide

/-- A number in any base is written with these characters. -/
theorem toDigits_subset (base number : Nat) :
    Nat.toDigits base number ⊆ displayAlphabet := by
  have core
      (fuel number : Nat)
      (digits : Text)
      (within : digits ⊆ displayAlphabet) :
      Nat.toDigitsCore base fuel number digits ⊆ displayAlphabet := by
    induction fuel generalizing number digits with
    | zero =>
        exact within
    | succ fuel inductionHypothesis =>
        have next :
            Nat.digitChar (number % base) :: digits ⊆ displayAlphabet :=
          List.cons_subset.mpr
            ⟨digitChar_mem_displayAlphabet _, within⟩
        rw [Nat.toDigitsCore]
        split
        · exact next
        · exact inductionHypothesis _ _ next
  exact core _ _ _ (List.nil_subset _)

theorem decimal_subset (number : Nat) : decimal number ⊆ displayAlphabet :=
  toDigits_subset 10 number

theorem hex_subset (bytes : Bytes) : hex bytes ⊆ displayAlphabet := by
  intro c member
  simp only [hex, List.mem_flatMap, hexByte, List.mem_cons,
    List.not_mem_nil, or_false] at member
  obtain ⟨byte, _, rfl | rfl⟩ := member
  · exact digitChar_mem_displayAlphabet _
  · exact digitChar_mem_displayAlphabet _

/-- Pieces and separators within an alphabet stay in it together. -/
theorem intercalate_subset
    {alphabet separator : Text}
    {pieces : List Text}
    (separatorWithin : separator ⊆ alphabet)
    (within : ∀ piece ∈ pieces, piece ⊆ alphabet) :
    separator.intercalate pieces ⊆ alphabet := by
  induction pieces with
  | nil =>
      exact List.nil_subset _
  | cons first later inductionHypothesis =>
      cases later with
      | nil =>
          rw [List.intercalate_singleton]
          exact within first (by simp)
      | cons second later =>
          rw [List.intercalate_cons_cons, List.append_subset,
            List.append_subset]
          exact ⟨⟨within first (by simp), separatorWithin⟩,
            inductionHypothesis fun piece member =>
              within piece (by simp [member])⟩

theorem displayOctets_subset (octets : List UInt8) :
    displayOctets octets ⊆ displayAlphabet := by
  apply intercalate_subset (by decide)
  intro piece member
  obtain ⟨octet, _, rfl⟩ := List.mem_map.mp member
  exact decimal_subset _

theorem displaySegments_subset (segments : List UInt16) :
    displaySegments segments ⊆ displayAlphabet := by
  apply intercalate_subset (by decide)
  intro piece member
  obtain ⟨segment, _, rfl⟩ := List.mem_map.mp member
  exact toDigits_subset 16 _

theorem ipDisplay_subset (address : IpAddr) :
    address.display ⊆ displayAlphabet := by
  cases address with
  | v4 octets =>
      exact displayOctets_subset _
  | v6 segments =>
      unfold IpAddr.display
      simp only
      split
      · rw [List.append_subset]
        exact ⟨by decide, displayOctets_subset _⟩
      · split
        · rw [List.append_subset, List.append_subset]
          exact ⟨⟨displaySegments_subset _, by decide⟩,
            displaySegments_subset _⟩
        · exact displaySegments_subset _

theorem socketDisplay_subset (address : SocketAddr) :
    address.display ⊆ displayAlphabet := by
  unfold SocketAddr.display
  split
  · rw [List.append_subset, List.cons_subset]
    exact ⟨ipDisplay_subset _, by decide, decimal_subset _⟩
  · have scopeWithin :
        (if address.scopeId = 0 then []
          else '%' :: decimal address.scopeId.toNat : Text) ⊆
            displayAlphabet := by
      split
      · exact List.nil_subset _
      · rw [List.cons_subset]
        exact ⟨by decide, decimal_subset _⟩
    simp only [List.cons_append, List.cons_subset, List.append_subset]
    exact ⟨by decide, ⟨ipDisplay_subset _, scopeWithin⟩,
      by decide, by decide, decimal_subset _⟩

/-- A carriage return is not among these characters. -/
theorem cr_not_mem_of_subset
    {text : Text}
    (within : text ⊆ displayAlphabet) :
    '\r' ∉ text := by
  intro member
  exact absurd (within member) (by decide)

theorem cr_not_mem_hex (bytes : Bytes) : '\r' ∉ hex bytes :=
  cr_not_mem_of_subset (hex_subset bytes)

/-- The texts around the numbers of a transport header. -/
def transportTexts : Text :=
  "RTP/AVP/TCP;unicast;interleaved=client_port=-;server_port=;source=".toList

/-- A transport header consists of fixed texts, numbers and an address. -/
theorem transportHeader_subset (delivery : Delivery) :
    delivery.transportHeader ⊆ transportTexts ++ displayAlphabet := by
  have texts (text : Text) (within : text ⊆ transportTexts) :
      text ⊆ transportTexts ++ displayAlphabet :=
    List.Subset.trans within (List.subset_append_left _ _)
  have shown (text : Text) (within : text ⊆ displayAlphabet) :
      text ⊆ transportTexts ++ displayAlphabet :=
    List.Subset.trans within (List.subset_append_right _ _)
  have hyphen : '-' ∈ transportTexts ++ displayAlphabet :=
    List.mem_append_left _ (by decide)
  cases delivery with
  | tcp rtpChannel rtcpChannel =>
      unfold Delivery.transportHeader
      rw [List.append_subset, List.append_subset, List.cons_subset]
      exact ⟨⟨texts _ (by decide), shown _ (decimal_subset _)⟩, hyphen,
        shown _ (decimal_subset _)⟩
  | udp rtp rtcp clientRtp clientRtcp =>
      unfold Delivery.transportHeader
      rw [List.append_subset, List.append_subset, List.append_subset,
        List.append_subset, List.append_subset, List.append_subset,
        List.append_subset, List.cons_subset, List.cons_subset]
      exact ⟨⟨⟨⟨⟨⟨⟨texts _ (by decide), shown _ (decimal_subset _)⟩, hyphen,
        shown _ (decimal_subset _)⟩, texts _ (by decide)⟩,
        shown _ (decimal_subset _)⟩, hyphen, shown _ (decimal_subset _)⟩,
        texts _ (by decide)⟩, shown _ (ipDisplay_subset _)⟩

theorem cr_not_mem_transportHeader (delivery : Delivery) :
    '\r' ∉ delivery.transportHeader := by
  intro member
  exact absurd (transportHeader_subset delivery member) (by decide)

/-! ## The path and the request -/

/-- A valid path consists of visible ASCII characters. -/
theorem cr_not_mem_path
    {path : Text}
    (valid : validPath path = true) :
    '\r' ∉ path := by
  intro member
  simp only [validPath, Bool.and_eq_true, List.all_eq_true] at valid
  have encoded : (13 : UInt8) ∈ toUtf8 path :=
    List.mem_flatMap.mpr ⟨'\r', member, by decide⟩
  have graphic := valid.1.2 13 encoded
  exact absurd graphic (by decide)

/-! ## Header lines -/

section HeaderLines

variable {connection : Connection}

/-- The authority of a parsed URI and the valid path are clean. -/
theorem cr_not_mem_contentBase
    {uri : Text}
    (isWord : IsWord uri) :
    '\r' ∉ contentBase connection uri := by
  have pathClean :
      '\r' ∉ trimEndMatches '/' connection.server.path := by
    intro member
    exact cr_not_mem_path connection.server.pathValid
      ((List.rdropWhile_prefix _ _).subset member)
  unfold contentBase
  simp only
  split
  · rename_i rest stripped
    have uriClean := cr_not_mem_word isWord
    rw [stripPrefix_eq_some_iff.mp stripped, List.mem_append,
      not_or] at uriClean
    have authorityClean :
        '\r' ∉ (rest.takeWhile (· != '/')).rtakeWhile (· != '@') := by
      intro member
      exact uriClean.2
        ((List.takeWhile_prefix _).subset
          ((List.rtakeWhile_suffix _ _).subset member))
    rw [List.mem_append, List.mem_append, not_or, not_or]
    exact ⟨⟨by decide, authorityClean⟩, pathClean⟩
  · rw [List.mem_append, List.mem_append, not_or, not_or]
    exact ⟨⟨by decide, cr_not_mem_of_subset (socketDisplay_subset _)⟩,
      pathClean⟩

theorem headerLine_session :
    HeaderLine connection.sessionHeader :=
  headerLine_append "Session: ".toList (by decide) (by decide)
    (cr_not_mem_hex _)

theorem headerLine_transport (delivery : Delivery) :
    HeaderLine ("Transport: ".toList ++ delivery.transportHeader) :=
  headerLine_append "Transport: ".toList (by decide) (by decide)
    (cr_not_mem_transportHeader delivery)

theorem headerLine_publicMethods : HeaderLine publicMethods :=
  headerLine_of_names (by decide) (by decide)

theorem headerLine_range : HeaderLine "Range: npt=now-".toList :=
  headerLine_of_names (by decide) (by decide)

theorem headerLine_retryAfter : HeaderLine "Retry-After: 1".toList :=
  headerLine_of_names (by decide) (by decide)

/-- The challenges are header lines whenever the nonce is clean. -/
theorem headerLine_of_mem_challenges
    {nonce line : Text}
    (clean : '\r' ∉ nonce)
    (member : line ∈ challenges nonce) :
    HeaderLine line := by
  have digest
      (algorithm : Text)
      (algorithmClean : '\r' ∉ algorithm) :
      HeaderLine
        ("WWW-Authenticate: Digest realm=\"camrtsp\", nonce=\"".toList ++
          nonce ++ "\", algorithm=".toList ++ algorithm ++
          ", qop=\"auth\"".toList) := by
    rw [List.append_assoc, List.append_assoc, List.append_assoc]
    apply headerLine_append _ (by decide) (by decide)
    simp only [List.mem_append, not_or]
    exact ⟨clean, by decide, algorithmClean, by decide⟩
  simp only [challenges, List.mem_cons, List.not_mem_nil, or_false]
    at member
  rcases member with isSha | isMd5 | isBasic
  · rw [isSha]
    exact digest "SHA-256".toList (by decide)
  · rw [isMd5]
    exact digest "MD5".toList (by decide)
  · rw [isBasic]
    exact headerLine_of_names (by decide) (by decide)

/-- The lines of a description answer to a parsed request. -/
theorem headerLine_of_mem_description
    {iteration : Iteration}
    {request : Request}
    (parsed : request.Parsed)
    {codec : CodecConfig}
    {line : Text}
    (member :
      line ∈ (description connection iteration request codec).headers) :
    HeaderLine line := by
  simp only [description, List.mem_cons, List.not_mem_nil, or_false]
    at member
  rcases member with isType | isBase
  · rw [isType]
    exact headerLine_of_names (by decide) (by decide)
  · rw [isBase, List.append_assoc]
    apply headerLine_append _ (by decide) (by decide)
    rw [List.mem_append, not_or]
    exact ⟨cr_not_mem_contentBase parsed.uri, by decide⟩

end HeaderLines

/-! ## Responses -/

section Responses

variable {connection : Connection}
variable {iteration : Iteration}
variable {session : Session}
variable {request : Request}
variable {handled : Handled}

/-- An answer under clean header lines is clean. -/
theorem clean_of_mem_answer
    (parsed : request.Parsed)
    {status : Status}
    {headers : List Text}
    (headerLines : ∀ line ∈ headers, HeaderLine line)
    {flow : Flow}
    {reply : Response}
    (member :
      .response reply ∈
        (answer session request status headers flow).sends) :
    reply.Clean := by
  simp only [answer, List.mem_singleton, Send.response.injEq] at member
  rw [member]
  exact {
    cseqFree := parsed.cseq.2
    cseqTrimmed := parsed.cseq.1
    headerLines := headerLines
  }

theorem Dispatched.clean
    (dispatched :
      Dispatched connection iteration session request handled)
    (parsed : request.Parsed)
    {reply : Response}
    (member : .response reply ∈ handled.sends) :
    reply.Clean := by
  cases dispatched with
  | options _ =>
      refine clean_of_mem_answer parsed ?_ member
      simpa using headerLine_publicMethods
  | described _ codec _ =>
      simp only [List.mem_singleton, Send.response.injEq] at member
      rw [member]
      exact {
        cseqFree := parsed.cseq.2
        cseqTrimmed := parsed.cseq.1
        headerLines := fun line => headerLine_of_mem_description parsed
      }
  | unavailable _ _ =>
      refine clean_of_mem_answer parsed ?_ member
      simpa using headerLine_retryAfter
  | setUp _ _ _ _ selected _ =>
      refine clean_of_mem_answer parsed ?_ member
      intro line isLine
      rcases List.mem_cons.mp isLine with isTransport | isSession
      · rw [isTransport]
        exact headerLine_transport selected
      · rw [List.mem_singleton.mp isSession]
        exact headerLine_session
  | setUpFailed _ _ _ =>
      cases member
  | unsupported _ _ =>
      exact clean_of_mem_answer parsed (by simp) member
  | played _ _ =>
      refine clean_of_mem_answer parsed ?_ member
      intro line isLine
      rcases List.mem_cons.mp isLine with isSession | isRange
      · rw [isSession]
        exact headerLine_session
      · rw [List.mem_singleton.mp isRange]
        exact headerLine_range
  | paused _ _ =>
      refine clean_of_mem_answer parsed ?_ member
      simpa using headerLine_session
  | parameters _ =>
      refine clean_of_mem_answer parsed ?_ member
      simpa using headerLine_session
  | tornDown _ delivery _ =>
      rcases List.mem_append.mp member with inAnswer | isBye
      · refine clean_of_mem_answer parsed ?_ inAnswer
        simpa using headerLine_session
      · cases List.mem_singleton.mp isBye
  | notValid =>
      exact clean_of_mem_answer parsed (by simp) member

/-- The nonce in the state is written without a carriage return. -/
def Session.NonceClean (session : Session) : Prop :=
  '\r' ∉ session.auth.nonce

theorem renewed_clean
    (clean : session.NonceClean) :
    '\r' ∉ (renewed iteration session.auth).nonce := by
  unfold renewed
  split
  · exact cr_not_mem_hex _
  · exact clean

/-- Serving a request leaves a clean nonce. -/
theorem Served.nonceClean
    (served : Served connection iteration session request handled)
    (clean : session.NonceClean) :
    handled.session.NonceClean := by
  cases served with
  | unauthorized _ _ =>
      exact renewed_clean clean
  | refused _ _ _ =>
      exact clean
  | admitted _ dispatched =>
      cases dispatched <;> exact clean

/-- A parsed request gets clean responses. -/
theorem Served.clean
    (served : Served connection iteration session request handled)
    (parsed : request.Parsed)
    (nonceClean : session.NonceClean)
    {reply : Response}
    (member : .response reply ∈ handled.sends) :
    reply.Clean := by
  cases served with
  | unauthorized _ _ =>
      exact clean_of_mem_answer parsed
        (fun line => headerLine_of_mem_challenges (renewed_clean nonceClean))
        member
  | refused _ _ _ =>
      exact clean_of_mem_answer parsed (by simp) member
  | admitted _ dispatched =>
      exact dispatched.clean parsed member

end Responses

end CamRtsp
