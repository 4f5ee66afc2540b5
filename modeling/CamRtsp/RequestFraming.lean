import CamRtsp.Request

namespace CamRtsp

open RustText CrlfLines IncrementalFraming

/-!
# Request framing is independent of TCP segmentation

`takeRequest` only ever looks at a prefix of the buffer that is already
complete, or waits.  The one exception is the size limit on an unterminated
header block; a terminator that arrives later lies behind the limit, so the
request is then rejected for its size instead.
-/

/-- A header block that ends behind the limit has no acceptable size. -/
theorem requestTotal_eq_none
    {headerEnd bodyLength : Nat}
    (large : maxRequestBytes < headerEnd) :
    requestTotal headerEnd bodyLength = none := by
  simp only [requestTotal, checkedAdd]
  split
  · simp only [Option.filter]
    simp
    omega
  · rfl

/-- An acceptable size covers the header block and is within the limit. -/
theorem requestTotal_some
    {headerEnd bodyLength total : Nat}
    (sized : requestTotal headerEnd bodyLength = some total) :
    total = headerEnd + bodyLength ∧ total ≤ maxRequestBytes := by
  simp only [requestTotal, checkedAdd, Option.filter_eq_some_iff,
    decide_eq_true_eq] at sized
  obtain ⟨sum, bound⟩ := sized
  split at sum
  · cases sum
    exact ⟨rfl, bound⟩
  · cases sum

/-- A complete header block is answered by `takeHeaders`. -/
theorem takeText_of_position
    {input : Bytes}
    {stop : Nat}
    (found : position (blankLine 13 10) input = some stop) :
    takeText input = takeHeaders input (stop + 4) := by
  simp only [takeText, found]

/-- Without one, only the size of the buffer matters. -/
theorem takeText_of_no_position
    {input : Bytes}
    (absent : position (blankLine 13 10) input = none) :
    takeText input =
      if maxRequestBytes ≤ input.length then
        .error (invalidData "RTSP headers too large")
      else
        .ok (none, input) := by
  simp only [takeText, absent]

/-- A header block that ends behind the limit is always rejected. -/
theorem takeHeaders_too_large
    {input : Bytes}
    {headerEnd : Nat}
    (large : maxRequestBytes < headerEnd) :
    ∃ error, takeHeaders input headerEnd = .error error := by
  simp only [takeHeaders]
  split
  · exact ⟨_, rfl⟩
  · split
    · exact ⟨_, rfl⟩
    · rw [requestTotal_eq_none large]
      exact ⟨_, rfl⟩

/-- The next answer of `takeHeaders`, by what decides it. -/
inductive HeadersAnswer (input : Bytes) (headerEnd : Nat) :
    Except IoError (Option Request × Bytes) → Prop where
  | rejected (error : IoError) :
      (∀ later,
        headerEnd ≤ input.length →
        takeHeaders (input ++ later) headerEnd = .error error) →
      HeadersAnswer input headerEnd (.error error)
  | waiting (total : Nat) :
      input.length < total →
      total ≤ maxRequestBytes →
      HeadersAnswer input headerEnd (.ok (none, input))
  | parsed (headers : Text) (bodySize total : Nat) (request : Request) :
      fromUtf8 (input.take headerEnd) = some headers →
      bodyLength headers = some bodySize →
      total = headerEnd + bodySize →
      total ≤ maxRequestBytes →
      total ≤ input.length →
      parseRequest headers = .ok request →
      HeadersAnswer input headerEnd
        (.ok (some request, input.drop total))

/-- Every answer of `takeHeaders` is one of the three. -/
theorem headersAnswer (input : Bytes) (headerEnd : Nat) :
    HeadersAnswer input headerEnd (takeHeaders input headerEnd) := by
  have stillTaken
      (later : Bytes)
      (complete : headerEnd ≤ input.length) :
      (input ++ later).take headerEnd = input.take headerEnd :=
    List.take_append_of_le_length complete
  cases decoded : fromUtf8 (input.take headerEnd) with
  | none =>
      simp only [takeHeaders, decoded]
      refine .rejected _ fun later complete => ?_
      simp only [takeHeaders, stillTaken later complete, decoded]
  | some headers =>
      cases announced : bodyLength headers with
      | none =>
          simp only [takeHeaders, decoded, announced]
          refine .rejected _ fun later complete => ?_
          simp only [takeHeaders, stillTaken later complete, decoded,
            announced]
      | some bodySize =>
          cases sized : requestTotal headerEnd bodySize with
          | none =>
              simp only [takeHeaders, decoded, announced, sized]
              refine .rejected _ fun later complete => ?_
              simp only [takeHeaders, stillTaken later complete,
                decoded, announced, sized]
          | some total =>
              obtain ⟨totalEq, bound⟩ := requestTotal_some sized
              by_cases incomplete : input.length < total
              · simp only [takeHeaders, decoded, announced, sized,
                  incomplete, ↓reduceIte]
                exact .waiting total incomplete bound
              · have complete : total ≤ input.length :=
                  Nat.not_lt.mp incomplete
                cases parse : parseRequest headers with
                | error error =>
                    simp only [takeHeaders, decoded, announced,
                      sized, incomplete, ↓reduceIte, parse,
                      Except.map]
                    refine .rejected _ fun later _ => ?_
                    have stillComplete :
                        ¬ (input ++ later).length < total := by
                      simp only [List.length_append]
                      omega
                    simp only [takeHeaders,
                      stillTaken later (by omega), decoded,
                      announced, sized, stillComplete,
                      ↓reduceIte, parse, Except.map]
                | ok request =>
                    simp only [takeHeaders, decoded, announced,
                      sized, incomplete, ↓reduceIte, parse,
                      Except.map]
                    exact .parsed headers bodySize total request
                      decoded announced totalEq bound complete parse

/-- More bytes never turn a text error into an acceptance. -/
theorem takeText_error_append
    {input : Bytes}
    {error : IoError}
    (taken : takeText input = .error error)
    (later : Bytes) :
    ∃ laterError, takeText (input ++ later) = .error laterError := by
  cases found : position (blankLine 13 10) input with
  | some stop =>
      obtain ⟨_, bound⟩ := position_some found
      have complete : stop + 4 ≤ input.length := bound
      rw [takeText_of_position found] at taken
      rw [takeText_of_position (position_append_of_some found later)]
      have answer := headersAnswer input (stop + 4)
      rw [taken] at answer
      cases answer with
      | rejected _ persists =>
          exact ⟨error, persists later complete⟩
  | none =>
      rw [takeText_of_no_position found] at taken
      by_cases large : maxRequestBytes ≤ input.length
      · cases laterFound : position (blankLine 13 10) (input ++ later) with
        | none =>
            have stillLarge :
                maxRequestBytes ≤ (input ++ later).length := by
              simp only [List.length_append]
              omega
            rw [takeText_of_no_position laterFound, if_pos stillLarge]
            exact ⟨_, rfl⟩
        | some stop =>
            have behind := length_lt_of_position_append found laterFound
            rw [takeText_of_position laterFound]
            apply takeHeaders_too_large
            simp only [blankLine, List.length_cons,
              List.length_nil] at behind
            omega
      · rw [if_neg large] at taken
        cases taken

/-- A request read from text, with what is left behind its body. -/
inductive TextRequest (input : Bytes) : Request → Bytes → Prop where
  | mk
      (headers : Text)
      (stop bodySize total : Nat)
      (request : Request)
      (found : position (blankLine 13 10) input = some stop)
      (decoded : fromUtf8 (input.take (stop + 4)) = some headers)
      (announced : bodyLength headers = some bodySize)
      (totalEq : total = stop + 4 + bodySize)
      (limit : total ≤ maxRequestBytes)
      (inside : total ≤ input.length)
      (parse : parseRequest headers = .ok request) :
      TextRequest input request (input.drop total)

/-- Every request that `takeText` yields is read so. -/
theorem textRequest_of_takeText
    {input rest : Bytes}
    {request : Request}
    (taken : takeText input = .ok (some request, rest)) :
    TextRequest input request rest := by
  cases found : position (blankLine 13 10) input with
  | none =>
      rw [takeText_of_no_position found] at taken
      split at taken <;> cases taken
  | some stop =>
      rw [takeText_of_position found] at taken
      have answer := headersAnswer input (stop + 4)
      rw [taken] at answer
      generalize shape :
        (.ok (some request, rest) :
          Except IoError (Option Request × Bytes)) = result at answer
      cases answer with
      | rejected =>
          cases shape
      | waiting =>
          cases shape
      | parsed headers bodySize total parsedRequest decoded announced
          totalEq limit inside parse =>
          cases shape
          exact .mk headers stop bodySize total request found decoded
            announced totalEq limit inside parse

/-- A text request stays one, whatever follows. -/
theorem takeText_message_append
    {input rest : Bytes}
    {request : Request}
    (taken : takeText input = .ok (some request, rest))
    (later : Bytes) :
    takeText (input ++ later) = .ok (some request, rest ++ later) := by
  obtain ⟨headers, stop, bodySize, total, request, found, decoded,
    announced, totalEq, limit, inside, parse⟩ :=
    textRequest_of_takeText taken
  have complete : stop + 4 ≤ input.length := (position_some found).2
  have stillTaken :
      (input ++ later).take (stop + 4) = input.take (stop + 4) :=
    List.take_append_of_le_length complete
  have sized : requestTotal (stop + 4) bodySize = some total := by
    have limits : maxRequestBytes < usizeBound := by decide
    have fits : total < usizeBound := by omega
    simp [requestTotal, checkedAdd, ← totalEq, fits, limit]
  have stillComplete : ¬ (input ++ later).length < total := by
    simp only [List.length_append]
    omega
  rw [takeText_of_position (position_append_of_some found later)]
  simp only [takeHeaders, stillTaken, decoded, announced, sized,
    stillComplete, ↓reduceIte, parse, Except.map]
  rw [List.drop_append_of_le_length inside]

/-- Waiting for more text consumes nothing. -/
theorem takeText_pending
    {input rest : Bytes}
    (taken : takeText input = .ok (none, rest)) :
    rest = input ∧ input.length < maxRequestBytes := by
  cases found : position (blankLine 13 10) input with
  | none =>
      rw [takeText_of_no_position found] at taken
      split at taken
      · cases taken
      · cases taken
        exact ⟨rfl, by omega⟩
  | some stop =>
      rw [takeText_of_position found] at taken
      have answer := headersAnswer input (stop + 4)
      rw [taken] at answer
      generalize shape :
        (.ok (none, rest) :
          Except IoError (Option Request × Bytes)) = result at answer
      cases answer with
      | rejected =>
          cases shape
      | waiting total incomplete limit =>
          cases shape
          exact ⟨rfl, by omega⟩
      | parsed =>
          cases shape

/-- A text request removes at least its header block. -/
theorem takeText_consumes
    {input rest : Bytes}
    {request : Request}
    (taken : takeText input = .ok (some request, rest)) :
    rest.length < input.length := by
  obtain ⟨_, _, _, _, _, _, _, _, totalEq, _, inside, _⟩ :=
    textRequest_of_takeText taken
  simp only [List.length_drop]
  omega

/-- The end of a frame is read from bytes that are already present. -/
theorem frameEnd_append
    {input : Bytes}
    (headerPresent : 4 ≤ input.length)
    (later : Bytes) :
    frameEnd (input ++ later) = frameEnd input := by
  have dropped :
      (input ++ later).drop 2 = input.drop 2 ++ later :=
    List.drop_append_of_le_length (by omega)
  have taken :
      (input.drop 2 ++ later).take 2 = (input.drop 2).take 2 :=
    List.take_append_of_le_length (by
      simp only [List.length_drop]
      omega)
  simp only [frameEnd, dropped, taken]

/-- Without a leading `$`, the buffer holds text. -/
theorem takeRequest_text
    {input : Bytes}
    (text : input.head? ≠ some dollar) :
    takeRequest input = takeText input := by
  rw [takeRequest, if_neg text]

/-- A complete frame of acceptable size is skipped. -/
theorem takeRequest_frame
    {input : Bytes}
    (framed : input.head? = some dollar)
    (headerPresent : 4 ≤ input.length)
    (limit : frameEnd input ≤ maxRequestBytes)
    (complete : frameEnd input ≤ input.length) :
    takeRequest input = takeRequest (input.drop (frameEnd input)) := by
  rw [takeRequest, if_pos framed, dif_neg (by omega),
    if_neg (by omega), if_neg (by omega)]

/-- Appending to a non-empty buffer keeps its first byte. -/
theorem head?_append_of_ne_nil
    {input : Bytes}
    (nonempty : input ≠ [])
    (later : Bytes) :
    (input ++ later).head? = input.head? := by
  cases input with
  | nil =>
      exact (nonempty rfl).elim
  | cons first rest =>
      rfl

/-- Induction over the frames that are skipped before a yielded request. -/
theorem takeRequest_induction
    {rest : Bytes}
    {request : Request}
    {motive : Bytes → Prop}
    (atText :
      ∀ input, input.head? ≠ some dollar →
        takeText input = .ok (some request, rest) → motive input)
    (atFrame :
      ∀ input, input.head? = some dollar → ¬ input.length < 4 →
        ¬ maxRequestBytes < frameEnd input →
          ¬ input.length < frameEnd input →
            motive (input.drop (frameEnd input)) → motive input)
    {input : Bytes}
    (taken : takeRequest input = .ok (some request, rest)) :
    motive input := by
  induction input using takeRequest.induct with
  | case1 input framed short =>
      rw [takeRequest, if_pos framed, dif_pos short] at taken
      cases taken
  | case2 input framed long large =>
      rw [takeRequest, if_pos framed, dif_neg long,
        if_pos large] at taken
      cases taken
  | case3 input framed long small incomplete =>
      rw [takeRequest, if_pos framed, dif_neg long, if_neg small,
        if_pos incomplete] at taken
      cases taken
  | case4 input framed long small complete inductionHypothesis =>
      rw [takeRequest, if_pos framed, dif_neg long, if_neg small,
        if_neg complete] at taken
      exact atFrame input framed long small complete
        (inductionHypothesis taken)
  | case5 input text =>
      rw [takeRequest_text text] at taken
      exact atText input text taken

/-- A yielded request comes from the text behind some skipped frames. -/
theorem takeText_of_takeRequest
    {input rest : Bytes}
    {request : Request}
    (taken : takeRequest input = .ok (some request, rest)) :
    ∃ text, text <:+ input ∧
      takeText text = .ok (some request, rest) := by
  refine takeRequest_induction
    (motive := fun input =>
      ∃ text, text <:+ input ∧ takeText text = .ok (some request, rest))
    ?_ ?_ taken
  · intro input _ textTaken
    exact ⟨input, List.suffix_refl _, textTaken⟩
  · intro input _ _ _ _ behindFrame
    obtain ⟨text, behind, textTaken⟩ := behindFrame
    exact ⟨text, behind.trans (List.drop_suffix _ _), textTaken⟩

/-- A yielded request consumes at least its header block. -/
theorem takeRequest_consumes
    {input rest : Bytes}
    {request : Request}
    (taken : takeRequest input = .ok (some request, rest)) :
    rest.length < input.length := by
  obtain ⟨text, behind, textTaken⟩ := takeText_of_takeRequest taken
  exact Nat.lt_of_lt_of_le (takeText_consumes textTaken)
    behind.length_le

/-- `take_request` as a framing parser. -/
def requestParser :
    IncrementalFraming.Parser UInt8 Request IoError where
  take := takeRequest
  consumes := takeRequest_consumes

/-- The answer to a buffer is still the answer when more bytes follow. -/
inductive AnswerKept (input : Bytes) : Prop where
  | pending
      (rest : Bytes)
      (taken : takeRequest input = .ok (none, rest))
      (bound : rest.length < maxRequestBytes)
      (persists :
        ∀ later,
          takeRequest (input ++ later) = takeRequest (rest ++ later))
  | error
      (error : IoError)
      (taken : takeRequest input = .error error)
      (persists :
        ∀ later, ∃ laterError,
          takeRequest (input ++ later) = .error laterError)
  | message
      (request : Request)
      (rest : Bytes)
      (taken : takeRequest input = .ok (some request, rest))
      (persists :
        ∀ later,
          takeRequest (input ++ later) =
            .ok (some request, rest ++ later))

/-- A frame that is too large is refused before it is complete. -/
theorem takeRequest_large_frame
    {input : Bytes}
    (framed : input.head? = some dollar)
    (headerPresent : 4 ≤ input.length)
    (large : maxRequestBytes < frameEnd input) :
    ∃ error, takeRequest input = .error error := by
  rw [takeRequest, if_pos framed, dif_neg (Nat.not_lt.mpr headerPresent),
    if_pos large]
  exact ⟨_, rfl⟩

/-- A complete frame is skipped, whatever follows it. -/
theorem takeRequest_frame_append
    {input : Bytes}
    (framed : input.head? = some dollar)
    (headerPresent : 4 ≤ input.length)
    (small : frameEnd input ≤ maxRequestBytes)
    (complete : frameEnd input ≤ input.length)
    (later : Bytes) :
    takeRequest (input ++ later) =
      takeRequest (input.drop (frameEnd input) ++ later) := by
  have nonempty : input ≠ [] := by
    rintro rfl
    simp at framed
  have sameEnd : frameEnd (input ++ later) = frameEnd input :=
    frameEnd_append headerPresent later
  rw [takeRequest_frame, sameEnd, List.drop_append_of_le_length complete]
  · exact (head?_append_of_ne_nil nonempty later).trans framed
  · simp only [List.length_append]
    omega
  · rw [sameEnd]
    exact small
  · rw [sameEnd, List.length_append]
    omega

/-- Text at the front of the buffer keeps its answer. -/
theorem answerKept_of_text
    {input : Bytes}
    (text : input.head? ≠ some dollar) :
    AnswerKept input := by
  by_cases nonempty : input = []
  · subst input
    refine .pending [] ?_ (by decide) fun _ => rfl
    rw [takeRequest_text text]
    rfl
  · have stillText
        (later : Bytes) :
        takeRequest (input ++ later) = takeText (input ++ later) :=
      takeRequest_text (by
        rw [head?_append_of_ne_nil nonempty]
        exact text)
    cases taken : takeText input with
    | error error =>
        refine .error error ?_ fun later => ?_
        · rw [takeRequest_text text, taken]
        · rw [stillText]
          exact takeText_error_append taken later
    | ok answer =>
        obtain ⟨message, rest⟩ := answer
        cases message with
        | none =>
            obtain ⟨rfl, bound⟩ := takeText_pending taken
            refine .pending rest ?_ bound fun _ => rfl
            rw [takeRequest_text text, taken]
        | some request =>
            refine .message request rest ?_ fun later => ?_
            · rw [takeRequest_text text, taken]
            · rw [stillText]
              exact takeText_message_append taken later

/--
One induction over the skipped frames: either a short frame is still awaited
and the rest of the buffer decides, or the text behind the frames does.
-/
theorem answerKept (input : Bytes) : AnswerKept input := by
  induction input using takeRequest.induct with
  | case1 input framed short =>
      refine .pending input ?_ ?_ fun _ => rfl
      · rw [takeRequest, if_pos framed, dif_pos short]
      · simp only [maxRequestBytes]
        omega
  | case2 input framed long large =>
      have headerPresent : 4 ≤ input.length := Nat.not_lt.mp long
      have nonempty : input ≠ [] := by
        rintro rfl
        simp at framed
      obtain ⟨error, taken⟩ :=
        takeRequest_large_frame framed headerPresent large
      refine .error error taken fun later => ?_
      apply takeRequest_large_frame
      · exact (head?_append_of_ne_nil nonempty later).trans framed
      · simp only [List.length_append]
        omega
      · rw [frameEnd_append headerPresent]
        exact large
  | case3 input framed long small incomplete =>
      refine .pending input ?_ (by omega) fun _ => rfl
      rw [takeRequest, if_pos framed, dif_neg long, if_neg small,
        if_pos incomplete]
  | case4 input framed long small complete inductionHypothesis =>
      have skipped :=
        takeRequest_frame_append framed (Nat.not_lt.mp long)
          (Nat.not_lt.mp small) (Nat.not_lt.mp complete)
      have here := skipped []
      simp only [List.append_nil] at here
      cases inductionHypothesis with
      | pending rest taken bound persists =>
          exact .pending rest (here.trans taken) bound
            fun later => (skipped later).trans (persists later)
      | error error taken persists =>
          refine .error error (here.trans taken) fun later => ?_
          rw [skipped]
          exact persists later
      | message request rest taken persists =>
          exact .message request rest (here.trans taken)
            fun later => (skipped later).trans (persists later)
  | case5 input text =>
      exact answerKept_of_text text

/-- More bytes never change an answer of `take_request`. -/
theorem requestParser_prefixStable :
    requestParser.PrefixStable where
  message := by
    intro input request rest taken later
    cases answerKept input with
    | pending _ pending _ _ =>
        exact absurd (taken.symm.trans pending) (by simp)
    | error _ failed _ =>
        exact absurd (taken.symm.trans failed) (by simp)
    | message _ _ yielded persists =>
        obtain ⟨rfl, rfl⟩ : request = _ ∧ rest = _ := by
          simpa using taken.symm.trans yielded
        exact persists later
  error := by
    intro input error taken later
    cases answerKept input with
    | pending _ pending _ _ =>
        exact absurd (taken.symm.trans pending) (by simp)
    | error _ _ persists =>
        exact persists later
    | message _ _ yielded _ =>
        exact absurd (taken.symm.trans yielded) (by simp)
  pending := by
    intro input rest taken later
    cases answerKept input with
    | pending _ pending _ persists =>
        obtain rfl : rest = _ := by
          simpa using taken.symm.trans pending
        exact persists later
    | error _ failed _ =>
        exact absurd (taken.symm.trans failed) (by simp)
    | message _ _ yielded _ =>
        exact absurd (taken.symm.trans yielded) (by simp)

/-! ## The read discipline -/

/-- The bytes one call of `readControl` takes from the socket. -/
def bytesRead (read : ReadOutcome) (input : Bytes) : Bytes :=
  match takeRequest input, read with
  | .ok (none, _), .received bytes _ => bytes
  | _, _ => []

/-- Successive calls of `readControl`. -/
def controlCalls (input : Bytes) :
    List ReadOutcome → Outcome UInt8 Request IoError
  | [] => ([], .ok input)
  | read :: reads =>
      match readControl read input with
      | .error error => ([], .error error)
      | .ok (answer, rest) =>
          prepend answer.toList (controlCalls rest reads)

/-- The bytes successive calls of `readControl` take from the socket. -/
def bytesReadByCalls (input : Bytes) : List ReadOutcome → Bytes
  | [] => []
  | read :: reads =>
      bytesRead read input ++
        match readControl read input with
        | .error _ => []
        | .ok (_, rest) => bytesReadByCalls rest reads

/-- One call hands out the next request of everything received so far. -/
theorem readControl_drain
    {read : ReadOutcome}
    {input rest : Bytes}
    {answer : Option Request}
    (called : readControl read input = .ok (answer, rest)) :
    requestParser.drain (input ++ bytesRead read input) =
      prepend answer.toList (requestParser.drain rest) := by
  have answered
      {buffer : Bytes}
      (taken : takeRequest buffer = .ok (answer, rest)) :
      requestParser.drain buffer =
        prepend answer.toList (requestParser.drain rest) := by
    cases answer with
    | none =>
        have again := requestParser_prefixStable.pending taken []
        simp only [List.append_nil] at again
        rw [Parser.drain_congr again]
        rfl
    | some request =>
        exact Parser.drain_message taken
  unfold readControl at called
  unfold bytesRead
  cases taken : takeRequest input with
  | error error =>
      simp [taken] at called
  | ok result =>
      obtain ⟨message, unread⟩ := result
      cases message with
      | some request =>
          simp only [taken, Except.ok.injEq, Prod.mk.injEq] at called
          obtain ⟨rfl, rfl⟩ := called
          simpa using answered taken
      | none =>
          cases read with
          | received bytes fits =>
              cases bytes with
              | nil =>
                  simp [taken] at called
              | cons byte bytes =>
                  simp only [taken] at called
                  rw [Parser.drain_congr
                    (requestParser_prefixStable.pending taken _)]
                  exact answered called
          | failed error =>
              simp only [taken] at called
              split at called
              · simp only [Except.ok.injEq, Prod.mk.injEq] at called
                obtain ⟨rfl, rfl⟩ := called
                simpa using answered taken
              · cases called

/--
While no call fails, the requests handed out and those still in the buffer are
the requests of the received bytes.
-/
theorem controlCalls_drain
    {input rest : Bytes}
    {reads : List ReadOutcome}
    {requests : List Request}
    (called : controlCalls input reads = (requests, .ok rest)) :
    SameOutcome
      (requestParser.drain (input ++ bytesReadByCalls input reads))
      (prepend requests (requestParser.drain rest)) := by
  induction reads generalizing input requests with
  | nil =>
      simp only [controlCalls, Prod.mk.injEq, Except.ok.injEq] at called
      obtain ⟨rfl, rfl⟩ := called
      simpa [bytesReadByCalls] using SameOutcome.refl _
  | cons read reads inductionHypothesis =>
      cases step : readControl read input with
      | error error =>
          simp [controlCalls, step] at called
      | ok result =>
          obtain ⟨answer, unread⟩ := result
          simp only [controlCalls, step] at called
          cases more : controlCalls unread reads with
          | mk laterRequests stop =>
              simp only [more, prepend, Prod.mk.injEq] at called
              obtain ⟨rfl, rfl⟩ := called
              have tail := inductionHypothesis more
              have whole :=
                Parser.drain_append requestParser_prefixStable
                  (input ++ bytesRead read input)
                  (bytesReadByCalls unread reads)
              have unreadWhole :=
                Parser.drain_append requestParser_prefixStable
                  unread (bytesReadByCalls unread reads)
              rw [readControl_drain step] at whole
              simp only [bytesReadByCalls, step]
              rw [← List.append_assoc]
              refine whole.trans ?_
              rw [prepend_append]
              refine SameOutcome.trans ?_
                (tail.prepend answer.toList)
              cases drained : requestParser.drain unread with
              | mk messages stop =>
                  rw [drained] at unreadWhole
                  cases stop with
                  | error error =>
                      exact unreadWhole.symm.prepend answer.toList
                  | ok unconsumed =>
                      simpa [prepend] using
                        unreadWhole.symm.prepend answer.toList

/--
Input framing does not depend on TCP segmentation: two ways of cutting one
byte stream into reads give the same requests, an error for both or neither,
and without an error the same unconsumed bytes; and a request or an error, with
its consumption, survives any bytes that follow.
-/
theorem framing_independent_of_segmentation
    {first second : List Bytes}
    (sameStream : first.flatten = second.flatten) :
    SameOutcome
        (requestParser.feed [] first) (requestParser.feed [] second) ∧
      requestParser.PrefixStable :=
  ⟨Parser.feed_of_flatten_eq requestParser_prefixStable sameStream,
    requestParser_prefixStable⟩

/-- One read and byte-by-byte reads of a request, as in a slow handshake. -/
theorem framing_independent_of_segmentation_single_bytes :
    SameOutcome
        (requestParser.feed []
          [toUtf8 "OPTIONS * RTSP/1.0\r\n\r\n".toList])
        (requestParser.feed []
          ((toUtf8 "OPTIONS * RTSP/1.0\r\n\r\n".toList).map
            fun byte => [byte])) ∧
      requestParser.PrefixStable :=
  framing_independent_of_segmentation (by
    simp only [List.flatten_cons, List.flatten_nil, List.append_nil]
    decide)

end CamRtsp
