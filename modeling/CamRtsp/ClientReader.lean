import CamRtsp.RequestFraming
import CamRtsp.Transport

namespace CamRtsp

open RustText CrlfLines IncrementalFraming

/-!
# How a client reads the control connection

A byte `$` announces an interleaved frame with a channel and a 16-bit length;
anything else is a header block up to the first blank line, followed by as many
body bytes as its first Content-Length header says.
-/

/-- What a client reads off the control connection. -/
inductive ServerMessage where
  | frame (channel : UInt8) (packet : Bytes)
  | response (head : Text) (body : Bytes)
  deriving Repr, DecidableEq

/-- The number of body bytes behind a header block. -/
def announcedLength (head : Text) : Option Nat :=
  match headerValue head "content-length" with
  | none => some 0
  | some value => digitsValue 10 0 value

/-- Read an interleaved frame. -/
def takeFrame (input : Bytes) :
    Except Unit (Option ServerMessage × Bytes) :=
  if input.length < 4 ∨ input.length < frameEnd input then
    .ok (none, input)
  else
    .ok
      (some (.frame ((input.drop 1).headD 0)
        ((input.take (frameEnd input)).drop 4)),
        input.drop (frameEnd input))

/-- Read a response whose header block ends at the given position. -/
def takeBody (input : Bytes) (headEnd : Nat) :
    Except Unit (Option ServerMessage × Bytes) :=
  match fromUtf8 (input.take headEnd) with
  | none => .error ()
  | some head =>
      match announcedLength head with
      | none => .error ()
      | some length =>
          if input.length < headEnd + length then
            .ok (none, input)
          else
            .ok
              (some (.response head ((input.drop headEnd).take length)),
                input.drop (headEnd + length))

/-- Read a response. -/
def takeResponse (input : Bytes) :
    Except Unit (Option ServerMessage × Bytes) :=
  match position (blankLine 13 10) input with
  | none => .ok (none, input)
  | some stop => takeBody input (stop + 4)

/-- Read one message off the front of the buffer. -/
def takeMessage (input : Bytes) :
    Except Unit (Option ServerMessage × Bytes) :=
  if input.head? = some dollar then
    takeFrame input
  else
    takeResponse input

/-! ## Answers do not depend on what follows -/

theorem takeFrame_complete
    {input : Bytes}
    (headerPresent : 4 ≤ input.length)
    (complete : frameEnd input ≤ input.length) :
    takeFrame input =
      .ok
        (some (.frame ((input.drop 1).headD 0)
          ((input.take (frameEnd input)).drop 4)),
          input.drop (frameEnd input)) := by
  rw [takeFrame, if_neg (by omega)]

theorem takeFrame_append
    {input rest : Bytes}
    {message : ServerMessage}
    (taken : takeFrame input = .ok (some message, rest))
    (later : Bytes) :
    takeFrame (input ++ later) = .ok (some message, rest ++ later) := by
  unfold takeFrame at taken
  split at taken
  · cases taken
  · rename_i complete
    rw [not_or, Nat.not_lt, Nat.not_lt] at complete
    obtain ⟨headerPresent, complete⟩ := complete
    have sameEnd : frameEnd (input ++ later) = frameEnd input :=
      frameEnd_append headerPresent later
    have sameChannel :
        ((input ++ later).drop 1).headD 0 = (input.drop 1).headD 0 := by
      rw [List.drop_append_of_le_length (by omega)]
      have nonempty : input.drop 1 ≠ [] := by
        rw [ne_eq, List.drop_eq_nil_iff]
        omega
      obtain ⟨channel, tail, shape⟩ := List.exists_cons_of_ne_nil nonempty
      rw [shape]
      rfl
    cases taken
    rw [takeFrame_complete (by rw [List.length_append]; omega)
        (by rw [sameEnd, List.length_append]; omega),
      sameEnd, sameChannel, List.take_append_of_le_length complete,
      List.drop_append_of_le_length complete]

theorem takeBody_append
    {input rest : Bytes}
    {headEnd : Nat}
    (headPresent : headEnd ≤ input.length)
    {message : ServerMessage}
    (taken : takeBody input headEnd = .ok (some message, rest))
    (later : Bytes) :
    takeBody (input ++ later) headEnd =
      .ok (some message, rest ++ later) := by
  have sameHead :
      (input ++ later).take headEnd = input.take headEnd :=
    List.take_append_of_le_length headPresent
  cases decoded : fromUtf8 (input.take headEnd) with
  | none =>
      simp [takeBody, decoded] at taken
  | some head =>
      cases announced : announcedLength head with
      | none =>
          simp [takeBody, decoded, announced] at taken
      | some length =>
          by_cases incomplete : input.length < headEnd + length
          · simp [takeBody, decoded, announced, incomplete] at taken
          · have stillComplete :
                ¬ (input ++ later).length < headEnd + length := by
              rw [List.length_append]
              omega
            have sameBody :
                ((input ++ later).drop headEnd).take length =
                  (input.drop headEnd).take length := by
              rw [List.drop_append_of_le_length headPresent]
              apply List.take_append_of_le_length
              rw [List.length_drop]
              omega
            simp only [takeBody, decoded, announced, incomplete,
              ↓reduceIte] at taken
            cases taken
            simp only [takeBody, sameHead, decoded, announced,
              stillComplete, ↓reduceIte, sameBody]
            rw [List.drop_append_of_le_length (by omega)]

theorem takeBody_error_append
    {input : Bytes}
    {headEnd : Nat}
    (headPresent : headEnd ≤ input.length)
    {error : Unit}
    (taken : takeBody input headEnd = .error error)
    (later : Bytes) :
    takeBody (input ++ later) headEnd = .error () := by
  have sameHead :
      (input ++ later).take headEnd = input.take headEnd :=
    List.take_append_of_le_length headPresent
  cases decoded : fromUtf8 (input.take headEnd) with
  | none =>
      simp only [takeBody, sameHead, decoded]
  | some head =>
      cases announced : announcedLength head with
      | none =>
          simp only [takeBody, sameHead, decoded, announced]
      | some length =>
          by_cases incomplete : input.length < headEnd + length
          · simp [takeBody, decoded, announced, incomplete] at taken
          · simp [takeBody, decoded, announced, incomplete] at taken

theorem takeResponse_of_position
    {input : Bytes}
    {stop : Nat}
    (found : position (blankLine 13 10) input = some stop) :
    takeResponse input = takeBody input (stop + 4) := by
  simp only [takeResponse, found]

/-- An answer other than waiting comes from a complete header block. -/
theorem exists_headEnd_of_takeResponse
    {input : Bytes}
    (answers : takeResponse input ≠ .ok (none, input)) :
    ∃ headEnd, headEnd ≤ input.length ∧
      takeResponse input = takeBody input headEnd ∧
      ∀ later,
        takeResponse (input ++ later) =
          takeBody (input ++ later) headEnd := by
  cases found : position (blankLine 13 10) input with
  | none =>
      simp [takeResponse, found] at answers
  | some stop =>
      exact ⟨stop + 4, (position_some found).2,
        takeResponse_of_position found,
        fun later =>
          takeResponse_of_position (position_append_of_some found later)⟩

theorem takeResponse_append
    {input rest : Bytes}
    {message : ServerMessage}
    (taken : takeResponse input = .ok (some message, rest))
    (later : Bytes) :
    takeResponse (input ++ later) = .ok (some message, rest ++ later) := by
  have answers : takeResponse input ≠ .ok (none, input) := by
    simp [taken]
  obtain ⟨headEnd, headPresent, now, afterwards⟩ :=
    exists_headEnd_of_takeResponse answers
  rw [now] at taken
  rw [afterwards]
  exact takeBody_append headPresent taken later

theorem takeResponse_error_append
    {input : Bytes}
    {error : Unit}
    (taken : takeResponse input = .error error)
    (later : Bytes) :
    takeResponse (input ++ later) = .error () := by
  have answers : takeResponse input ≠ .ok (none, input) := by
    simp [taken]
  obtain ⟨headEnd, headPresent, now, afterwards⟩ :=
    exists_headEnd_of_takeResponse answers
  rw [now] at taken
  rw [afterwards]
  exact takeBody_error_append headPresent taken later

/-- Waiting consumes nothing. -/
theorem takeMessage_pending
    {input rest : Bytes}
    (taken : takeMessage input = .ok (none, rest)) :
    rest = input := by
  unfold takeMessage at taken
  split at taken
  · unfold takeFrame at taken
    split at taken
    · cases taken
      rfl
    · cases taken
  · unfold takeResponse at taken
    split at taken
    · cases taken
      rfl
    · unfold takeBody at taken
      split at taken
      · cases taken
      · split at taken
        · cases taken
        · split at taken
          · cases taken
            rfl
          · cases taken

/-- A message takes bytes off the buffer. -/
theorem takeMessage_consumes
    {input rest : Bytes}
    {message : ServerMessage}
    (taken : takeMessage input = .ok (some message, rest)) :
    rest.length < input.length := by
  unfold takeMessage at taken
  split at taken
  · unfold takeFrame at taken
    split at taken
    · cases taken
    · rename_i complete
      cases taken
      rw [List.length_drop, frameEnd] at *
      omega
  · unfold takeResponse at taken
    split at taken
    · cases taken
    · rename_i stop found
      have headPresent : stop + 4 ≤ input.length := (position_some found).2
      unfold takeBody at taken
      split at taken
      · cases taken
      · split at taken
        · cases taken
        · split at taken
          · cases taken
          · cases taken
            rw [List.length_drop]
            omega

/-- The client as a framing parser. -/
def messageParser : Parser UInt8 ServerMessage Unit where
  take := takeMessage
  consumes := takeMessage_consumes

/-- What the client has read does not depend on what it reads next. -/
theorem messageParser_prefixStable : messageParser.PrefixStable where
  message := by
    intro input message rest taken later
    change takeMessage input = _ at taken
    change takeMessage (input ++ later) = _
    have nonempty : input ≠ [] := by
      rintro rfl
      have consumed := takeMessage_consumes taken
      simp at consumed
    unfold takeMessage at taken ⊢
    rw [head?_append_of_ne_nil nonempty]
    split at taken
    · rename_i framed
      rw [if_pos framed]
      exact takeFrame_append taken later
    · rename_i text
      rw [if_neg text]
      exact takeResponse_append taken later
  error := by
    intro input error taken later
    change takeMessage input = _ at taken
    change ∃ laterError, takeMessage (input ++ later) = .error laterError
    have nonempty : input ≠ [] := by
      rintro rfl
      cases taken
    unfold takeMessage at taken ⊢
    rw [head?_append_of_ne_nil nonempty]
    split at taken
    · unfold takeFrame at taken
      split at taken <;> cases taken
    · rename_i text
      rw [if_neg text]
      exact ⟨(), takeResponse_error_append taken later⟩
  pending := by
    intro input rest taken later
    rw [takeMessage_pending taken]

/-! ## Complete messages -/

/-- A frame at the front of the buffer is read exactly. -/
theorem takeMessage_interleaved
    (channel : UInt8)
    {packet : Bytes}
    (fits : packet.length < 65536)
    (later : Bytes) :
    takeMessage (interleaved channel packet ++ later) =
      .ok (some (.frame channel packet), later) := by
  have lengthField :
      BigEndian.toBytes 2 packet.length =
        [UInt8.ofNat (packet.length / 256), UInt8.ofNat packet.length] := by
    simp [BigEndian.toBytes]
  have shape :
      interleaved channel packet ++ later =
        dollar :: channel ::
          (BigEndian.toBytes 2 packet.length ++ (packet ++ later)) := by
    rw [lengthField]
    simp [interleaved, dollar]
  have ends :
      frameEnd (interleaved channel packet ++ later) =
        packet.length + 4 := by
    rw [frameEnd, shape, List.drop_succ_cons, List.drop_succ_cons,
      List.drop_zero, List.take_left' (BigEndian.length_toBytes 2 _),
      BigEndian.ofBytes_toBytes_of_lt (by omega), Nat.add_comm]
  have total :
      (interleaved channel packet ++ later).length =
        packet.length + 4 + later.length := by
    simp [interleaved]
    omega
  have framed :
      (interleaved channel packet ++ later).head? = some dollar := by
    rw [shape]
    rfl
  rw [takeMessage, if_pos framed,
    takeFrame_complete (by omega) (by omega), ends]
  simp [interleaved]

end CamRtsp
