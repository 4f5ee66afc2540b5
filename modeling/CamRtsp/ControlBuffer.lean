import CamRtsp.RequestFraming
import CamRtsp.Foundation.PassLoop

namespace CamRtsp

open RustText CrlfLines IncrementalFraming PassLoop

/-!
# The control buffer stays bounded

`readControl` answers a whole call at once.  Here the call is taken apart:
every pass of the loop in `take_request` is a step of its own, and so is the
read from the socket between the two scans.  A client then controls every byte
of every read, and the buffer can be measured in each state in between.
-/

/-! ## One pass of the loop -/

/-- One pass of the loop in `take_request`. -/
def takePass (input : Bytes) :
    Pass Bytes (Except IoError (Option Request × Bytes)) :=
  if input.head? = some dollar then
    if input.length < 4 then
      .done (.ok (none, input))
    else if maxRequestBytes < frameEnd input then
      .done (.error (invalidData "interleaved frame too large"))
    else if input.length < frameEnd input then
      .done (.ok (none, input))
    else
      .again (input.drop (frameEnd input))
  else
    .done (takeText input)

/-- How one pass ends, by the guards that let it get there. -/
inductive PassEnd (input : Bytes) :
    Pass Bytes (Except IoError (Option Request × Bytes)) → Prop where
  | frameHeader
      (framed : input.head? = some dollar)
      (short : input.length < 4) :
      PassEnd input (.done (.ok (none, input)))
  | largeFrame
      (framed : input.head? = some dollar)
      (long : ¬ input.length < 4)
      (large : maxRequestBytes < frameEnd input) :
      PassEnd input
        (.done (.error (invalidData "interleaved frame too large")))
  | frame
      (framed : input.head? = some dollar)
      (long : ¬ input.length < 4)
      (small : ¬ maxRequestBytes < frameEnd input)
      (incomplete : input.length < frameEnd input) :
      PassEnd input (.done (.ok (none, input)))
  | skipped
      (framed : input.head? = some dollar)
      (long : ¬ input.length < 4)
      (small : ¬ maxRequestBytes < frameEnd input)
      (complete : ¬ input.length < frameEnd input) :
      PassEnd input (.again (input.drop (frameEnd input)))
  | text
      (plain : input.head? ≠ some dollar) :
      PassEnd input (.done (takeText input))

/-- Every pass ends in one of these ways. -/
theorem passEnd (input : Bytes) : PassEnd input (takePass input) := by
  unfold takePass
  split
  · rename_i framed
    split
    · rename_i short
      exact .frameHeader framed short
    · rename_i long
      split
      · rename_i large
        exact .largeFrame framed long large
      · rename_i small
        split
        · rename_i incomplete
          exact .frame framed long small incomplete
        · rename_i complete
          exact .skipped framed long small complete
  · rename_i plain
    exact .text plain

/-- What `take_request` can be waiting for. -/
inductive Waiting (input : Bytes) : Prop where
  | frameHeader
      (framed : input.head? = some dollar)
      (short : input.length < 4)
  | frame
      (framed : input.head? = some dollar)
      (small : frameEnd input ≤ maxRequestBytes)
      (incomplete : input.length < frameEnd input)
  | terminator
      (absent : position (blankLine 13 10) input = none)
      (small : input.length < maxRequestBytes)
  | body
      (stop bodySize total : Nat)
      (found : position (blankLine 13 10) input = some stop)
      (sized : requestTotal (stop + 4) bodySize = some total)
      (incomplete : input.length < total)

/-- Each of the four has a guard on the size of the buffer. -/
theorem Waiting.bounded
    {input : Bytes}
    (waiting : Waiting input) :
    input.length < maxRequestBytes := by
  cases waiting with
  | frameHeader framed short =>
      simp only [maxRequestBytes]
      omega
  | frame framed small incomplete =>
      omega
  | terminator absent small =>
      exact small
  | body stop bodySize total found sized incomplete =>
      have limit := (requestTotal_some sized).2
      omega

/-- Behind a header block, only a body can be missing. -/
theorem waiting_of_takeHeaders
    {input rest : Bytes}
    {stop : Nat}
    (found : position (blankLine 13 10) input = some stop)
    (taken : takeHeaders input (stop + 4) = .ok (none, rest)) :
    rest = input ∧ Waiting input := by
  cases decoded : fromUtf8 (input.take (stop + 4)) with
  | none =>
      simp [takeHeaders, decoded] at taken
  | some headers =>
      cases announced : bodyLength headers with
      | none =>
          simp [takeHeaders, decoded, announced] at taken
      | some bodySize =>
          cases sized : requestTotal (stop + 4) bodySize with
          | none =>
              simp [takeHeaders, decoded, announced, sized] at taken
          | some total =>
              simp only [takeHeaders, decoded, announced, sized] at taken
              split at taken
              · rename_i incomplete
                cases taken
                exact ⟨rfl, .body stop bodySize total found sized incomplete⟩
              · cases parse : parseRequest headers <;>
                  simp [parse, Except.map] at taken

/-- Text that is left in the buffer is waited for. -/
theorem waiting_of_takeText
    {input rest : Bytes}
    (taken : takeText input = .ok (none, rest)) :
    rest = input ∧ Waiting input := by
  cases found : position (blankLine 13 10) input with
  | none =>
      rw [takeText_of_no_position found] at taken
      split at taken
      · cases taken
      · rename_i small
        cases taken
        exact ⟨rfl, .terminator found (Nat.not_le.mp small)⟩
  | some stop =>
      rw [takeText_of_position found] at taken
      exact waiting_of_takeHeaders found taken

/-- A pass that ends the scan in vain has left the buffer as it is. -/
theorem waiting_of_done
    {input rest : Bytes}
    (done : takePass input = .done (.ok (none, rest))) :
    rest = input ∧ Waiting input := by
  have ends := passEnd input
  rw [done] at ends
  generalize shape :
    (.ok (none, rest) :
      Except IoError (Option Request × Bytes)) = result at ends
  cases ends with
  | frameHeader framed short =>
      cases shape
      exact ⟨rfl, .frameHeader framed short⟩
  | largeFrame =>
      cases shape
  | frame framed long small incomplete =>
      cases shape
      exact ⟨rfl, .frame framed (Nat.not_lt.mp small) incomplete⟩
  | text =>
      exact waiting_of_takeText shape.symm

/-- A pass that ends the scan gives the answer of `take_request`. -/
theorem takeRequest_of_done
    {input : Bytes}
    {result : Except IoError (Option Request × Bytes)}
    (done : takePass input = .done result) :
    takeRequest input = result := by
  have ends := passEnd input
  rw [done] at ends
  rw [takeRequest]
  cases ends with
  | frameHeader framed short =>
      rw [if_pos framed, dif_pos short]
  | largeFrame framed long large =>
      rw [if_pos framed, dif_neg long, if_pos large]
  | frame framed long small incomplete =>
      rw [if_pos framed, dif_neg long, if_neg small, if_pos incomplete]
  | text plain =>
      rw [if_neg plain]

/-- A pass that goes on has skipped one complete frame. -/
inductive SkippedFrame (input : Bytes) : Bytes → Prop where
  | mk
      (framed : input.head? = some dollar)
      (headerPresent : 4 ≤ input.length)
      (limit : frameEnd input ≤ maxRequestBytes)
      (complete : frameEnd input ≤ input.length) :
      SkippedFrame input (input.drop (frameEnd input))

/-- Every pass that goes on is of this form. -/
theorem skippedFrame_of_again
    {input rest : Bytes}
    (again : takePass input = .again rest) :
    SkippedFrame input rest := by
  have ends := passEnd input
  rw [again] at ends
  cases ends with
  | skipped framed long small complete =>
      exact .mk framed (Nat.not_lt.mp long) (Nat.not_lt.mp small)
        (Nat.not_lt.mp complete)

/-- A skipped frame does not change the answer. -/
theorem takeRequest_of_again
    {input rest : Bytes}
    (again : takePass input = .again rest) :
    takeRequest input = takeRequest rest := by
  obtain ⟨framed, headerPresent, limit, complete⟩ :=
    skippedFrame_of_again again
  exact takeRequest_frame framed headerPresent limit complete

/-- Every frame has a header of four bytes, even an empty one. -/
theorem takePass_shortens :
    Shortens takePass List.length 4 := by
  intro input rest again
  obtain ⟨_, _, _, complete⟩ := skippedFrame_of_again again
  simp only [List.length_drop]
  simp only [frameEnd] at complete ⊢
  omega

/-- The scan ends with the answer of `take_request`, one pass per frame. -/
theorem within_takePass (input : Bytes) :
    within takePass (input.length / 4 + 1) input =
      some (takeRequest input) :=
  within_eq_some takePass_shortens
    (fun _ _ done => takeRequest_of_done done)
    (fun _ _ again => takeRequest_of_again again)
    (by omega)

/-- A scan that waits leaves the unread bytes behind the skipped frames. -/
theorem waiting_of_takeRequest
    {input rest : Bytes}
    (taken : takeRequest input = .ok (none, rest)) :
    rest <:+ input ∧ Waiting rest := by
  have ended := within_takePass input
  rw [taken] at ended
  refine of_within
    (motive := fun input result =>
      result = .ok (none, rest) → rest <:+ input ∧ Waiting rest)
    ?_ ?_ ended rfl
  · rintro input _ done rfl
    obtain ⟨rfl, waiting⟩ := waiting_of_done done
    exact ⟨List.suffix_refl _, waiting⟩
  · intro input next _ again behind isWaiting
    obtain ⟨suffix, waiting⟩ := behind isWaiting
    obtain ⟨_, _, _, _⟩ := skippedFrame_of_again again
    exact ⟨suffix.trans (List.drop_suffix _ _), waiting⟩

/-! ## The steps of a call -/

/-- Where `read_control` is. -/
inductive ControlPoint where
  | scanning (second : Bool)
  | reading
  | returned (answer : Option Request)
  | failed (error : IoError)

/-- What the socket does when the call reads from it. -/
structure SocketRead where
  toNonblocking : Option IoError
  outcome : ReadOutcome
  toBlocking : Option IoError

/-- A call of `read_control` and the buffer it works on. -/
structure ControlBuffer where
  point : ControlPoint
  input : Bytes

namespace ControlBuffer

/-- Where a call goes when a scan has ended; the second one is the last. -/
def afterScan (second : Bool) : Option Request → ControlPoint
  | some request => .returned (some request)
  | none => if second then .returned none else .reading

/-- The read between the two scans. -/
def read (buffer : ControlBuffer) (socket : SocketRead) : ControlBuffer :=
  match socket.toNonblocking, socket.toBlocking with
  | some error, _ => { buffer with point := .failed error }
  | none, some error => { buffer with point := .failed error }
  | none, none =>
      match socket.outcome with
      | .received [] _ =>
          { buffer with
            point :=
              .failed
                { kind := .unexpectedEof
                  message := "RTSP client disconnected".toList } }
      | .received bytes _ =>
          { point := .scanning true, input := buffer.input ++ bytes }
      | .failed error =>
          if error.kind = .wouldBlock ∨ error.kind = .timedOut ∨
              error.kind = .interrupted then
            { buffer with point := .returned none }
          else
            { buffer with point := .failed error }

/-- One step of a call; a call that has returned is followed by the next. -/
def step (buffer : ControlBuffer) (socket : SocketRead) : ControlBuffer :=
  match buffer.point with
  | .scanning second =>
      match takePass buffer.input with
      | .again rest => { buffer with input := rest }
      | .done (.error error) => { buffer with point := .failed error }
      | .done (.ok (answer, rest)) =>
          { point := afterScan second answer, input := rest }
  | .reading => buffer.read socket
  | .returned _ => { buffer with point := .scanning false }
  | .failed _ => buffer

/-- Successive steps; only those that read use what the socket does. -/
def run (buffer : ControlBuffer) (sockets : List SocketRead) :
    ControlBuffer :=
  sockets.foldl step buffer

/-- The buffer of a new connection. -/
def initial : ControlBuffer where
  point := .scanning false
  input := []

/-- What holds of the buffer at any time, and before a read. -/
structure Bounded (buffer : ControlBuffer) : Prop where
  anyTime : buffer.input.length ≤ (maxRequestBytes - 1) + readChunk
  beforeRead :
    buffer.point = .reading → buffer.input.length < maxRequestBytes

variable {buffer : ControlBuffer}

/-- A buffer that is not larger is bounded where nothing is read. -/
theorem Bounded.mono
    (bounded : buffer.Bounded)
    {after : ControlBuffer}
    (notLarger : after.input.length ≤ buffer.input.length)
    (elsewhere : after.point ≠ .reading) :
    after.Bounded where
  anyTime := notLarger.trans bounded.anyTime
  beforeRead := fun reading => (elsewhere reading).elim

/-- A read appends at most one chunk to a buffer that was waiting. -/
theorem Bounded.read
    (bounded : buffer.Bounded)
    (reading : buffer.point = .reading)
    (socket : SocketRead) :
    (buffer.read socket).Bounded := by
  have small := bounded.beforeRead reading
  unfold ControlBuffer.read
  split
  · exact bounded.mono le_rfl nofun
  · exact bounded.mono le_rfl nofun
  · split
    · exact bounded.mono le_rfl nofun
    · rename_i bytes fits _ _
      refine ⟨?_, nofun⟩
      simp only [List.length_append]
      omega
    · split
      · exact bounded.mono le_rfl nofun
      · exact bounded.mono le_rfl nofun

/-- A scan that ends leaves the socket to be read only when it waits. -/
theorem Bounded.afterScan
    (bounded : buffer.Bounded)
    {second : Bool}
    {answer : Option Request}
    {rest : Bytes}
    (done : takePass buffer.input = .done (.ok (answer, rest))) :
    Bounded { point := afterScan second answer, input := rest } := by
  cases answer with
  | some request =>
      have taken := takeRequest_of_done done
      exact bounded.mono (takeRequest_consumes taken).le nofun
  | none =>
      obtain ⟨rfl, waiting⟩ := waiting_of_done done
      exact ⟨bounded.anyTime, fun _ => waiting.bounded⟩

/-- Every step keeps the bounds. -/
theorem Bounded.step
    (bounded : buffer.Bounded)
    (socket : SocketRead) :
    (buffer.step socket).Bounded := by
  unfold ControlBuffer.step
  split
  · rename_i second scanning
    split
    · rename_i rest again
      obtain ⟨_, _, _, _⟩ := skippedFrame_of_again again
      refine bounded.mono ?_ ?_
      · simp only [List.length_drop]
        omega
      · simp [scanning]
    · exact bounded.mono le_rfl nofun
    · rename_i answer rest done
      exact bounded.afterScan done
  · rename_i reading
    exact bounded.read reading socket
  · exact bounded.mono le_rfl nofun
  · exact bounded

/-- Every run keeps the bounds. -/
theorem Bounded.run
    (bounded : buffer.Bounded)
    (sockets : List SocketRead) :
    (buffer.run sockets).Bounded := by
  induction sockets generalizing buffer with
  | nil =>
      exact bounded
  | cons socket later inductionHypothesis =>
      exact inductionHypothesis (bounded.step socket)

/-- The buffer of a new connection is empty. -/
theorem bounded_initial : initial.Bounded where
  anyTime := Nat.zero_le _
  beforeRead := nofun

/-! ## Every scan ends -/

/-- A run in two parts. -/
theorem run_append (first second : List SocketRead) :
    buffer.run (first ++ second) = (buffer.run first).run second :=
  List.foldl_append ..

/-- The state in which a scan stops whose answer is known. -/
def ScanEnded
    (second : Bool)
    (result : Except IoError (Option Request × Bytes))
    (after : ControlBuffer) : Prop :=
  match result with
  | .error error => after.point = .failed error
  | .ok (answer, rest) =>
      after = { point := afterScan second answer, input := rest }

/-- The pass that ends a scan stops in such a state. -/
theorem scanEnded_of_done
    {second : Bool}
    {input : Bytes}
    {result : Except IoError (Option Request × Bytes)}
    (done : takePass input = .done result)
    (socket : SocketRead) :
    ScanEnded second result
      (step { point := .scanning second, input := input } socket) := by
  cases result with
  | error error =>
      simp only [step, done]
      exact rfl
  | ok answered =>
      simp only [step, done]
      exact rfl

/-- Each frame takes one pass, so a scan ends while the steps last. -/
theorem scan_ends
    (second : Bool)
    {input : Bytes}
    {sockets : List SocketRead}
    (enough : input.length / 4 < sockets.length) :
    ∃ steps, steps ≤ input.length / 4 + 1 ∧
      ScanEnded second (takeRequest input)
        (run { point := .scanning second, input := input }
          (sockets.take steps)) := by
  induction sockets generalizing input with
  | nil =>
      simp at enough
  | cons socket later inductionHypothesis =>
      cases ends : takePass input with
      | done result =>
          refine ⟨1, by omega, ?_⟩
          rw [takeRequest_of_done ends]
          exact scanEnded_of_done ends socket
      | again rest =>
          have shorter := takePass_shortens input rest ends
          have stillEnough : rest.length / 4 < later.length := by
            simp only [List.length_cons] at enough
            omega
          obtain ⟨steps, few, ended⟩ := inductionHypothesis stillEnough
          refine ⟨steps + 1, by omega, ?_⟩
          rw [takeRequest_of_again ends]
          have skipped :
              step { point := .scanning second, input := input } socket =
                { point := .scanning second, input := rest } := by
            simp only [step, ends]
          simpa only [run, List.take_succ_cons, List.foldl_cons, skipped]
            using ended

/-! ## The steps make up `readControl` -/

/-- The state in which a call with a known answer stops. -/
def CallEnded
    (result : Except IoError (Option Request × Bytes))
    (after : ControlBuffer) : Prop :=
  match result with
  | .error error => after.point = .failed error
  | .ok (answer, rest) => after = { point := .returned answer, input := rest }

/-- A socket whose mode can be changed. -/
def plainRead (outcome : ReadOutcome) : SocketRead where
  toNonblocking := none
  outcome := outcome
  toBlocking := none

/-- The second scan is the last. -/
theorem callEnded_of_scanEnded
    {result : Except IoError (Option Request × Bytes)}
    {after : ControlBuffer}
    (ended : ScanEnded true result after) :
    CallEnded result after := by
  cases result with
  | error error =>
      exact ended
  | ok answered =>
      obtain ⟨answer, rest⟩ := answered
      cases answer <;> exact ended

/-- The same step, offered long enough for a scan to end. -/
def throughScan (input : Bytes) (outcome : ReadOutcome) : List SocketRead :=
  List.replicate (input.length / 4 + 1) (plainRead outcome)

/-- A scan ends within such a run. -/
theorem scan_ends_plain
    (second : Bool)
    (input : Bytes)
    (outcome : ReadOutcome) :
    ∃ sockets,
      ScanEnded second (takeRequest input)
        (run { point := .scanning second, input := input } sockets) := by
  have enough :
      input.length / 4 < (throughScan input outcome).length := by
    simp [throughScan]
  obtain ⟨steps, _, ended⟩ := scan_ends second enough
  exact ⟨_, ended⟩

/-- A call that has scanned in vain reads, and then stops. -/
theorem reading_ends
    {input rest : Bytes}
    (taken : takeRequest input = .ok (none, rest))
    (outcome : ReadOutcome) :
    ∃ sockets,
      CallEnded (readControl outcome input)
        (run { point := .reading, input := rest } sockets) := by
  cases outcome with
  | failed error =>
      refine ⟨[plainRead (.failed error)], ?_⟩
      simp only [readControl, taken, run, List.foldl_cons, List.foldl_nil,
        step, read, plainRead]
      split
      · exact rfl
      · exact rfl
  | received bytes fits =>
      simp only [readControl, taken]
      cases bytes with
      | nil =>
          exact ⟨[plainRead (.received [] fits)], rfl⟩
      | cons byte bytes =>
          let outcome : ReadOutcome := .received (byte :: bytes) fits
          obtain ⟨sockets, ended⟩ :=
            scan_ends_plain true (rest ++ byte :: bytes) outcome
          exact ⟨plainRead outcome :: sockets,
            callEnded_of_scanEnded ended⟩

/-- Every call of `readControl` is a run of steps. -/
theorem readControl_run (outcome : ReadOutcome) (input : Bytes) :
    ∃ sockets,
      CallEnded (readControl outcome input)
        (run { point := .scanning false, input := input } sockets) := by
  obtain ⟨scans, ended⟩ := scan_ends_plain false input outcome
  cases taken : takeRequest input with
  | error error =>
      rw [taken] at ended
      simp only [readControl, taken]
      exact ⟨scans, ended⟩
  | ok answered =>
      obtain ⟨answer, rest⟩ := answered
      rw [taken] at ended
      cases answer with
      | some request =>
          simp only [readControl, taken]
          exact ⟨scans, ended⟩
      | none =>
          obtain ⟨sockets, stopped⟩ := reading_ends taken outcome
          refine ⟨scans ++ sockets, ?_⟩
          rw [run_append, ended]
          exact stopped

/-- Successive calls that do not fail are a run of steps. -/
theorem controlCalls_run
    {input rest : Bytes}
    {outcomes : List ReadOutcome}
    {requests : List Request}
    (called : controlCalls input outcomes = (requests, .ok rest)) :
    ∃ sockets,
      run { point := .scanning false, input := input } sockets =
        { point := .scanning false, input := rest } := by
  induction outcomes generalizing input requests with
  | nil =>
      simp only [controlCalls, Prod.mk.injEq, Except.ok.injEq] at called
      obtain ⟨_, rfl⟩ := called
      exact ⟨[], rfl⟩
  | cons outcome later inductionHypothesis =>
      obtain ⟨sockets, ended⟩ := readControl_run outcome input
      cases answered : readControl outcome input with
      | error error =>
          simp [controlCalls, answered] at called
      | ok result =>
          obtain ⟨answer, between⟩ := result
          rw [answered] at ended
          simp only [controlCalls, answered] at called
          cases more : controlCalls between later with
          | mk laterRequests stop =>
              simp only [more, prepend, Prod.mk.injEq] at called
              obtain ⟨_, rfl⟩ := called
              obtain ⟨laterSockets, arrived⟩ := inductionHypothesis more
              refine
                ⟨sockets ++ plainRead outcome :: laterSockets, ?_⟩
              rw [run_append, ended]
              exact arrived

/-- The buffer that successive calls of a connection leave is bounded. -/
theorem controlCalls_bounded
    {rest : Bytes}
    {outcomes : List ReadOutcome}
    {requests : List Request}
    (called : controlCalls [] outcomes = (requests, .ok rest)) :
    rest.length ≤ (maxRequestBytes - 1) + readChunk := by
  obtain ⟨sockets, arrived⟩ := controlCalls_run called
  have bounded := bounded_initial.run sockets
  rw [initial, arrived] at bounded
  exact bounded.anyTime

/-! ## The result -/

/-- What a client can do to the buffer of its connection. -/
structure BufferRules (sockets : List SocketRead) : Prop where
  anyTime : (initial.run sockets).input.length ≤ 65535 + 4096
  beforeRead :
    (initial.run sockets).point = .reading →
      (initial.run sockets).input.length < 65536
  scanEnds :
    ∀ (second : Bool) (later : List SocketRead),
      (initial.run sockets).point = .scanning second →
        (initial.run sockets).input.length / 4 < later.length →
          ∃ steps, steps ≤ (initial.run sockets).input.length / 4 + 1 ∧
            ScanEnded second (takeRequest (initial.run sockets).input)
              (initial.run (sockets ++ later.take steps))
  waits :
    ∀ input rest, takeRequest input = .ok (none, rest) →
      Waiting rest ∧ rest.length < 65536

/--
Whatever is read, in chunks of at most 4096 bytes: the buffer holds at most
65535 + 4096 bytes in every state, fewer than 65536 whenever the socket is
about to be read, and every scan ends after one pass for each four bytes; each
of the four conditions a scan can wait for leaves fewer than 65536 bytes.
-/
theorem control_buffer_bounded (sockets : List SocketRead) :
    BufferRules sockets where
  anyTime := (bounded_initial.run sockets).anyTime
  beforeRead := (bounded_initial.run sockets).beforeRead
  scanEnds := by
    intro second later scanning enough
    obtain ⟨steps, few, ended⟩ := scan_ends second enough
    refine ⟨steps, few, ?_⟩
    rw [run_append]
    rw [← scanning] at ended
    exact ended
  waits := by
    intro input rest taken
    obtain ⟨_, waiting⟩ := waiting_of_takeRequest taken
    exact ⟨waiting, waiting.bounded⟩

end ControlBuffer

end CamRtsp
