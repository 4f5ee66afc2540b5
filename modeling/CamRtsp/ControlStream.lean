import CamRtsp.MediaSession
import CamRtsp.ResponseTexts

namespace CamRtsp

open RustText CrlfLines IncrementalFraming StepTrace

/-!
# The bytes of the control connection

Everything the server writes is read back by a client as it was meant:
responses whole, and packets in frames on the negotiated channels.  A write
that fails leaves an incomplete message behind, which the client still awaits.
-/

/-! ## One write -/

/-- The channel of RTP frames, if there are any. -/
def Delivery.rtpChannel? : Delivery → Option UInt8
  | .tcp rtpChannel _ => some rtpChannel
  | .udp _ _ _ _ => none

/-- The channel of RTCP frames, if there are any. -/
def Delivery.rtcpChannel? : Delivery → Option UInt8
  | .tcp _ rtcpChannel => some rtcpChannel
  | .udp _ _ _ _ => none

/-- What a packet puts on the control connection, by its channel. -/
def channelBytes (channel? : Option UInt8) (packet : Bytes) : Bytes :=
  channel?.elim [] fun channel => interleaved channel packet

theorem Delivery.rtpBytes_eq (delivery : Delivery) (packet : Bytes) :
    delivery.rtpBytes packet = channelBytes delivery.rtpChannel? packet := by
  cases delivery <;> rfl

theorem Delivery.rtcpBytes_eq (delivery : Delivery) (packet : Bytes) :
    delivery.rtcpBytes packet =
      channelBytes delivery.rtcpChannel? packet := by
  cases delivery <;> rfl

/-- A packet on a channel is read back as a frame. -/
theorem takeMessage_channelBytes
    {channel? : Option UInt8}
    {packet : Bytes}
    (fits : packet.length < 65536)
    {message : ServerMessage}
    (means :
      (channel?.map fun channel => ServerMessage.frame channel packet) =
        some message)
    (later : Bytes) :
    takeMessage (channelBytes channel? packet ++ later) =
      .ok (some message, later) := by
  cases channel? with
  | none =>
      cases means
  | some channel =>
      cases means
      exact takeMessage_interleaved channel fits later

/-- A packet without a channel puts nothing there. -/
theorem channelBytes_eq_nil
    {channel? : Option UInt8}
    {packet : Bytes}
    (silent :
      (channel?.map fun channel => ServerMessage.frame channel packet) =
        none) :
    channelBytes channel? packet = [] := by
  rw [Option.map_eq_none_iff.mp silent]
  rfl

namespace Send

/-- What a client is meant to read, unless the write goes to a UDP port. -/
def message? : Send → Option ServerMessage
  | .response reply => some (.response reply.head (toUtf8 reply.body))
  | .rtp delivery packet =>
      delivery.rtpChannel?.map fun channel => .frame channel packet
  | .rtcp delivery packet =>
      delivery.rtcpChannel?.map fun channel => .frame channel packet
  | .bye delivery packet =>
      delivery.rtcpChannel?.map fun channel => .frame channel packet

/-- The delivery a packet is handed to. -/
def delivery? : Send → Option Delivery
  | .response _ => none
  | .rtp delivery _ => some delivery
  | .rtcp delivery _ => some delivery
  | .bye delivery _ => some delivery

/-- The packet of a write, if it is one. -/
def packet? : Send → Option Bytes
  | .response _ => none
  | .rtp _ packet => some packet
  | .rtcp _ packet => some packet
  | .bye _ packet => some packet

/-- A clean response, or a packet that fits into a frame. -/
structure Readable (send : Send) : Prop where
  clean : ∀ reply ∈ send.response?, reply.Clean
  fits : ∀ packet ∈ send.packet?, packet.length < 65536

/-- A write is read back whole, whatever follows. -/
theorem Readable.taken
    {send : Send}
    (readable : send.Readable)
    {message : ServerMessage}
    (means : send.message? = some message)
    (later : Bytes) :
    takeMessage (send.wire ++ later) = .ok (some message, later) := by
  cases send with
  | response reply =>
      cases means
      exact Response.takeMessage_encode (readable.clean reply rfl) later
  | rtp delivery packet =>
      rw [wire, Delivery.rtpBytes_eq]
      exact takeMessage_channelBytes (readable.fits packet rfl) means later
  | rtcp delivery packet =>
      rw [wire, Delivery.rtcpBytes_eq]
      exact takeMessage_channelBytes (readable.fits packet rfl) means later
  | bye delivery packet =>
      rw [wire, Delivery.rtcpBytes_eq]
      exact takeMessage_channelBytes (readable.fits packet rfl) means later

/-- A packet for a UDP port puts nothing on the control connection. -/
theorem wire_eq_nil
    {send : Send}
    (silent : send.message? = none) :
    send.wire = [] := by
  cases send with
  | response reply =>
      cases silent
  | rtp delivery packet =>
      exact (delivery.rtpBytes_eq packet).trans (channelBytes_eq_nil silent)
  | rtcp delivery packet =>
      exact (delivery.rtcpBytes_eq packet).trans (channelBytes_eq_nil silent)
  | bye delivery packet =>
      exact (delivery.rtcpBytes_eq packet).trans (channelBytes_eq_nil silent)

/-- A client that reads some writes is behind them. -/
theorem drain_wires
    {sends : List Send}
    (readable : ∀ send ∈ sends, send.Readable)
    (later : Bytes) :
    messageParser.drain (sends.flatMap wire ++ later) =
      prepend (sends.filterMap message?) (messageParser.drain later) := by
  apply Parser.drain_flatMap
  · intro send _ silent later
    rw [wire_eq_nil silent, List.nil_append]
  · intro send member message means later
    exact (readable send member).taken means later

/-- A client waits for the rest of a write that fails halfway. -/
theorem Readable.drain_torn
    {send : Send}
    (readable : send.Readable)
    (written : Nat) :
    ∃ rest,
      messageParser.drain (send.wire.dropLast.take written) =
        ([], .ok rest) := by
  cases means : send.message? with
  | none =>
      rw [wire_eq_nil means, List.dropLast_nil, List.take_nil]
      exact ⟨[], Parser.drain_pending rfl⟩
  | some message =>
      have taken := readable.taken means []
      rw [List.append_nil] at taken
      have nonempty : send.wire ≠ [] := by
        intro empty
        rw [empty] at taken
        cases taken
      have torn : send.wire.dropLast.take written <+: send.wire :=
        (List.take_prefix _ _).trans (List.dropLast_prefix _)
      obtain ⟨lost, whole⟩ := torn
      apply Parser.drain_of_incomplete messageParser_prefixStable
      · rw [whole]
        exact taken
      · rintro rfl
        rw [List.append_nil] at whole
        have shorter := congrArg List.length whole
        have positive := List.length_pos_iff.mpr nonempty
        simp only [List.length_take, List.length_dropLast] at shorter
        omega

end Send

/-! ## One iteration -/

section Iteration

variable {connection : Connection}
variable {iteration : Iteration}
variable {session after : Session}
variable {request : Option Request}

/-- The packets of the server fit into a frame. -/
theorem Counted.fits
    {ssrc : UInt32}
    {before after : RtpCounters}
    {send : Send}
    (counted : Counted ssrc before send after) :
    ∀ packet ∈ send.packet?, packet.length < 65536 := by
  intro packet isPacket
  cases counted with
  | rtp delivery payload timestamp marker fits =>
      cases isPacket
      have total :
          (rtpPacket payload before.sequence timestamp ssrc
            marker).length = 12 + payload.length := by
        simp only [rtpPacket, List.length_append, List.length_cons,
          List.length_nil, BigEndian.length_toBytes]
      change payload.length ≤ 1400 at fits
      omega
  | report delivery clock timestamp =>
      cases isPacket
      simp only [rtcpSenderReport, List.length_append, List.length_cons,
        List.length_nil, BigEndian.length_toBytes]
      decide
  | response reply =>
      cases isPacket
  | bye delivery =>
      cases isPacket
      simp only [rtcpBye, List.length_append, List.length_cons,
        List.length_nil, BigEndian.length_toBytes]
      decide

/-- An iteration keeps the nonce clean. -/
theorem step_nonceClean
    (nonceClean : session.NonceClean)
    (running :
      (step connection session request iteration).next =
        .running after) :
    after.NonceClean := by
  have servedClean :
      (served connection iteration session request).session.NonceClean := by
    cases request with
    | none =>
        exact nonceClean
    | some asked =>
        exact (serve_served connection iteration session
          asked).nonceClean nonceClean
  unfold Session.NonceClean
  rw [(step_sameControl running).auth]
  exact servedClean

/-- The responses to a parsed request are clean. -/
theorem clean_of_mem_served
    (parsed : ∀ asked ∈ request, asked.Parsed)
    (nonceClean : session.NonceClean)
    {reply : Response}
    (member :
      .response reply ∈
        (served connection iteration session request).sends) :
    reply.Clean := by
  cases request with
  | none =>
      cases member
  | some asked =>
      exact (serve_served connection iteration session asked).clean
        (parsed asked rfl) nonceClean member

/-- Everything a turn writes can be read. -/
theorem turn_readable
    (parsed : ∀ asked ∈ request, asked.Parsed)
    (nonceClean : session.NonceClean) :
    ∀ send ∈ (turn connection iteration session request).1,
      send.Readable := by
  intro send member
  obtain ⟨counters, trace, _⟩ :=
    @turn_trace connection iteration session request
  have fits :
      ∀ send ∈ (turn connection iteration session request).1,
        ∀ packet ∈ send.packet?, packet.length < 65536 :=
    trace.forall_mem fun counted => counted.fits
  refine { clean := ?_, fits := fits send member }
  intro reply isReply
  cases send with
  | response other =>
      cases isReply
      exact clean_of_mem_served parsed nonceClean
        (mem_served_of_mem_turn member)
  | _ =>
      cases isReply

/-- A client reads what an iteration has written whole. -/
theorem step_drain
    (parsed : ∀ asked ∈ request, asked.Parsed)
    (nonceClean : session.NonceClean) :
    ∃ rest,
      messageParser.drain
          ((step connection session request iteration).sends.flatMap
              Send.wire ++
            (step connection session request iteration).torn) =
        ((step connection session request iteration).sends.filterMap
          Send.message?, .ok rest) ∧
        (iteration.failure = none → rest = []) := by
  have readable :
      ∀ send ∈ (turn connection iteration session request).1,
        send.Readable :=
    turn_readable parsed nonceClean
  have sent :
      ∀ send ∈ (step connection session request iteration).sends,
        send.Readable := fun send member =>
    readable send ((prefix_step_sends _ _ _ _).subset member)
  obtain ⟨rest, torn, complete⟩ :
      ∃ rest,
        messageParser.drain
            (step connection session request iteration).torn =
          ([], .ok rest) ∧
          (iteration.failure = none → rest = []) := by
    have written := step_written connection session request iteration
    generalize step connection session request iteration = performed
      at written
    cases written with
    | whole =>
        exact ⟨[], Parser.drain_pending rfl, fun _ => rfl⟩
    | cut fails count amount failed error failing =>
        obtain ⟨rest, torn⟩ :=
          (readable failed (List.mem_of_getElem? failing)).drain_torn
            amount
        refine ⟨rest, torn, fun succeeds => ?_⟩
        rw [succeeds] at fails
        cases fails
    | muted fails count amount delivery packet failing =>
        obtain ⟨rest, torn⟩ :=
          (readable _ (List.mem_of_getElem? failing)).drain_torn amount
        refine ⟨rest, torn, fun succeeds => ?_⟩
        rw [succeeds] at fails
        cases fails
  refine ⟨rest, ?_, complete⟩
  rw [Send.drain_wires sent, torn]
  simp [prepend]

end Iteration

/-! ## Whole runs -/

/-- The bytes an iteration puts on the control connection. -/
def Transition.wire (transition : Transition) : Bytes :=
  transition.performed.sends.flatMap Send.wire ++
    transition.performed.torn

/-- The bytes a run puts on the control connection. -/
def controlStream (transitions : List Transition) : Bytes :=
  transitions.flatMap Transition.wire

section Run

variable {connection : Connection}
variable {session : Session}
variable {transitions : List Transition}
variable {next : Next}

/-- A client reads what a run on parsed requests has written whole. -/
theorem Runs.drain
    (runs : Runs connection session transitions next)
    (parsed :
      ∀ transition ∈ transitions,
        ∀ asked ∈ transition.request, asked.Parsed)
    (nonceClean : session.NonceClean) :
    ∃ rest,
      messageParser.drain (controlStream transitions) =
          ((writes transitions).filterMap Send.message?, .ok rest) ∧
        ((∀ transition ∈ transitions,
            transition.iteration.failure = none) →
          rest = []) := by
  induction runs with
  | nil session =>
      exact ⟨[], Parser.drain_pending rfl, fun _ => rfl⟩
  | closed session request iteration result closes =>
      have heard : ∀ asked ∈ request, asked.Parsed :=
        parsed (.of connection session request iteration) (by simp)
      obtain ⟨rest, drained, complete⟩ :=
        @step_drain connection iteration session request heard nonceClean
      refine ⟨rest, ?_, fun succeeds =>
        complete (succeeds _ (List.mem_singleton_self _))⟩
      simp only [controlStream, writes, List.flatMap_singleton]
      exact drained
  | running session request iteration after goesOn rest
      inductionHypothesis =>
      have heard : ∀ asked ∈ request, asked.Parsed :=
        parsed (.of connection session request iteration) (by simp)
      obtain ⟨left, drained, complete⟩ :=
        inductionHypothesis
          (fun transition member => parsed transition (by simp [member]))
          (step_nonceClean nonceClean goesOn)
      refine ⟨left, ?_, fun succeeds =>
        complete fun transition member =>
          succeeds transition (by simp [member])⟩
      have performedEq := (step_running goesOn).1
      have readable :
          ∀ send ∈ (turn connection iteration session request).1,
            send.Readable :=
        turn_readable heard nonceClean
      simp only [controlStream, writes, List.flatMap_cons,
        Transition.wire, List.filterMap_append]
      change messageParser.drain
        (((step connection session request iteration).sends.flatMap
          Send.wire ++
            (step connection session request iteration).torn) ++ _) =
        ((step connection session request iteration).sends.filterMap
          Send.message? ++ _, _)
      rw [performedEq, List.append_nil, Send.drain_wires readable]
      change prepend _ (messageParser.drain (controlStream _)) = _
      rw [drained]
      rfl

end Run

/-- The loop with its reads is a run on parsed requests. -/
theorem handle_runs
    (connection : Connection)
    (session : Session)
    (input : Bytes)
    (reads : List (ReadOutcome × Iteration)) :
    (∃ next,
        Runs connection session (handle connection session input reads).1
          next) ∧
      ∀ transition ∈ (handle connection session input reads).1,
        ∀ asked ∈ transition.request, asked.Parsed := by
  induction reads generalizing session input with
  | nil =>
      exact ⟨⟨_, .nil session⟩, by simp [handle]⟩
  | cons first later inductionHypothesis =>
      obtain ⟨read, iteration⟩ := first
      cases isRead : readControl read input with
      | error error =>
          simp only [handle, isRead]
          exact ⟨⟨_, .nil session⟩, by simp⟩
      | ok answer =>
          obtain ⟨request, rest⟩ := answer
          have heard : ∀ asked ∈ request, asked.Parsed := by
            intro asked isAsked
            cases isAsked
            exact parsed_of_readControl isRead
          cases next :
              (step connection session request iteration).next with
          | running after =>
              obtain ⟨⟨last, runs⟩, parsed⟩ :=
                inductionHypothesis after rest
              simp only [handle, isRead, next]
              refine ⟨⟨last,
                .running session request iteration after next runs⟩, ?_⟩
              intro transition member
              rcases List.mem_cons.mp member with isFirst | inRest
              · rw [isFirst]
                exact heard
              · exact parsed transition inRest
          | closed result =>
              simp only [handle, isRead, next]
              refine ⟨⟨_,
                .closed session request iteration result next⟩, ?_⟩
              intro transition member
              rw [List.mem_singleton.mp member]
              exact heard

/-- What a client can rely on about the bytes of a run. -/
structure ControlRules
    (connection : Connection)
    (transitions : List Transition) : Prop where
  decoded :
    ∃ rest,
      messageParser.drain (controlStream transitions) =
          ((writes transitions).filterMap Send.message?, .ok rest) ∧
        ((∀ transition ∈ transitions,
            transition.iteration.failure = none) →
          rest = [])
  echoed :
    ∀ transition ∈ transitions, ∀ reply ∈ transition.responses,
      ∃ request ∈ transition.request,
        headerValue reply.head "cseq" = some request.cseq
  channels :
    ∀ transition ∈ transitions, ∀ send ∈ transition.performed.sends,
      ∀ delivery ∈ send.delivery?,
        (transition.handled connection).session.delivery = some delivery

section Run

variable {connection : Connection}
variable {iteration : Iteration}
variable {session : Session}
variable {request : Option Request}
variable {handled : Handled}

theorem no_delivery_of_mem_answer
    {asked : Request}
    {status : Status}
    {headers : List Text}
    {flow : Flow}
    {send : Send}
    (member : send ∈ (answer session asked status headers flow).sends) :
    send.delivery? = none := by
  rw [List.mem_singleton.mp member]
  rfl

/-- A goodbye goes to the delivery of the session. -/
theorem Served.delivery_of_mem
    {asked : Request}
    (served : Served connection iteration session asked handled)
    {send : Send}
    (member : send ∈ handled.sends)
    {delivery : Delivery}
    (isPacket : delivery ∈ send.delivery?) :
    handled.session.delivery = some delivery := by
  cases served with
  | unauthorized _ _ =>
      rw [no_delivery_of_mem_answer member] at isPacket
      cases isPacket
  | refused _ _ _ =>
      rw [no_delivery_of_mem_answer member] at isPacket
      cases isPacket
  | admitted _ dispatched =>
      cases dispatched with
      | described _ codec _ =>
          cases List.mem_singleton.mp member
          cases isPacket
      | setUpFailed _ _ _ =>
          cases member
      | tornDown _ negotiated delivered =>
          rcases List.mem_append.mp member with isReply | isBye
          · rw [no_delivery_of_mem_answer isReply] at isPacket
            cases isPacket
          · cases List.mem_singleton.mp isBye
            cases isPacket
            exact delivered
      | _ =>
          rw [no_delivery_of_mem_answer member] at isPacket
          cases isPacket

/-- Every packet of an iteration goes to the delivery of the session. -/
theorem delivery_of_mem_turn
    {send : Send}
    (member : send ∈ (turn connection iteration session request).1)
    {delivery : Delivery}
    (isPacket : delivery ∈ send.delivery?) :
    (served connection iteration session request).session.delivery =
      some delivery := by
  have inReply :
      send ∈ (served connection iteration session request).sends →
        (served connection iteration session request).session.delivery =
          some delivery := by
    intro inReply
    cases request with
    | none =>
        cases inReply
    | some asked =>
        exact (serve_served connection iteration session
          asked).delivery_of_mem inReply isPacket
  have turned := turn_turned connection iteration session request
  generalize served connection iteration session request = handled
    at turned inReply ⊢
  generalize turn connection iteration session request = result
    at turned member
  cases turned with
  | proceeded _ streamed =>
      rcases List.mem_append.mp member with isReply | isMedia
      · exact inReply isReply
      · obtain ⟨negotiated, _, delivered, _, rfl | rfl⟩ :=
          streamed.media isMedia
        · cases isPacket
          exact delivered
        · cases isPacket
          exact delivered
  | _ =>
      exact inReply member

end Run

/--
Over every run of `handle`, whatever bytes are read and published: a client
reads exactly the responses and the packets that were written, in order, each
packet on its negotiated channel and each response under the CSeq of its
request; only a write that failed halfway is left over.
-/
theorem control_stream_decodable
    (connection : Connection)
    (opening : Opening)
    (reads : List (ReadOutcome × Iteration)) :
    ControlRules connection
      (handle connection (.start opening) [] reads).1 := by
  obtain ⟨⟨next, runs⟩, parsed⟩ :=
    handle_runs connection (.start opening) [] reads
  have startClean : (Session.start opening).NonceClean :=
    cr_not_mem_hex opening.nonceData
  refine {
    decoded := runs.drain parsed startClean
    echoed := ?_
    channels := ?_
  }
  · have each :
        ∀ transition ∈ (handle connection (.start opening) [] reads).1,
          (∀ asked ∈ transition.request, asked.Parsed) →
            ∀ reply ∈ transition.responses,
              ∃ request ∈ transition.request,
                headerValue reply.head "cseq" = some request.cseq := by
      refine runs.forall_transitions Session.NonceClean step_nonceClean
        ?_ startClean
      intro session request iteration nonceClean heard reply member
      have inReply := mem_served_of_mem_responses member
      have clean := clean_of_mem_served heard nonceClean inReply
      cases request with
      | none =>
          cases inReply
      | some asked =>
          refine ⟨asked, rfl, ?_⟩
          rw [Response.headerValue_cseq clean,
            (serve_served connection iteration session
              asked).replied.cseq_of_mem inReply]
    exact fun transition member =>
      each transition member (parsed transition member)
  · refine runs.forall_transitions (fun _ => True) (fun _ _ => trivial)
      ?_ trivial
    intro session request iteration _ send member delivery isPacket
    exact delivery_of_mem_turn ((prefix_step_sends _ _ _ _).subset member)
      isPacket

end CamRtsp
