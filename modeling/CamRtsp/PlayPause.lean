import CamRtsp.Foundation.PastTime
import CamRtsp.LiveConnection

namespace CamRtsp

open RustText PastTime

/-!
# Between PLAY and PAUSE

The log of a connection holds its writes, each beside the request that its
iteration serves.  The log alone tells whether the stream plays and where it
goes; `Standing` says that the variables of the loop agree with it.
-/

/-- A write, and the request of its iteration. -/
structure Write where
  request : Option Request
  send : Send

/-- Writes beside the request of their iteration. -/
def logged (request : Option Request) (sends : List Send) : List Write :=
  sends.map fun send => { request := request, send := send }

theorem logged_append
    (request : Option Request)
    (first second : List Send) :
    logged request (first ++ second) =
      logged request first ++ logged request second :=
  List.map_append

/-- The writes of an iteration. -/
def Transition.log (transition : Transition) : List Write :=
  logged transition.request transition.performed.sends

/-- The writes of a run. -/
def log (transitions : List Transition) : List Write :=
  transitions.flatMap Transition.log

/-- The delivery leads to the address. -/
def Delivery.LeadsTo (ip : IpAddr) : Delivery → Prop
  | .tcp _ _ => True
  | .udp _ _ clientRtp clientRtcp => clientRtp.ip = ip ∧ clientRtcp.ip = ip

/-- Where the RTP packets of a stream go. -/
inductive Destination where
  | channel (number : UInt8)
  | client (address : SocketAddr)
  deriving Repr, DecidableEq

namespace Destination

/-- A channel belongs to the control connection, a port to the address. -/
def IsAt (ip : IpAddr) : Destination → Prop
  | .channel _ => True
  | .client address => address.ip = ip

/-- The Transport header names the destination of RTP packets. -/
def NamedBy (header : Text) : Destination → Prop
  | .channel number =>
      "RTP/AVP/TCP;unicast;interleaved=".toList ++
        decimal number.toNat ++ ['-'] <+: header
  | .client address =>
      "RTP/AVP;unicast;client_port=".toList ++
        decimal address.port.toNat ++ ['-'] <+: header

/-- The write puts the packet there and nowhere else. -/
def Receives (packet : Bytes) (send : Send) : Destination → Prop
  | .channel number =>
      send.wire = interleaved number packet ∧ send.datagrams = []
  | .client address =>
      send.wire = [] ∧
        ∃ socket,
          send.datagrams =
            [{ socket := socket, packet := packet, receiver := address }]

end Destination

namespace Write

/-- A response with status 200 to a request with the given method. -/
def Accepts (method : String) (write : Write) : Prop :=
  (∃ request ∈ write.request, request.method = method.toList) ∧
    ∃ reply ∈ write.send.response?, reply.status = .ok

/-- A response that ends a stream. -/
def Stops (write : Write) : Prop :=
  write.Accepts "PAUSE" ∨ write.Accepts "TEARDOWN"

/-- A response with status 200 to SETUP that announces the delivery. -/
def Announces (delivery : Delivery) (write : Write) : Prop :=
  write.Accepts "SETUP" ∧
    ∃ reply ∈ write.send.response?,
      "Transport: ".toList ++ delivery.transportHeader ∈ reply.headers

/-- A response with status 200 to SETUP that names the destination. -/
def Offers (destination : Destination) (write : Write) : Prop :=
  write.Accepts "SETUP" ∧
    ∃ reply ∈ write.send.response?, ∃ header,
      "Transport: ".toList ++ header ∈ reply.headers ∧
        destination.NamedBy header

/-- A packet of the stream, or a report on it. -/
def IsMedia (write : Write) : Prop :=
  ∃ delivery packet,
    write.send = .rtp delivery packet ∨ write.send = .rtcp delivery packet

/-- No response that starts, ends or redirects a stream. -/
structure Neutral (write : Write) : Prop where
  notSetup : ¬ write.Accepts "SETUP"
  notPlay : ¬ write.Accepts "PLAY"
  notPause : ¬ write.Accepts "PAUSE"
  notTeardown : ¬ write.Accepts "TEARDOWN"

/-- Only the request of the iteration is accepted. -/
theorem not_accepts_of_ne
    {request : Request}
    {send : Send}
    {method : String}
    (other : request.method ≠ method.toList) :
    ¬ Accepts method { request := some request, send := send } := by
  rintro ⟨⟨asked, same, named⟩, _⟩
  cases same
  exact other named

/-- What is no 200 response is neutral. -/
theorem neutral_of_not_ok
    {write : Write}
    (notOk : ∀ reply ∈ write.send.response?, reply.status ≠ .ok) :
    write.Neutral := by
  have refused (method : String) : ¬ write.Accepts method := by
    rintro ⟨_, reply, member, succeeds⟩
    exact notOk reply member succeeds
  exact ⟨refused _, refused _, refused _, refused _⟩

end Write

/-- The stream plays. -/
def Playing (said : List Write) : Prop :=
  Since (Write.Accepts "PLAY") Write.Stops said

/-- The delivery is the one announced last. -/
def Announced (delivery : Delivery) (said : List Write) : Prop :=
  Since (Write.Announces delivery) (Write.Accepts "SETUP") said

/-- The variables of the loop agree with the log. -/
structure Standing
    (connection : Connection)
    (said : List Write)
    (session : Session) : Prop where
  playing : session.subscription.isSome = true ↔ Playing said
  delivery :
    ∀ delivery ∈ session.delivery,
      delivery.LeadsTo connection.peerIp ∧ Announced delivery said

/-- The header of a delivery names where its RTP packets go. -/
theorem exists_namedBy (delivery : Delivery) (packet : Bytes) :
    ∃ destination : Destination,
      destination.NamedBy delivery.transportHeader ∧
        destination.Receives packet (.rtp delivery packet) ∧
        ∀ ip, delivery.LeadsTo ip → destination.IsAt ip := by
  have dashed (front number later : Text) :
      front ++ number ++ ['-'] <+: front ++ number ++ '-' :: later :=
    ⟨later, by simp⟩
  cases delivery with
  | tcp rtpChannel rtcpChannel =>
      refine ⟨.channel rtpChannel, ?_, ⟨rfl, rfl⟩, fun _ _ => trivial⟩
      exact dashed _ _ _
  | udp rtp rtcp clientRtp clientRtcp =>
      refine ⟨.client clientRtp, ?_, ⟨rfl, rtp, rfl⟩,
        fun _ leads => leads.1⟩
      refine (dashed _ _ (decimal clientRtcp.port.toNat)).trans ?_
      refine List.IsPrefix.trans ?_ (List.prefix_append _ _)
      refine List.IsPrefix.trans ?_ (List.prefix_append _ _)
      refine List.IsPrefix.trans ?_ (List.prefix_append _ _)
      refine List.IsPrefix.trans ?_ (List.prefix_append _ _)
      exact List.prefix_append _ _

/-- An RTP packet goes where the announcement of its delivery says. -/
theorem exists_destination
    {ip : IpAddr}
    {said : List Write}
    {delivery : Delivery}
    (leads : delivery.LeadsTo ip)
    (announced : Announced delivery said)
    (packet : Bytes) :
    ∃ destination : Destination,
      destination.Receives packet (.rtp delivery packet) ∧
        destination.IsAt ip ∧
        Since (Write.Offers destination) (Write.Accepts "SETUP") said := by
  obtain ⟨destination, named, receives, isAt⟩ :=
    exists_namedBy delivery packet
  refine ⟨destination, receives, isAt ip leads, announced.mono ?_⟩
  rintro write ⟨accepts, reply, isReply, header⟩
  exact ⟨accepts, reply, isReply, delivery.transportHeader, header, named⟩

section Standing

variable {connection : Connection}
variable {iteration : Iteration}
variable {session after : Session}
variable {said later : List Write}

/-- At the start nothing is said. -/
theorem standing_start
    (connection : Connection)
    (opening : Opening) :
    Standing connection [] (.start opening) where
  playing := by
    constructor
    · intro subscribed
      cases subscribed
    · intro playing
      exact (not_since_nil playing).elim
  delivery := by
    intro delivery member
    cases member

/-- Neutral writes leave the delivery announced. -/
theorem announced_append_iff
    {delivery : Delivery}
    (neutral : ∀ write ∈ later, ¬ write.Accepts "SETUP") :
    Announced delivery (said ++ later) ↔ Announced delivery said :=
  since_append_iff fun write member =>
    ⟨fun announces => neutral write member announces.1,
      neutral write member⟩

/-- Neutral writes leave the stream as it is. -/
theorem playing_append_iff
    (notPlay : ∀ write ∈ later, ¬ write.Accepts "PLAY")
    (notStop : ∀ write ∈ later, ¬ write.Stops) :
    Playing (said ++ later) ↔ Playing said :=
  since_append_iff fun write member =>
    ⟨notPlay write member, notStop write member⟩

/-- The delivery stays announced while no SETUP is accepted. -/
theorem Standing.delivery_append
    (standing : Standing connection said session)
    (notSetup : ∀ write ∈ later, ¬ write.Accepts "SETUP") :
    ∀ delivery ∈ session.delivery,
      delivery.LeadsTo connection.peerIp ∧
        Announced delivery (said ++ later) := by
  intro delivery member
  obtain ⟨leads, announced⟩ := standing.delivery delivery member
  exact ⟨leads, (announced_append_iff notSetup).mpr announced⟩

theorem Write.Neutral.notStops
    {write : Write}
    (neutral : write.Neutral) :
    ¬ write.Stops := by
  rintro (pause | teardown)
  · exact neutral.notPause pause
  · exact neutral.notTeardown teardown

/-- Neutral writes change nothing. -/
theorem Standing.append_neutral
    (standing : Standing connection said session)
    (neutral : ∀ write ∈ later, write.Neutral)
    (sameDelivery : after.delivery = session.delivery)
    (sameSubscription : after.subscription = session.subscription) :
    Standing connection (said ++ later) after where
  playing := by
    rw [sameSubscription, standing.playing]
    exact (playing_append_iff
      (fun write member => (neutral write member).notPlay)
      fun write member => (neutral write member).notStops).symm
  delivery := by
    rw [sameDelivery]
    exact standing.delivery_append fun write member =>
      (neutral write member).notSetup

/-! ## What a request says -/

/-- A negotiated delivery leads to the client. -/
theorem leadsTo_of_negotiateAlternative
    {clientIp localIp : IpAddr}
    {policy : TransportPolicy}
    {canBind : UInt16 → Bool}
    {alternative : Text}
    {selected : Delivery}
    (negotiated :
      negotiateAlternative clientIp localIp policy canBind alternative =
        some (some selected)) :
    selected.LeadsTo clientIp := by
  unfold negotiateAlternative at negotiated
  simp only at negotiated
  split at negotiated
  · cases negotiated
  split at negotiated
  · split at negotiated
    · cases negotiated
      trivial
    · split at negotiated
      · split at negotiated
        · cases negotiated
          trivial
        · cases negotiated
      · cases negotiated
  split at negotiated
  · split at negotiated
    · cases negotiated
    · split at negotiated
      · cases negotiated
      · obtain ⟨sockets, _, rfl⟩ :=
          Option.map_eq_some_iff.mp (Option.some.inj negotiated)
        exact ⟨rfl, rfl⟩
  · cases negotiated

theorem leadsTo_of_negotiateTransport
    {value : Text}
    {clientIp localIp : IpAddr}
    {policy : TransportPolicy}
    {canBind : UInt16 → Bool}
    {selected : Delivery}
    (negotiated :
      negotiateTransport value clientIp localIp policy canBind =
        some selected) :
    selected.LeadsTo clientIp := by
  have found := Option.join_eq_some_iff.mp negotiated
  obtain ⟨alternative, _, isSelected⟩ := List.exists_of_findSome?_eq_some found
  exact leadsTo_of_negotiateAlternative isSelected

/-- An accepted request with another method leaves everything as it is. -/
theorem Write.neutral_of_method
    {request : Request}
    {send : Send}
    {method : String}
    (named : request.method = method.toList)
    (other : method ∉ ["SETUP", "PLAY", "PAUSE", "TEARDOWN"]) :
    Write.Neutral { request := some request, send := send } := by
  have refused
      (changing : String)
      (member : changing ∈ ["SETUP", "PLAY", "PAUSE", "TEARDOWN"]) :
      ¬ Write.Accepts changing { request := some request, send := send } := by
    apply Write.not_accepts_of_ne
    intro same
    have sameMethod : method = changing :=
      String.toList_inj.mp (named.symm.trans same)
    exact other (sameMethod ▸ member)
  exact ⟨refused _ (by simp), refused _ (by simp), refused _ (by simp),
    refused _ (by simp)⟩

/-- A failure is neutral. -/
theorem answer_neutral
    {request : Request}
    {status : Status}
    {headers : List Text}
    {flow : Flow}
    (failing : status ≠ .ok) :
    ∀ write ∈
        logged (some request)
          (answer session request status headers flow).sends,
      write.Neutral := by
  intro write member
  rw [List.mem_singleton.mp member]
  apply Write.neutral_of_not_ok
  intro reply isReply
  cases isReply
  exact failing

/-- A successful request that changes nothing is neutral. -/
theorem Standing.append_reply
    {request : Request}
    {reply : Response}
    {method : String}
    (standing : Standing connection said session)
    (named : request.method = method.toList)
    (other : method ∉ ["SETUP", "PLAY", "PAUSE", "TEARDOWN"]) :
    Standing connection
      (said ++ [{ request := some request, send := .response reply }])
      session := by
  refine standing.append_neutral ?_ rfl rfl
  intro write member
  rw [List.mem_singleton.mp member]
  exact Write.neutral_of_method named other

/-- A 200 response to a request with the given method accepts it. -/
theorem Write.accepts_of_ok
    {request : Request}
    {reply : Response}
    {method : String}
    (named : request.method = method.toList)
    (succeeds : reply.status = .ok) :
    Write.Accepts method
      { request := some request, send := .response reply } :=
  ⟨⟨request, rfl, named⟩, reply, rfl, succeeds⟩

/-- A method has one name. -/
theorem Write.not_accepts_of_named
    {request : Request}
    {send : Send}
    {method other : String}
    (named : request.method = method.toList)
    (differs : method ≠ other) :
    ¬ Write.Accepts other { request := some request, send := send } :=
  Write.not_accepts_of_ne fun same =>
    differs (String.toList_inj.mp (named.symm.trans same))

/-- Behind an admitted request that goes on, variables and log agree. -/
theorem Dispatched.standing
    {request : Request}
    {handled : Handled}
    (dispatched :
      Dispatched connection iteration session request handled)
    (standing : Standing connection said session)
    (goesOn : handled.flow = .proceed ∨ handled.flow = .again) :
    Standing connection
      (said ++ logged (some request) handled.sends)
      handled.session := by
  cases dispatched with
  | options named =>
      exact standing.append_reply named (by decide)
  | described named _ _ =>
      exact standing.append_reply named (by decide)
  | parameters named =>
      exact standing.append_reply named (by decide)
  | unavailable _ _ =>
      exact standing.append_neutral (answer_neutral (by decide)) rfl rfl
  | unsupported _ _ =>
      exact standing.append_neutral (answer_neutral (by decide)) rfl rfl
  | notValid =>
      exact standing.append_neutral (answer_neutral (by decide)) rfl rfl
  | setUpFailed _ _ _ =>
      rcases goesOn with proceeds | again
      · cases proceeds
      · cases again
  | tornDown _ _ _ =>
      rcases goesOn with proceeds | again
      · cases proceeds
      · cases again
  | setUp named _ _ _ selected negotiated =>
      refine { playing := ?_, delivery := ?_ }
      · refine standing.playing.trans (playing_append_iff ?_ ?_).symm
        · intro write member
          rw [List.mem_singleton.mp member]
          exact Write.not_accepts_of_named named (by decide)
        · intro write member
          rw [List.mem_singleton.mp member]
          rintro (pause | teardown)
          · exact Write.not_accepts_of_named named (by decide) pause
          · exact Write.not_accepts_of_named named (by decide) teardown
      · intro delivery isSelected
        cases isSelected
        refine ⟨leadsTo_of_negotiateTransport negotiated,
          since_concat_of_opens ⟨Write.accepts_of_ok named rfl, ?_⟩⟩
        exact ⟨_, rfl, List.mem_cons_self⟩
  | played named _ =>
      refine { playing := ?_, delivery := ?_ }
      · refine iff_of_true ?_ ?_
        · cases session.subscription <;> rfl
        · exact since_concat_of_opens (Write.accepts_of_ok named rfl)
      · apply standing.delivery_append
        intro write member
        rw [List.mem_singleton.mp member]
        exact Write.not_accepts_of_named named (by decide)
  | paused named _ =>
      refine { playing := ?_, delivery := ?_ }
      · refine iff_of_false ?_ ?_
        · intro subscribed
          cases subscribed
        · apply not_since_concat_of_closes
          · exact .inl (Write.accepts_of_ok named rfl)
          · exact Write.not_accepts_of_named named (by decide)
      · apply standing.delivery_append
        intro write member
        rw [List.mem_singleton.mp member]
        exact Write.not_accepts_of_named named (by decide)

/-- Behind a request part that goes on, variables and log agree. -/
theorem served_standing
    {request : Option Request}
    (standing : Standing connection said session)
    (goesOn :
      (served connection iteration session request).flow = .proceed ∨
        (served connection iteration session request).flow = .again) :
    Standing connection
      (said ++
        logged request
          (served connection iteration session request).sends)
      (served connection iteration session request).session := by
  cases request with
  | none =>
      simpa [logged, served] using standing
  | some asked =>
      have outcome := serve_served connection iteration session asked
      change Standing connection
        (said ++
          logged (some asked)
            (serve connection iteration session asked).sends)
        (serve connection iteration session asked).session
      change (serve connection iteration session asked).flow = _ ∨
        (serve connection iteration session asked).flow = _ at goesOn
      generalize serve connection iteration session asked = handled
        at outcome goesOn ⊢
      cases outcome with
      | unauthorized _ _ =>
          exact standing.append_neutral (answer_neutral (by decide)) rfl
            rfl
      | refused _ status failing =>
          refine standing.append_neutral (answer_neutral ?_) rfl rfl
          rcases failing with rfl | rfl
          · decide
          · decide
      | admitted _ dispatched =>
          exact dispatched.standing
            ⟨standing.playing, standing.delivery⟩ goesOn

/-! ## What an iteration says -/

/-- Media is neutral. -/
theorem Write.IsMedia.neutral
    {write : Write}
    (isMedia : write.IsMedia) :
    write.Neutral := by
  apply Write.neutral_of_not_ok
  obtain ⟨delivery, packet, isPacket | isPacket⟩ := isMedia
  · rw [isPacket]
    intro reply member
    cases member
  · rw [isPacket]
    intro reply member
    cases member

/-- The request part writes no media. -/
theorem not_media_of_mem_served
    {request : Option Request}
    {send : Send}
    (member :
      send ∈ (served connection iteration session request).sends) :
    ¬ Write.IsMedia { request := request, send := send } := by
  rintro ⟨delivery, packet, isMedia⟩
  cases request with
  | none =>
      cases member
  | some asked =>
      have replied :=
        (serve_served connection iteration session asked).replied
      change send ∈ (serve connection iteration session asked).sends
        at member
      generalize serve connection iteration session asked = handled
        at replied member
      obtain ⟨session, sends, flow⟩ := handled
      cases replied with
      | once reply _ _ _ =>
          rw [List.mem_singleton.mp member] at isMedia
          rcases isMedia with isRtp | isRtcp
          · cases isRtp
          · cases isRtcp
      | farewell reply _ delivery =>
          simp only [List.mem_cons, List.not_mem_nil, or_false] at member
          rcases member with rfl | rfl
          · rcases isMedia with isRtp | isRtcp
            · cases isRtp
            · cases isRtcp
          · rcases isMedia with isRtp | isRtcp
            · cases isRtp
            · cases isRtcp
      | failed _ =>
          cases member

/-- The media part writes nothing but media. -/
theorem media_of_mem_streamed
    {request : Option Request}
    {sends : List Send}
    {next : Next}
    (streamed : Streamed connection iteration session (sends, next)) :
    ∀ write ∈ logged request sends, write.IsMedia := by
  intro write member
  obtain ⟨send, inMedia, rfl⟩ := List.mem_map.mp member
  obtain ⟨delivery, packet, _, _, isMedia⟩ := streamed.media inMedia
  exact ⟨delivery, packet, isMedia⟩

/-- Media is written behind the request part. -/
theorem exists_of_media
    {request : Option Request}
    {front back : List Send}
    {send : Send}
    (split :
      (turn connection iteration session request).1 =
        front ++ send :: back)
    (isMedia : Write.IsMedia { request := request, send := send }) :
    ∃ middle next,
      (served connection iteration session request).flow = .proceed ∧
        front =
          (served connection iteration session request).sends ++
            middle ∧
        Streamed connection iteration
          (served connection iteration session request).session
          (middle ++ send :: back, next) := by
  have notReply :
      send ∉ (served connection iteration session request).sends :=
    fun member => not_media_of_mem_served member isMedia
  have turned := turn_turned connection iteration session request
  generalize served connection iteration session request = handled
    at turned notReply ⊢
  generalize turn connection iteration session request = result
    at turned split
  cases turned with
  | proceeded flow streamed =>
      rename_i media next
      change handled.sends ++ media = front ++ send :: back at split
      rcases List.append_eq_append_iff.mp split with
        ⟨middle, rfl, rfl⟩ | ⟨middle, sendsEq, mediaEq⟩
      · exact ⟨middle, next, flow, rfl, streamed⟩
      · cases middle with
        | nil =>
            rw [List.nil_append] at mediaEq
            rw [List.append_nil] at sendsEq
            rw [← mediaEq] at streamed
            exact ⟨[], next, flow, by simp [sendsEq], streamed⟩
        | cons head middle =>
            obtain ⟨rfl, _⟩ := List.cons.inj mediaEq
            exact (notReply (by simp [sendsEq])).elim
  | again _ =>
      change handled.sends = _ at split
      exact (notReply (by simp [split])).elim
  | finished _ =>
      change handled.sends = _ at split
      exact (notReply (by simp [split])).elim
  | failed _ _ =>
      change handled.sends = _ at split
      exact (notReply (by simp [split])).elim

/-- Media is written while the stream plays, to the announced delivery. -/
theorem step_media
    {request : Option Request}
    (standing : Standing connection said session)
    {front back : List Send}
    {send : Send}
    (split :
      (step connection session request iteration).sends =
        front ++ send :: back)
    (isMedia : Write.IsMedia { request := request, send := send }) :
    Playing (said ++ logged request front) ∧
      ∀ delivery ∈ send.delivery?,
        delivery.LeadsTo connection.peerIp ∧
          Announced delivery (said ++ logged request front) := by
  obtain ⟨lost, whole⟩ :=
    prefix_step_sends connection session request iteration
  rw [split, List.append_assoc, List.cons_append] at whole
  obtain ⟨middle, next, flow, rfl, streamed⟩ :=
    exists_of_media whole.symm isMedia
  have behindRequest :
      Standing connection
        (said ++
          logged request
            (served connection iteration session request).sends)
        (served connection iteration session request).session :=
    served_standing standing (.inl flow)
  have middleNeutral :
      ∀ write ∈ logged request middle, write.Neutral := by
    intro write member
    apply Write.IsMedia.neutral
    apply media_of_mem_streamed streamed
    rw [logged_append]
    exact List.mem_append_left _ member
  have current :=
    behindRequest.append_neutral middleNeutral rfl rfl
  rw [List.append_assoc, ← logged_append] at current
  obtain ⟨delivery, packet, delivered, subscribed, isPacket⟩ :=
    streamed.media (List.mem_append_right middle List.mem_cons_self)
  refine ⟨current.playing.mp subscribed, ?_⟩
  intro other isDelivery
  apply current.delivery
  rcases isPacket with rfl | rfl
  · cases isDelivery
    exact delivered
  · cases isDelivery
    exact delivered

/-- Behind an iteration that goes on, variables and log agree. -/
theorem step_standing
    {request : Option Request}
    (standing : Standing connection said session)
    (running :
      (step connection session request iteration).next =
        .running after) :
    Standing connection
      (said ++
        (Transition.of connection session request iteration).log)
      after := by
  obtain ⟨performedEq, goesOn⟩ := step_running running
  have logEq :
      (Transition.of connection session request iteration).log =
        logged request
          (turn connection iteration session request).1 := by
    change logged request
      (step connection session request iteration).sends = _
    rw [performedEq]
  rw [logEq]
  have turned := turn_turned connection iteration session request
  have behindRequest :
      (served connection iteration session request).flow = .proceed ∨
          (served connection iteration session request).flow = .again →
        Standing connection
          (said ++
            logged request
              (served connection iteration session request).sends)
          (served connection iteration session request).session :=
    served_standing standing
  generalize served connection iteration session request = handled
    at turned behindRequest
  generalize turn connection iteration session request = result
    at turned goesOn ⊢
  cases turned with
  | again flow =>
      cases goesOn
      exact behindRequest (.inr flow)
  | proceeded flow streamed =>
      change _ = Next.running after at goesOn
      subst goesOn
      have same := streamed.sameControl
      have mediaNeutral :
          ∀ write ∈ logged request _, write.Neutral :=
        fun write member =>
          (media_of_mem_streamed streamed write member).neutral
      have current :=
        (behindRequest (.inl flow)).append_neutral mediaNeutral
          same.delivery same.subscription
      rw [List.append_assoc, ← logged_append] at current
      exact current
  | finished _ =>
      cases goesOn
  | failed _ _ =>
      cases goesOn

/-- A successful TEARDOWN answers, says goodbye and ends the loop. -/
theorem Served.farewell_of_ok
    {asked : Request}
    {handled : Handled}
    (served : Served connection iteration session asked handled)
    (named : asked.method = "TEARDOWN".toList)
    {reply : Response}
    (member : .response reply ∈ handled.sends)
    (succeeds : reply.status = .ok) :
    handled.flow = .finished ∧
      ∃ answered delivery,
        handled.sends =
          [.response answered, .bye delivery (rtcpBye connection.ssrc)] := by
  obtain ⟨_, dispatched⟩ := served.admitted_of_ok member succeeds
  cases dispatched with
  | tornDown _ delivery _ =>
      exact ⟨rfl, _, delivery, rfl⟩
  | notValid =>
      rw [status_of_mem_answer member] at succeeds
      cases succeeds
  | options other =>
      exact absurd (named.symm.trans other) (by decide)
  | described other _ _ =>
      exact absurd (named.symm.trans other) (by decide)
  | unavailable other _ =>
      exact absurd (named.symm.trans other) (by decide)
  | setUp other _ _ _ _ _ =>
      exact absurd (named.symm.trans other) (by decide)
  | setUpFailed other _ _ =>
      exact absurd (named.symm.trans other) (by decide)
  | unsupported other _ =>
      exact absurd (named.symm.trans other) (by decide)
  | played other _ =>
      exact absurd (named.symm.trans other) (by decide)
  | paused other _ =>
      exact absurd (named.symm.trans other) (by decide)
  | parameters other =>
      exact absurd (named.symm.trans other) (by decide)

/-- A turn that ends in order ends the connection, whatever is written. -/
theorem step_closed_of_turn_closed
    {request : Option Request}
    {result : Except IoError Unit}
    (closes :
      (turn connection iteration session request).2 = .closed result) :
    (step connection session request iteration).next.isClosed = true := by
  cases next : (step connection session request iteration).next with
  | running after =>
      rw [(step_running next).2] at closes
      cases closes
  | closed other =>
      rfl

/-- Behind a 200 response to TEARDOWN there is at most the goodbye. -/
theorem step_farewell
    {request : Option Request}
    {front back : List Send}
    {send : Send}
    (split :
      (step connection session request iteration).sends =
        front ++ send :: back)
    (accepts :
      Write.Accepts "TEARDOWN" { request := request, send := send }) :
    (step connection session request iteration).next.isClosed = true ∧
      ∃ delivery, back <+: [.bye delivery (rtcpBye connection.ssrc)] := by
  obtain ⟨⟨asked, isAsked, named⟩, reply, isReply, succeeds⟩ := accepts
  cases isAsked
  have sendEq : send = .response reply := by
    cases send with
    | response other =>
        cases isReply
        rfl
    | _ =>
        cases isReply
  subst sendEq
  have writtenPrefix :=
    prefix_step_sends connection session (some asked) iteration
  rw [split] at writtenPrefix
  have inTurn :
      .response reply ∈
        (turn connection iteration session (some asked)).1 :=
    writtenPrefix.subset (by simp)
  have inReply := mem_served_of_mem_turn inTurn
  obtain ⟨flow, answered, delivery, sendsEq⟩ :=
    (serve_served connection iteration session asked).farewell_of_ok named
      inReply succeeds
  have turned :
      turn connection iteration session (some asked) =
        ([.response answered, .bye delivery (rtcpBye connection.ssrc)],
          .closed (.ok ())) := by
    rw [turn, served, flow, sendsEq]
  refine ⟨step_closed_of_turn_closed (congrArg Prod.snd turned),
    delivery, ?_⟩
  rw [turned] at writtenPrefix
  cases front with
  | nil =>
      exact (List.cons_prefix_cons.mp writtenPrefix).2
  | cons head rest =>
      have behind := (List.cons_prefix_cons.mp writtenPrefix).2
      have isBye :
          Send.response reply ∈
            [Send.bye delivery (rtcpBye connection.ssrc)] :=
        behind.subset (by simp)
      cases List.mem_singleton.mp isBye

end Standing

/-! ## What a run says -/

section Run

variable {connection : Connection}
variable {session : Session}
variable {transitions : List Transition}
variable {next : Next}
variable {said : List Write}

/-- An iteration of a run, with what was said before it. -/
structure Reached
    (connection : Connection)
    (said : List Write)
    (transition : Transition) : Prop where
  performed :
    transition =
      .of connection transition.before transition.request
        transition.iteration
  standing : Standing connection said transition.before

/-- Variables and log agree at every iteration; a closing one is the last. -/
theorem Runs.reached
    (runs : Runs connection session transitions next)
    (standing : Standing connection said session)
    {earlier later : List Transition}
    {transition : Transition}
    (split : transitions = earlier ++ transition :: later) :
    Reached connection (said ++ log earlier) transition ∧
      (transition.performed.next.isClosed = true → later = []) := by
  induction runs generalizing said earlier with
  | nil session =>
      have impossible := congrArg List.length split
      simp at impossible
  | closed session request iteration result closes =>
      cases earlier with
      | nil =>
          obtain ⟨rfl, rfl⟩ := List.cons.inj split
          refine ⟨⟨rfl, ?_⟩, fun _ => rfl⟩
          rw [log, List.flatMap_nil, List.append_nil]
          exact standing
      | cons first rest =>
          have impossible := congrArg List.length split
          simp at impossible
  | running session request iteration after goesOn rest
      inductionHypothesis =>
      cases earlier with
      | nil =>
          obtain ⟨rfl, rfl⟩ := List.cons.inj split
          refine ⟨⟨rfl, ?_⟩, ?_⟩
          · rw [log, List.flatMap_nil, List.append_nil]
            exact standing
          · intro closes
            change (step connection session request
              iteration).next.isClosed = true at closes
            rw [goesOn] at closes
            cases closes
      | cons first earlier =>
          obtain ⟨rfl, restEq⟩ := List.cons.inj split
          have continued :=
            inductionHypothesis (step_standing standing goesOn) restEq
          rw [List.append_assoc] at continued
          exact continued

/-- The iteration of a write of a run. -/
theorem Runs.exists_of_log
    (runs : Runs connection session transitions next)
    (standing : Standing connection [] session)
    {earlier later : List Write}
    {write : Write}
    (split : log transitions = earlier ++ write :: later) :
    ∃ before transition behind front back,
      transitions = before ++ transition :: behind ∧
        transition.performed.sends = front ++ write.send :: back ∧
        write.request = transition.request ∧
        earlier = log before ++ logged transition.request front ∧
        later = logged transition.request back ++ log behind ∧
        Reached connection (log before) transition ∧
        (transition.performed.next.isClosed = true → behind = []) := by
  obtain ⟨before, transition, behind, front, back, transitionsEq, logEq,
      earlierEq, laterEq⟩ :=
    exists_of_flatMap split
  obtain ⟨frontSends, backSends, sendsEq, frontEq, backEq⟩ :=
    List.map_eq_append_iff.mp logEq
  obtain ⟨send, backSends, rfl, writeEq, restEq⟩ :=
    List.map_eq_cons_iff.mp backEq
  obtain ⟨reached, isLast⟩ := runs.reached standing transitionsEq
  rw [List.nil_append] at reached
  subst writeEq
  exact ⟨before, transition, behind, frontSends, backSends,
    transitionsEq, sendsEq, rfl, by rw [earlierEq, ← frontEq]; rfl,
    by rw [laterEq, ← restEq]; rfl, reached, isLast⟩

end Run

/-! ## Resuming -/

section Resume

variable {connection : Connection}
variable {iteration : Iteration}
variable {session after : Session}
variable {asked : Request}
variable {handled : Handled}

/-- Only a successful PAUSE drops the subscription. -/
theorem Served.paused_of_dropped
    (served : Served connection iteration session asked handled)
    (subscribed : session.subscription.isSome = true)
    (dropped : handled.session.subscription = none) :
    asked.method = "PAUSE".toList ∧
      ∃ reply, .response reply ∈ handled.sends ∧ reply.status = .ok := by
  have changed : handled.session.subscription ≠ session.subscription := by
    intro same
    rw [← same, dropped] at subscribed
    cases subscribed
  rcases served.play_or_pause_of_subscription_ne changed with
    ⟨_, stopped⟩ | ⟨named, _⟩
  · rw [stopped] at subscribed
    cases subscribed
  · refine ⟨named, ?_⟩
    rcases served.dispatched_or_turnedAway with dispatched | turnedAway
    · cases dispatched with
      | paused _ _ =>
          exact ⟨_, List.mem_cons_self, rfl⟩
      | played other _ =>
          exact absurd (named.symm.trans other) (by decide)
      | _ =>
          exact (changed rfl).elim
    · exact (changed turnedAway.subscription).elim

/-- A successful PLAY subscribes, unless there is a subscription. -/
theorem Served.subscription_of_played
    (served : Served connection iteration session asked handled)
    (named : asked.method = "PLAY".toList)
    {reply : Response}
    (member : .response reply ∈ handled.sends)
    (succeeds : reply.status = .ok) :
    handled.session.subscription =
      session.subscription.or (some iteration.subscription) := by
  obtain ⟨_, dispatched⟩ := served.admitted_of_ok member succeeds
  cases dispatched with
  | played _ _ =>
      rfl
  | notValid =>
      rw [status_of_mem_answer member] at succeeds
      cases succeeds
  | options other =>
      exact absurd (named.symm.trans other) (by decide)
  | described other _ _ =>
      exact absurd (named.symm.trans other) (by decide)
  | unavailable other _ =>
      exact absurd (named.symm.trans other) (by decide)
  | setUp other _ _ _ _ _ =>
      exact absurd (named.symm.trans other) (by decide)
  | setUpFailed other _ _ =>
      exact absurd (named.symm.trans other) (by decide)
  | unsupported other _ =>
      exact absurd (named.symm.trans other) (by decide)
  | paused other _ =>
      exact absurd (named.symm.trans other) (by decide)
  | parameters other =>
      exact absurd (named.symm.trans other) (by decide)
  | tornDown other _ _ =>
      exact absurd (named.symm.trans other) (by decide)

/-- The writes of the request part come first. -/
theorem prefix_turn_served (request : Option Request) :
    (served connection iteration session request).sends <+:
      (turn connection iteration session request).1 := by
  have turned := turn_turned connection iteration session request
  generalize served connection iteration session request = handled
    at turned ⊢
  generalize turn connection iteration session request = result
    at turned ⊢
  cases turned with
  | proceeded _ _ =>
      exact List.prefix_append _ _
  | _ =>
      exact List.prefix_refl _

variable {live : LiveTransition}
variable {id : SubscriptionId}

/-- Whoever drops the subscription and goes on has accepted PAUSE. -/
theorem accepts_pause_of_dropped
    (performed :
      live.transition.performed =
        step connection live.transition.before live.transition.request
          live.transition.iteration)
    (running : live.transition.performed.next = .running after)
    (isOwned : live.owned = some id)
    (dropped : live.kept connection = none) :
    ∃ write ∈ live.transition.log, write.Accepts "PAUSE" := by
  rw [performed] at running
  obtain ⟨performedEq, _⟩ := step_running running
  cases isAsked : live.transition.request with
  | none =>
      rw [LiveTransition.kept, Transition.handled, isAsked] at dropped
      change live.owned = none at dropped
      rw [isOwned] at dropped
      cases dropped
  | some asked =>
      rw [LiveTransition.kept, Transition.handled, isAsked] at dropped
      have subscribed :
          live.transition.before.subscription.isSome = true := by
        rw [LiveTransition.owned] at isOwned
        rw [isOwned]
        rfl
      obtain ⟨named, reply, replied, succeeds⟩ :=
        (serve_served connection live.transition.iteration
          live.transition.before asked).paused_of_dropped subscribed
          dropped
      have written : .response reply ∈ live.transition.performed.sends := by
        rw [performed, performedEq, isAsked]
        exact (prefix_turn_served (some asked)).subset replied
      refine ⟨{ request := some asked, send := .response reply }, ?_,
        Write.accepts_of_ok named succeeds⟩
      rw [Transition.log, logged, isAsked]
      exact List.mem_map_of_mem written

/-- What is taken while nobody pauses is what the subscription receives. -/
theorem LiveRuns.takenUnits_eq
    {broadcaster : Broadcaster}
    {transitions playing later : List LiveTransition}
    (runs : LiveRuns connection session broadcaster transitions)
    (wellFormed : broadcaster.WellFormed)
    (isOwned : session.subscription = some id)
    (isAlive : broadcaster.alive id = true)
    (split : transitions = playing ++ later)
    (noPause :
      ∀ write ∈ log (playing.map LiveTransition.transition),
        ¬ write.Accepts "PAUSE") :
    takenUnits connection (playing.map LiveTransition.transition) =
      Broadcaster.receivedBy id broadcaster
        (playing.flatMap LiveTransition.operations) := by
  induction runs generalizing playing with
  | nil session broadcaster =>
      obtain ⟨rfl, _⟩ := List.append_eq_nil_iff.mp split.symm
      rfl
  | closed session broadcaster request surroundings interference result
      closes =>
      cases playing with
      | nil =>
          rfl
      | cons live rest =>
          obtain ⟨rfl, restEq⟩ := List.cons.inj split
          obtain ⟨rfl, _⟩ := List.append_eq_nil_iff.mp restEq.symm
          have follows :=
            liveStep_follows connection session broadcaster request
              surroundings interference
          have received :=
            follows.receivedBy_operations isOwned wellFormed isAlive
          rw [List.flatMap_singleton, List.map_singleton, takenUnits_cons]
          exact (List.append_nil _).trans received.symm
  | running session broadcaster request surroundings interference after
      goesOn rest inductionHypothesis =>
      cases playing with
      | nil =>
          rfl
      | cons live playing =>
          obtain ⟨rfl, restEq⟩ := List.cons.inj split
          have follows :=
            liveStep_follows connection session broadcaster request
              surroundings interference
          have noPauseHere :
              ∀ write ∈
                  (liveStep connection session broadcaster request
                    surroundings interference).transition.log,
                ¬ write.Accepts "PAUSE" :=
            fun write member => noPause write (by simp [log, member])
          have isFound :
              (liveStep connection session broadcaster request surroundings
                interference).owned = some id :=
            isOwned
          have isKept :
              (liveStep connection session broadcaster request surroundings
                interference).kept connection = some id := by
            apply (LiveTransition.kept_eq_or_none isFound).resolve_right
            intro dropped
            obtain ⟨write, member, accepts⟩ :=
              accepts_pause_of_dropped rfl goesOn isFound dropped
            exact noPauseHere write member accepts
          have aliveBehind :=
            follows.alive_subscribed isOwned isKept wellFormed isAlive
          have aliveAfter :=
            follows.alive_after isKept (wellFormed.run _) aliveBehind
              (by rw [goesOn]; rfl)
          have received :=
            follows.receivedBy_operations isOwned wellFormed isAlive
          have subscriptionEq := (step_sameControl goesOn).subscription
          have continued :=
            inductionHypothesis (wellFormed.run _)
              (subscriptionEq.trans isKept) aliveAfter restEq
              fun write member => noPause write (by
                rw [List.map_cons, log, List.flatMap_cons]
                exact List.mem_append_right _ member)
          rw [List.map_cons, takenUnits_cons, continued, List.flatMap_cons,
            Broadcaster.receivedBy_append]
          exact congrArg (· ++ _) received.symm

end Resume

/-! ## Whole runs -/

/-- The first units since PLAY, for `resumes` of `MediaRules`. -/
structure ResumesAt
    (connection : Connection)
    (first : LiveTransition)
    (playing : List LiveTransition)
    (id : SubscriptionId) : Prop where
  created :
    (first.found.run first.before).subscribe = (id, first.subscribed)
  firstUnit :
    ∀ accessUnit ∈
        (takenUnits connection
          ((first :: playing).map LiveTransition.transition)).head?,
      IsKeyframe accessUnit ∧
        accessUnit ∈
          Broadcaster.publishedTo id first.subscribed
            (first.since ++ playing.flatMap LiveTransition.operations)

section Rules

variable {connection : Connection}
variable {session : Session}
variable {broadcaster : Broadcaster}
variable {transitions : List LiveTransition}

/-- A successful PLAY without a subscription creates one. -/
theorem kept_of_accepts_play
    {live : LiveTransition}
    (performed :
      live.transition.performed =
        step connection live.transition.before live.transition.request
          live.transition.iteration)
    (stopped : live.owned = none)
    (accepts : ∃ write ∈ live.transition.log, write.Accepts "PLAY") :
    live.kept connection = some live.transition.iteration.subscription := by
  obtain ⟨write, member, ⟨asked, isAsked, named⟩, reply, isReply,
      succeeds⟩ :=
    accepts
  obtain ⟨send, sent, rfl⟩ := List.mem_map.mp member
  have responded :
      reply ∈
        (step connection live.transition.before live.transition.request
          live.transition.iteration).sends.filterMap Send.response? := by
    rw [← performed]
    exact List.mem_filterMap.mpr ⟨send, sent, isReply⟩
  have replied := mem_served_of_mem_responses responded
  change asked ∈ live.transition.request at isAsked
  rw [Option.mem_def.mp isAsked] at replied
  rw [LiveTransition.kept, Transition.handled, Option.mem_def.mp isAsked]
  have subscriptionEq :=
    (serve_served connection live.transition.iteration
      live.transition.before asked).subscription_of_played named replied
      succeeds
  rw [LiveTransition.owned] at stopped
  rw [stopped, Option.none_or] at subscriptionEq
  exact subscriptionEq

/-- A new subscription begins with a keyframe published since then. -/
theorem LiveRuns.resumes
    (runs : LiveRuns connection session broadcaster transitions)
    (wellFormed : broadcaster.WellFormed)
    (standing : Standing connection [] session)
    {earlier playing later : List LiveTransition}
    {first : LiveTransition}
    (split : transitions = earlier ++ first :: (playing ++ later))
    (silent :
      ¬ Playing (log (earlier.map LiveTransition.transition)))
    (accepts : ∃ write ∈ first.transition.log, write.Accepts "PLAY")
    (noPause :
      ∀ write ∈ log (playing.map LiveTransition.transition),
        ¬ write.Accepts "PAUSE") :
    ∃ id, ResumesAt connection first playing id := by
  obtain ⟨next, loopRuns⟩ := runs.runs
  have mapEq := congrArg (List.map LiveTransition.transition) split
  rw [List.map_append, List.map_cons] at mapEq
  obtain ⟨⟨performed, firstStanding⟩, _⟩ :=
    loopRuns.reached standing mapEq
  rw [List.nil_append] at firstStanding
  obtain ⟨follows, foundWellFormed, behind⟩ :=
    runs.of_append wellFormed split
  have stopped : first.owned = none := by
    rw [← Option.not_isSome_iff_eq_none]
    intro subscribed
    exact silent (firstStanding.playing.mp subscribed)
  have performedEq := congrArg Transition.performed performed
  have isKept := kept_of_accepts_play performedEq stopped accepts
  rw [follows.subscribes] at isKept
  have created :
      (first.found.run first.before).subscribe =
        ((first.found.run first.before).subscribe.1,
          first.subscribed) := by
    rw [LiveTransition.subscribed, follows.requested, stopped, isKept,
      Broadcaster.run_append]
    rfl
  have joined :=
    Broadcaster.shared_subscribe (first.found.run first.before)
  change (first.found.run first.before).subscribe.2.shared[
    (first.found.run first.before).subscribe.1]? = _ at joined
  generalize (first.found.run first.before).subscribe.1 = id
    at isKept created joined
  rw [congrArg Prod.snd created] at joined
  refine ⟨id, created, ?_⟩
  have behindRequest : first.subscribed.WellFormed :=
    foundWellFormed.run _
  have isAlive : first.subscribed.alive id = true := by
    rw [Broadcaster.alive, joined]
    rfl
  have receivedFirst :=
    follows.receivedBy_since isKept behindRequest isAlive
  have reached : first.subscribed.run first.since = first.after := by
    rw [LiveTransition.after, LiveTransition.operations_eq,
      Broadcaster.run_append]
    rfl
  have receivedLater :
      takenUnits connection (playing.map LiveTransition.transition) =
        Broadcaster.receivedBy id first.after
          (playing.flatMap LiveTransition.operations) := by
    rcases behind with isLast | ⟨after, running, subscriptionEq, rest⟩
    · obtain ⟨rfl, _⟩ := List.append_eq_nil_iff.mp isLast
      rfl
    · apply rest.takenUnits_eq (foundWellFormed.run _)
        (subscriptionEq.trans isKept) _ rfl noPause
      exact follows.alive_after isKept behindRequest isAlive
        (by rw [running]; rfl)
  have takenEq :
      takenUnits connection
          ((first :: playing).map LiveTransition.transition) =
        Broadcaster.receivedBy id first.subscribed
          (first.since ++ playing.flatMap LiveTransition.operations) := by
    rw [List.map_cons, takenUnits_cons, receivedLater,
      Broadcaster.receivedBy_append, receivedFirst, reached]
  obtain ⟨published, headIsKey⟩ :=
    Broadcaster.receivedBy_of_joined behindRequest joined
      (first.since ++ playing.flatMap LiveTransition.operations)
  rw [takenEq]
  intro accessUnit isHead
  exact ⟨headIsKey accessUnit isHead,
    published accessUnit (List.mem_of_head? isHead)⟩

end Rules

/-- The media of a run, against the responses in its log. -/
structure MediaRules
    (connection : Connection)
    (transitions : List LiveTransition) : Prop where
  whilePlaying :
    ∀ earlier write later,
      log (transitions.map LiveTransition.transition) =
          earlier ++ write :: later →
        write.IsMedia →
          Since (Write.Accepts "PLAY") Write.Stops earlier
  destination :
    ∀ earlier write later,
      log (transitions.map LiveTransition.transition) =
          earlier ++ write :: later →
        write.IsMedia →
          ∀ delivery ∈ write.send.delivery?,
            delivery.LeadsTo connection.peerIp ∧
              Since (Write.Announces delivery) (Write.Accepts "SETUP")
                earlier
  carried :
    ∀ earlier write later delivery packet,
      log (transitions.map LiveTransition.transition) =
          earlier ++ write :: later →
        write.send = .rtp delivery packet →
          ∃ destination : Destination,
            destination.Receives packet write.send ∧
              destination.IsAt connection.peerIp ∧
              Since (Write.Offers destination) (Write.Accepts "SETUP")
                earlier
  packets :
    ∀ live ∈ transitions,
      ∃ counters,
        rtpPackets live.transition.performed.sends <+:
          (live.transition.taken connection).elim [] fun accessUnit =>
            (sendAccessUnit connection.ssrc counters accessUnit).1
  resumes :
    ∀ earlier first playing later,
      transitions = earlier ++ first :: (playing ++ later) →
        ¬ Since (Write.Accepts "PLAY") Write.Stops
            (log (earlier.map LiveTransition.transition)) →
        (∃ write ∈ first.transition.log, write.Accepts "PLAY") →
        (∀ write ∈ log (playing.map LiveTransition.transition),
          ¬ write.Accepts "PAUSE") →
          ∃ id, ResumesAt connection first playing id
  farewell :
    ∀ earlier write later,
      log (transitions.map LiveTransition.transition) =
          earlier ++ write :: later →
        write.Accepts "TEARDOWN" →
          ∃ delivery,
            later.map Write.send <+:
              [.bye delivery (rtcpBye connection.ssrc)]

/--
Over every run of a connection on a broadcaster, whatever is requested,
published and done by other threads: media is written only between PLAY and
PAUSE, to the delivery announced last; every RTP packet goes to the channel, or
to the port of the peer, that the last accepted SETUP has named; every new
subscription begins with a keyframe published since then; and behind TEARDOWN
there is only the goodbye.
-/
theorem media_between_play_and_pause
    (connection : Connection)
    (opening : Opening)
    (history : List Broadcaster.Operation)
    (inputs : List LiveInput) :
    MediaRules connection
      (liveHandle connection (.start opening) []
        (Broadcaster.initial.run history) inputs).transitions := by
  have runs :=
    liveHandle_runs connection (.start opening) []
      (Broadcaster.initial.run history) inputs
  have standing := standing_start connection opening
  generalize
    (liveHandle connection (.start opening) []
      (Broadcaster.initial.run history) inputs).transitions = transitions
    at runs
  obtain ⟨next, loopRuns⟩ := runs.runs
  have media
      {earlier later : List Write}
      {write : Write}
      (split :
        log (transitions.map LiveTransition.transition) =
          earlier ++ write :: later)
      (isMedia : write.IsMedia) :
      Playing earlier ∧
        ∀ delivery ∈ write.send.delivery?,
          delivery.LeadsTo connection.peerIp ∧
            Announced delivery earlier := by
    obtain ⟨before, transition, behind, front, back, _, sendsEq,
        requestEq, earlierEq, _, reached, _⟩ :=
      loopRuns.exists_of_log standing split
    rw [earlierEq]
    rw [congrArg Transition.performed reached.performed] at sendsEq
    apply step_media reached.standing sendsEq
    rw [← requestEq]
    exact isMedia
  have packets :
      ∀ transition ∈ transitions.map LiveTransition.transition,
        ∃ counters,
          rtpPackets transition.performed.sends <+:
            (transition.taken connection).elim [] fun accessUnit =>
              (sendAccessUnit connection.ssrc counters accessUnit).1 := by
    refine loopRuns.forall_transitions (fun _ => True)
      (fun _ _ => trivial) ?_ trivial
    intro session request iteration _
    refine ⟨session.counters, ?_⟩
    have attempted :=
      (@turn_packets connection iteration session request).1
    change rtpPackets (step connection session request iteration).sends <+:
      (taken iteration
        (served connection iteration session request)).elim [] _
    rw [← attempted]
    exact (prefix_step_sends _ _ _ _).filterMap Send.rtp?
  exact {
    whilePlaying := fun earlier write later split isMedia =>
      (media split isMedia).1
    destination := fun earlier write later split isMedia =>
      (media split isMedia).2
    carried := by
      intro earlier write later delivery packet split isRtp
      have isMedia : write.IsMedia := ⟨delivery, packet, .inl isRtp⟩
      have isDelivery : delivery ∈ write.send.delivery? := by
        rw [isRtp]
        rfl
      obtain ⟨leads, announced⟩ := (media split isMedia).2 delivery isDelivery
      rw [isRtp]
      exact exists_destination leads announced packet
    packets := fun live member =>
      packets live.transition (List.mem_map_of_mem member)
    resumes := fun earlier first playing later split silent accepts
        noPause =>
      runs.resumes (Broadcaster.wellFormed_initial.run history) standing
        split silent accepts noPause
    farewell := by
      intro earlier write later split accepts
      obtain ⟨before, transition, behind, front, back, _, sendsEq,
          requestEq, _, laterEq, reached, isLast⟩ :=
        loopRuns.exists_of_log standing split
      have performedEq := congrArg Transition.performed reached.performed
      rw [performedEq] at sendsEq isLast
      rw [← requestEq] at laterEq
      obtain ⟨closes, delivery, isBye⟩ :=
        step_farewell sendsEq (requestEq ▸ accepts)
      refine ⟨delivery, ?_⟩
      rw [laterEq, isLast closes]
      simpa [logged, log, Function.comp_def] using isBye
  }

end CamRtsp
