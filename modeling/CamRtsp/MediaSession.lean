import CamRtsp.AccessControl
import CamRtsp.Foundation.StepTrace
import CamRtsp.RtpStream

namespace CamRtsp

open RustText H264Payload RtpFormat StepTrace

/-!
# Media over a whole session

The counters of `handle` live as long as the connection.  `Counted` reads them
off the writes: each RTP packet carries the next sequence number, and each
sender report what was sent before it.
-/

/-- The RTP packet a write consists of. -/
def Send.rtp? : Send → Option Bytes
  | .response _ => none
  | .rtp _ bytes => some bytes
  | .rtcp _ _ => none
  | .bye _ _ => none

/-- The RTP packets among the writes. -/
def rtpPackets (sends : List Send) : List Bytes :=
  sends.filterMap Send.rtp?

/-- The number of payload bytes in RTP packets. -/
def payloadOctets (packets : List Bytes) : Nat :=
  (packets.map fun packet => (payloadOf packet).length).sum

theorem rtpPackets_append (first second : List Send) :
    rtpPackets (first ++ second) =
      rtpPackets first ++ rtpPackets second :=
  List.filterMap_append

/-! ## Accounting for writes -/

/-- A write that agrees with the counters, and the counters behind it. -/
inductive Counted (ssrc : UInt32) :
    RtpCounters → Send → RtpCounters → Prop where
  | rtp
      (counters : RtpCounters)
      (delivery : Delivery)
      (payload : Bytes)
      (timestamp : UInt32)
      (marker : Bool)
      (fits : payload.length ≤ rtpMtu) :
      Counted ssrc counters
        (.rtp delivery
          (rtpPacket payload counters.sequence timestamp ssrc marker))
        (counters.advance payload)
  | report
      (counters : RtpCounters)
      (delivery : Delivery)
      (clock : WallClock)
      (timestamp : UInt32) :
      Counted ssrc counters
        (.rtcp delivery
          (rtcpSenderReport clock ssrc timestamp counters.packets
            counters.octets))
        counters
  | response
      (counters : RtpCounters)
      (reply : Response) :
      Counted ssrc counters (.response reply) counters
  | bye
      (counters : RtpCounters)
      (delivery : Delivery) :
      Counted ssrc counters (.bye delivery (rtcpBye ssrc)) counters

section Accounts

variable {ssrc : UInt32}
variable {before after : RtpCounters}
variable {sends : List Send}

end Accounts

/-! ## Writes of an iteration -/

section Iteration

variable {connection : Connection}
variable {iteration : Iteration}
variable {session after : Session}
variable {request : Option Request}

/-- A plan is counted packet by packet. -/
theorem sendPlan_trace
    {ssrc timestamp : UInt32}
    {counters : RtpCounters}
    {plan : List (Bytes × Bool)}
    (fits : ∀ entry ∈ plan, entry.1.length ≤ rtpMtu)
    (delivery : Delivery) :
    Trace (Counted ssrc) counters
      (((sendPlan ssrc timestamp counters plan).1.map
        Packet.encode).map (.rtp delivery))
      (sendPlan ssrc timestamp counters plan).2 := by
  induction plan generalizing counters with
  | nil =>
      exact .nil counters
  | cons entry later inductionHypothesis =>
      have rest :=
        @inductionHypothesis (counters.advance entry.1)
          fun other member => fits other (by simp [member])
      exact .cons
        (.rtp counters delivery entry.1 timestamp entry.2
          (fits entry (by simp)))
        rest

/-- The packets of an access unit are counted. -/
theorem sendAccessUnit_trace
    (ssrc : UInt32)
    (counters : RtpCounters)
    (accessUnit : EncodedAccessUnit)
    (delivery : Delivery) :
    Trace (Counted ssrc) counters
      ((sendAccessUnit ssrc counters accessUnit).1.map (.rtp delivery))
      (sendAccessUnit ssrc counters accessUnit).2 := by
  rw [sendAccessUnit, sendNalUnits_eq]
  exact sendPlan_trace
    (fun entry member => length_le_of_mem_planNalUnits member) delivery

theorem sendMedia_trace
    (connection : Connection)
    (iteration : Iteration)
    (session : Session)
    (delivery : Delivery) :
    Trace (Counted connection.ssrc) session.counters
      (sendMedia connection iteration session delivery).1
      (sendMedia connection iteration session delivery).2.counters := by
  unfold sendMedia
  split
  · exact sendAccessUnit_trace _ _ _ delivery
  · exact .nil _

theorem sendReport_trace
    (connection : Connection)
    (iteration : Iteration)
    (session : Session)
    (delivery : Delivery) :
    Trace (Counted connection.ssrc) session.counters
      (sendReport connection iteration session delivery).1
      (sendReport connection iteration session delivery).2.counters := by
  unfold sendReport
  split
  · split
    · exact .single (.report session.counters delivery _ _)
    · exact .nil _
  · exact .nil _

/-- Serving a request counts nothing. -/
theorem Served.counters_eq
    {asked : Request}
    {handled : Handled}
    (served : Served connection iteration session asked handled) :
    handled.session.counters = session.counters := by
  cases served with
  | unauthorized _ _ =>
      rfl
  | refused _ _ _ =>
      rfl
  | admitted _ dispatched =>
      cases dispatched <;> rfl

theorem served_counters :
    (served connection iteration session request).session.counters =
      session.counters := by
  cases request with
  | none =>
      rfl
  | some asked =>
      exact (serve_served connection iteration session asked).counters_eq

/-- Serving a request writes no packet. -/
theorem Served.trace
    {asked : Request}
    {handled : Handled}
    (served : Served connection iteration session asked handled) :
    Trace (Counted connection.ssrc) session.counters handled.sends
      handled.session.counters := by
  rw [served.counters_eq]
  apply Trace.of_forall_stays
  intro send member
  have replied := served.replied
  generalize handled.sends = sends at member replied
  generalize handled.flow = flow at replied
  cases replied with
  | once reply _ _ =>
      rw [List.mem_singleton.mp member]
      exact .response _ reply
  | farewell reply _ delivery =>
      rcases List.mem_cons.mp member with isReply | isBye
      · rw [isReply]
        exact .response _ reply
      · rw [List.mem_singleton.mp isBye]
        exact .bye _ delivery
  | failed =>
      cases member

/-- The media part is counted. -/
theorem Streamed.trace
    {sends : List Send}
    {next : Next}
    (streamed : Streamed connection iteration session (sends, next)) :
    ∃ counters,
      Trace (Counted connection.ssrc) session.counters sends counters ∧
        ∀ after ∈ next.session?, after.counters = counters := by
  cases streamed with
  | idle _ _ =>
      exact ⟨session.counters, .nil _, fun _ closed => by cases closed⟩
  | waiting _ =>
      exact ⟨session.counters, .nil _, fun _ same => by cases same; rfl⟩
  | playing _ _ delivery _ mediaEq reportEq =>
      subst mediaEq reportEq
      refine ⟨_, ?_, fun _ same => by cases same; rfl⟩
      apply Trace.append
        (sendMedia_trace connection iteration session delivery)
      exact sendReport_trace connection iteration _ delivery

/-- The request part is counted, and counts nothing. -/
theorem served_trace :
    Trace (Counted connection.ssrc) session.counters
      (served connection iteration session request).sends
      (served connection iteration session request).session.counters := by
  cases request with
  | none =>
      exact .nil _
  | some asked =>
      exact (serve_served connection iteration session asked).trace

/-- A turn is counted. -/
theorem turn_trace :
    ∃ counters,
      Trace (Counted connection.ssrc) session.counters
          (turn connection iteration session request).1 counters ∧
        ∀ after ∈
            (turn connection iteration session request).2.session?,
          after.counters = counters := by
  have trace :
      Trace (Counted connection.ssrc) session.counters
        (served connection iteration session request).sends
        (served connection iteration session
          request).session.counters :=
    served_trace
  have turned := turn_turned connection iteration session request
  generalize served connection iteration session request = handled
    at trace turned
  generalize turn connection iteration session request = result
    at turned ⊢
  cases turned with
  | again _ =>
      exact ⟨_, trace, fun _ same => by cases same; rfl⟩
  | proceeded _ streamed =>
      obtain ⟨counters, media, countersEq⟩ := streamed.trace
      exact ⟨counters, trace.append media, countersEq⟩
  | finished _ =>
      exact ⟨_, trace, fun _ closed => by cases closed⟩
  | failed _ _ =>
      exact ⟨_, trace, fun _ closed => by cases closed⟩

end Iteration

/-! ## Access units of an iteration -/

/-- The access unit that is taken from the subscription behind a request. -/
def taken (iteration : Iteration) (handled : Handled) :
    Option EncodedAccessUnit :=
  if handled.flow = .proceed ∧
      handled.session.subscription.isSome = true ∧
      handled.session.delivery.isSome = true then
    iteration.received
  else
    none

/-- The access unit an iteration takes from its subscription. -/
def Transition.taken
    (connection : Connection)
    (transition : Transition) : Option EncodedAccessUnit :=
  CamRtsp.taken transition.iteration (transition.handled connection)

section AccessUnit

variable {connection : Connection}
variable {iteration : Iteration}
variable {session : Session}
variable {request : Option Request}

/-- Answers contain no packet. -/
theorem rtpPackets_served :
    rtpPackets (served connection iteration session request).sends =
      [] := by
  cases request with
  | none =>
      rfl
  | some asked =>
      have replied :=
        (serve_served connection iteration session asked).replied
      change rtpPackets (serve connection iteration session asked).sends =
        []
      generalize serve connection iteration session asked = handled
        at replied
      obtain ⟨session, sends, flow⟩ := handled
      cases replied <;> rfl

/-- The media part sends the received access unit. -/
theorem rtpPackets_playing
    (connection : Connection)
    (iteration : Iteration)
    (session : Session)
    (delivery : Delivery) :
    rtpPackets
        ((sendMedia connection iteration session delivery).1 ++
          (sendReport connection iteration
            (sendMedia connection iteration session delivery).2
            delivery).1) =
      iteration.received.elim [] fun accessUnit =>
        (sendAccessUnit connection.ssrc session.counters accessUnit).1 := by
  have noReport
      (session : Session) :
      rtpPackets (sendReport connection iteration session delivery).1 =
        [] := by
    unfold sendReport
    split
    · split
      · rfl
      · rfl
    · rfl
  rw [rtpPackets_append, noReport, List.append_nil]
  unfold sendMedia
  split
  · rename_i accessUnit received
    rw [received]
    simp [rtpPackets, List.filterMap_map, Function.comp_def, Send.rtp?]
  · rename_i received
    rw [received]
    rfl

/-- Behind the media part, exactly its packets are counted. -/
theorem counters_playing
    (connection : Connection)
    (iteration : Iteration)
    (session : Session)
    (delivery : Delivery) :
    (sendReport connection iteration
        (sendMedia connection iteration session delivery).2
        delivery).2.counters =
      iteration.received.elim session.counters fun accessUnit =>
        (sendAccessUnit connection.ssrc session.counters accessUnit).2 := by
  have reportKeeps
      (session : Session) :
      (sendReport connection iteration session delivery).2.counters =
        session.counters := by
    unfold sendReport
    split
    · split <;> rfl
    · rfl
  rw [reportKeeps]
  unfold sendMedia
  split
  · rename_i accessUnit received
    rw [received]
    rfl
  · rename_i received
    rw [received]
    rfl

/-- A turn sends and counts the access unit it takes. -/
theorem turn_packets :
    rtpPackets (turn connection iteration session request).1 =
        (taken iteration
          (served connection iteration session request)).elim []
          (fun accessUnit =>
            (sendAccessUnit connection.ssrc session.counters
              accessUnit).1) ∧
      ∀ after ∈ (turn connection iteration session request).2.session?,
        after.counters =
          (taken iteration
            (served connection iteration session request)).elim
            session.counters
            fun accessUnit =>
              (sendAccessUnit connection.ssrc session.counters
                accessUnit).2 := by
  have noPacket :
      rtpPackets (served connection iteration session request).sends =
        [] :=
    rtpPackets_served
  have countersEq :
      (served connection iteration session request).session.counters =
        session.counters :=
    served_counters
  have turned := turn_turned connection iteration session request
  generalize served connection iteration session request = handled
    at noPacket countersEq turned ⊢
  generalize turn connection iteration session request = result
    at turned ⊢
  rw [← countersEq]
  cases turned with
  | again flow =>
      simp [noPacket, taken, flow, Next.session?]
  | finished flow =>
      simp [noPacket, taken, flow, Next.session?]
  | failed error flow =>
      simp [noPacket, taken, flow, Next.session?]
  | proceeded flow streamed =>
      rw [rtpPackets_append, noPacket, List.nil_append]
      cases streamed with
      | idle stopped _ =>
          simp [rtpPackets, taken, stopped, Next.session?]
      | waiting silent =>
          rcases silent with stopped | undelivered
          · simp [rtpPackets, taken, stopped, Next.session?]
          · simp [rtpPackets, taken, undelivered, Next.session?]
      | playing subscription subscribed delivery delivered mediaEq
          reportEq =>
          subst mediaEq reportEq
          rw [rtpPackets_playing]
          simp [taken, flow, subscribed, delivered, Next.session?,
            counters_playing]

end AccessUnit

/-! ## Whole runs -/

/-- The writes of a run. -/
def writes (transitions : List Transition) : List Send :=
  transitions.flatMap fun transition => transition.performed.sends

/-- The writes of a run, as if none failed. -/
def attempts
    (connection : Connection)
    (transitions : List Transition) : List Send :=
  transitions.flatMap (Transition.attempts connection)

/-- The access units a run takes from its subscriptions. -/
def takenUnits
    (connection : Connection)
    (transitions : List Transition) : List EncodedAccessUnit :=
  transitions.filterMap (Transition.taken connection)

section Run

variable {connection : Connection}
variable {session : Session}
variable {transitions : List Transition}
variable {next : Next}

/-- The writes of a run are counted from its first state on. -/
theorem Runs.trace
    (runs : Runs connection session transitions next) :
    ∃ counters,
      Trace (Counted connection.ssrc) session.counters
        (writes transitions) counters := by
  induction runs with
  | nil session =>
      exact ⟨session.counters, .nil _⟩
  | closed session request iteration result closes =>
      obtain ⟨counters, trace, _⟩ :=
        @turn_trace connection iteration session request
      simp only [writes, List.flatMap_singleton]
      exact trace.exists_of_prefix (prefix_step_sends _ _ _ _)
  | running session request iteration after goesOn rest
      inductionHypothesis =>
      obtain ⟨counters, trace, countersEq⟩ :=
        @turn_trace connection iteration session request
      obtain ⟨last, later⟩ := inductionHypothesis
      obtain ⟨performedEq, turnEq⟩ := step_running goesOn
      have sameCounters : after.counters = counters := by
        apply countersEq
        rw [turnEq]
        rfl
      refine ⟨last, ?_⟩
      simp only [writes, List.flatMap_cons]
      apply Trace.append _ later
      change Trace _ _
        (step connection session request iteration).sends _
      rw [performedEq, sameCounters]
      exact trace

/-- Without failing writes, everything attempted is written. -/
theorem Runs.writes_eq
    (runs : Runs connection session transitions next)
    (noFailure :
      ∀ transition ∈ transitions, transition.iteration.failure = none) :
    writes transitions = attempts connection transitions := by
  have each :
      ∀ transition ∈ transitions,
        transition.iteration.failure = none →
          transition.performed.sends = transition.attempts connection := by
    refine runs.forall_transitions (fun _ => True) (fun _ _ => trivial)
      ?_ trivial
    intro session request iteration _ succeeds
    change iteration.failure = none at succeeds
    simp only [Transition.of, Transition.attempts, step, perform, succeeds]
  exact List.flatMap_congr fun transition member =>
    each transition member (noFailure transition member)

theorem takenUnits_cons
    (first : Transition)
    (later : List Transition) :
    takenUnits connection (first :: later) =
      (first.taken connection).toList ++ takenUnits connection later := by
  simp only [takenUnits, List.filterMap_cons]
  cases first.taken connection <;> rfl

/-- The packets of an access unit, if there is one, and of later ones. -/
theorem flatten_sendAccessUnits_append
    (ssrc : UInt32)
    (counters : RtpCounters)
    (accessUnit? : Option EncodedAccessUnit)
    (later : List EncodedAccessUnit) :
    (sendAccessUnits ssrc counters
        (accessUnit?.toList ++ later)).1.flatten =
      (accessUnit?.elim [] fun accessUnit =>
          (sendAccessUnit ssrc counters accessUnit).1) ++
        (sendAccessUnits ssrc
          (accessUnit?.elim counters fun accessUnit =>
            (sendAccessUnit ssrc counters accessUnit).2)
          later).1.flatten := by
  cases accessUnit? <;> rfl

/-- The attempted packets are those of the access units taken. -/
theorem Runs.rtpPackets_attempts
    (runs : Runs connection session transitions next) :
    rtpPackets (attempts connection transitions) =
      (sendAccessUnits connection.ssrc session.counters
        (takenUnits connection transitions)).1.flatten := by
  induction runs with
  | nil session =>
      rfl
  | closed session request iteration result closes =>
      have packets :=
        (@turn_packets connection iteration session request).1
      rw [takenUnits_cons, flatten_sendAccessUnits_append]
      simp only [attempts, List.flatMap_singleton]
      exact packets.trans (List.append_nil _).symm
  | running session request iteration after goesOn rest
      inductionHypothesis =>
      obtain ⟨packets, counted⟩ :=
        @turn_packets connection iteration session request
      have turnEq := (step_running goesOn).2
      have countersEq := counted after (by rw [turnEq]; rfl)
      rw [countersEq] at inductionHypothesis
      rw [takenUnits_cons, flatten_sendAccessUnits_append, attempts,
        List.flatMap_cons, rtpPackets_append]
      exact congrArg₂ (· ++ ·) packets inductionHypothesis

/--
Without failing writes, the markers cut the packets of a run into the access
units it takes, if each of them ends in a NAL unit that is not empty.
-/
theorem Runs.cutAtMarkers_writes
    (runs : Runs connection session transitions next)
    (noFailure :
      ∀ transition ∈ transitions, transition.iteration.failure = none)
    (lastSent :
      ∀ accessUnit ∈ takenUnits connection transitions,
        ∃ last ∈ accessUnit.nalUnits.getLast?, last ≠ []) :
    cutAtMarkers marked (rtpPackets (writes transitions)) =
      ((sendAccessUnits connection.ssrc session.counters
        (takenUnits connection transitions)).1, []) := by
  rw [runs.writes_eq noFailure, runs.rtpPackets_attempts]
  exact cutAtMarkers_flatten
    ((delimited_sendAccessUnits_iff _ _ _).mpr lastSent)

end Run

/-- What a receiver can rely on over a run that starts with `initial`. -/
structure StreamRules
    (connection : Connection)
    (initial : UInt16)
    (transitions : List Transition) : Prop where
  numbered :
    ∀ (index : Nat) (bytes : Bytes),
      (rtpPackets (writes transitions))[index]? = some bytes →
        ∃ packet,
          Packet.decode bytes = some packet ∧
            packet.sequence = initial + UInt16.ofNat index ∧
            packet.ssrc = connection.ssrc ∧ packet.payloadType = 96 ∧
            packet.payload.length ≤ 1400
  timed :
    ∀ transition ∈ transitions,
      ∀ bytes ∈ rtpPackets transition.performed.sends,
        ∃ accessUnit ∈ transition.taken connection,
          (Packet.decode bytes).map Packet.timestamp =
            some accessUnit.pts90khz
  delivered :
    (∀ accessUnit ∈ takenUnits connection transitions,
        ∀ nal ∈ accessUnit.nalUnits, SingleType nal) →
      depacketize ((rtpPackets (writes transitions)).map payloadOf) <+:
          ((takenUnits connection transitions).flatMap
            EncodedAccessUnit.nalUnits).filter (· ≠ []) ∧
        ((∀ transition ∈ transitions,
            transition.iteration.failure = none) →
          depacketize ((rtpPackets (writes transitions)).map payloadOf) =
            ((takenUnits connection transitions).flatMap
              EncodedAccessUnit.nalUnits).filter (· ≠ []))
  reported :
    ∀ earlier delivery bytes later,
      writes transitions = earlier ++ .rtcp delivery bytes :: later →
        ∃ report,
          SenderReport.decode bytes = some report ∧
            report.ssrc = connection.ssrc ∧
            report.packets =
              UInt32.ofNat (rtpPackets earlier).length ∧
            report.octets =
              UInt32.ofNat (payloadOctets (rtpPackets earlier))

end CamRtsp
