import CamRtsp.Rtp
import CamRtsp.Foundation.H264Payload
import CamRtsp.Foundation.RtpFormat

namespace CamRtsp

open RustText H264Payload RtpFormat

/-!
# The RTP stream of access units

The two loops over an access unit send one packet for each entry of a plan
that depends on the NAL units alone.  A receiver then sees consecutive
sequence numbers, the access unit's timestamp and all NAL units again.  The
marker is the last entry of the plan only if the last NAL unit has a payload.
-/

/-! ## Payloads of one NAL unit -/

/-- Chunks put together are the bytes. -/
theorem flatten_chunks
    {size : Nat}
    (positive : 0 < size)
    (bytes : Bytes) :
    (chunks size bytes).flatten = bytes := by
  induction bytes using chunks.induct size with
  | case1 bytes done =>
      rcases done with zero | empty
      · exact (Nat.ne_of_gt positive zero).elim
      · rw [chunks, dif_pos (Or.inr empty), empty]
        rfl
  | case2 bytes more inductionHypothesis =>
      rw [chunks, dif_neg more, List.flatten_cons,
        inductionHypothesis, List.take_append_drop]

/-- No chunk is longer than the size. -/
theorem length_le_of_mem_chunks
    {size : Nat}
    {bytes chunk : Bytes}
    (member : chunk ∈ chunks size bytes) :
    chunk.length ≤ size := by
  induction bytes using chunks.induct size with
  | case1 bytes done =>
      rw [chunks, dif_pos done] at member
      simp at member
  | case2 bytes more inductionHypothesis =>
      rw [chunks, dif_neg more] at member
      rcases List.mem_cons.mp member with rfl | later
      · exact List.length_take_le size bytes
      · exact inductionHypothesis later

/-- Bytes have chunks. -/
theorem chunks_ne_nil
    {size : Nat}
    (positive : 0 < size)
    {bytes : Bytes}
    (nonempty : bytes ≠ []) :
    chunks size bytes ≠ [] := by
  rw [chunks, dif_neg (by simp [nonempty, Nat.ne_of_gt positive])]
  exact List.cons_ne_nil _ _

/-- Bytes without chunks are no bytes. -/
theorem chunks_nil (size : Nat) : chunks size [] = [] := by
  rw [chunks, dif_pos (Or.inr rfl)]

/-- The two bits of the source are the bits of a fragment. -/
theorem fuHeader_eq (header : UInt8) (first last : Bool) :
    (((header &&& 0x1f) ||| (if first then 0x80 else 0)) |||
      (if last then 0x40 else 0)) =
      (header &&& 0x1f) ||| fuBits first last :=
  UInt8.or_assoc _ _ _

/--
The end test of the source marks the last chunk: with `before` full chunks
already sent, the running total reaches the length exactly there.
-/
theorem mapIdx_chunks
    {header : UInt8}
    {size : Nat}
    (positive : 0 < size)
    (bytes : Bytes)
    (before total : Nat)
    (totalEq : total = before * size + bytes.length) :
    ((chunks size bytes).mapIdx fun index data =>
      let last : Bool := (index + before + 1) * size ≥ total
      ((header &&& 0xe0) ||| 28) ::
        (((header &&& 0x1f) |||
          (if index + before = 0 then 0x80 else 0)) |||
          (if last then 0x40 else 0)) :: data) =
      fuPackets header (before == 0) (chunks size bytes) := by
  induction bytes using chunks.induct size generalizing before with
  | case1 bytes done =>
      rw [chunks, dif_pos done]
      rfl
  | case2 bytes more inductionHypothesis =>
      have isLast :
          decide ((before + 1) * size ≥ total) =
            (chunks size (bytes.drop size)).isEmpty := by
        rw [totalEq, Nat.add_mul, Nat.one_mul]
        by_cases rest : bytes.drop size = []
        · have bound := List.drop_eq_nil_iff.mp rest
          simp [rest, chunks_nil, bound]
        · have bound := mt List.drop_eq_nil_iff.mpr rest
          have more : (chunks size (bytes.drop size)).isEmpty = false := by
            simpa using chunks_ne_nil positive rest
          rw [more]
          exact decide_eq_false (by omega)
      rw [chunks, dif_neg more, List.mapIdx_cons, fuPackets]
      congr 1
      · have bits := fuHeader_eq header (before == 0)
          (chunks size (bytes.drop size)).isEmpty
        simp only [Nat.zero_add, isLast, fuPacket, fuType, ← bits,
          beq_iff_eq]
      · by_cases rest : bytes.drop size = []
        · simp [rest, chunks_nil, fuPackets]
        · have bound := mt List.drop_eq_nil_iff.mpr rest
          have tail := inductionHypothesis (before + 1) (by
            rw [totalEq, List.length_drop, Nat.add_mul]
            omega)
          simpa [Nat.add_right_comm, ← Nat.add_assoc] using tail

/-- A payload is a whole unit, or a fragment of a longer one. -/
theorem packetizeH264_eq (header : UInt8) (body : Bytes) (mtu : Nat) :
    packetizeH264 (header :: body) mtu =
      if mtu ≤ 2 then []
      else if (header :: body).length ≤ mtu then [header :: body]
      else fuPackets header true (chunks (mtu - 2) body) := by
  simp only [packetizeH264]
  by_cases small : mtu ≤ 2
  · rw [if_pos small, if_pos small]
  · have positive : 0 < mtu - 2 := by omega
    have fragments :=
      @mapIdx_chunks header _ positive body 0 body.length (by simp)
    rw [if_neg small, if_neg small]
    by_cases short : (header :: body).length ≤ mtu
    · rw [if_pos short, if_pos short]
    · rw [if_neg short, if_neg short]
      exact fragments

/-- A payload is not empty, and no longer than the limit. -/
theorem length_bounds_of_mem_packetizeH264
    {nal payload : Bytes}
    {mtu : Nat}
    (member : payload ∈ packetizeH264 nal mtu) :
    1 ≤ payload.length ∧ payload.length ≤ mtu := by
  cases nal with
  | nil =>
      simp [packetizeH264] at member
  | cons header body =>
      rw [packetizeH264_eq] at member
      split at member
      · simp at member
      · split at member
        · rename_i fits
          rw [List.mem_singleton.mp member]
          exact ⟨by simp, fits⟩
        · obtain ⟨chunk, chunkMember, lengthEq⟩ :=
            exists_chunk_of_mem_fuPackets member
          have bound := length_le_of_mem_chunks chunkMember
          omega

/-- A non-empty unit has payloads. -/
theorem packetizeH264_ne_nil
    {nal : Bytes}
    (nonempty : nal ≠ [])
    {mtu : Nat}
    (large : 2 < mtu) :
    packetizeH264 nal mtu ≠ [] := by
  obtain ⟨header, body, rfl⟩ := List.exists_cons_of_ne_nil nonempty
  rw [packetizeH264_eq, if_neg (Nat.not_le_of_lt large)]
  split
  · exact List.cons_ne_nil _ _
  · rename_i long
    apply fuPackets_ne_nil
    apply chunks_ne_nil (by omega)
    rintro rfl
    simp only [List.length_singleton] at long
    omega

/-- The payloads of one NAL unit with their markers. -/
def planPayloads (lastNal : Bool) : List Bytes → List (Bytes × Bool)
  | [] => []
  | payload :: later =>
      (payload, lastNal && later.isEmpty) :: planPayloads lastNal later

/-- The payloads of an access unit with their markers. -/
def planNalUnits : List Bytes → List (Bytes × Bool)
  | [] => []
  | nal :: later =>
      planPayloads later.isEmpty (packetizeH264 nal rtpMtu) ++
        planNalUnits later

/-- Number the entries of a plan. -/
def sendPlan
    (ssrc timestamp : UInt32)
    (counters : RtpCounters) :
    List (Bytes × Bool) → List Packet × RtpCounters
  | [] => ([], counters)
  | entry :: later =>
      let packet : Packet := {
        marker := entry.2
        payloadType := 96
        sequence := counters.sequence
        timestamp := timestamp
        ssrc := ssrc
        payload := entry.1
      }
      let rest :=
        sendPlan ssrc timestamp (counters.advance entry.1) later
      (packet :: rest.1, rest.2)

/-- The server's packet is laid out as a receiver expects it. -/
theorem rtpPacket_eq_encode
    (payload : Bytes)
    (sequence : UInt16)
    (timestamp ssrc : UInt32)
    (marker : Bool) :
    rtpPacket payload sequence timestamp ssrc marker =
      Packet.encode {
        marker := marker
        payloadType := 96
        sequence := sequence
        timestamp := timestamp
        ssrc := ssrc
        payload := payload
      } :=
  rfl

/-- A receiver reads back what the server sends. -/
theorem decode_rtpPacket
    (payload : Bytes)
    (sequence : UInt16)
    (timestamp ssrc : UInt32)
    (marker : Bool) :
    Packet.decode (rtpPacket payload sequence timestamp ssrc marker) =
      some {
        marker := marker
        payloadType := 96
        sequence := sequence
        timestamp := timestamp
        ssrc := ssrc
        payload := payload
      } := by
  have sevenBits : (96 : UInt8) &&& 0x80 = 0 := by decide
  rw [rtpPacket_eq_encode]
  exact Packet.decode_encode _ sevenBits

/-- Plans are sent one after the other. -/
theorem sendPlan_append
    (ssrc timestamp : UInt32)
    (counters : RtpCounters)
    (first second : List (Bytes × Bool)) :
    sendPlan ssrc timestamp counters (first ++ second) =
      ((sendPlan ssrc timestamp counters first).1 ++
          (sendPlan ssrc timestamp
            (sendPlan ssrc timestamp counters first).2 second).1,
        (sendPlan ssrc timestamp
          (sendPlan ssrc timestamp counters first).2 second).2) := by
  induction first generalizing counters with
  | nil =>
      rfl
  | cons entry later inductionHypothesis =>
      simp [sendPlan, inductionHypothesis]

/-- The inner loop sends the plan of one NAL unit. -/
theorem sendPayloads_eq
    (ssrc timestamp : UInt32)
    (lastNal : Bool)
    (counters : RtpCounters)
    (payloads : List Bytes) :
    sendPayloads ssrc timestamp lastNal counters payloads =
      ((sendPlan ssrc timestamp counters
          (planPayloads lastNal payloads)).1.map Packet.encode,
        (sendPlan ssrc timestamp counters
          (planPayloads lastNal payloads)).2) := by
  induction payloads generalizing counters with
  | nil =>
      rfl
  | cons payload later inductionHypothesis =>
      simp only [sendPayloads, inductionHypothesis]
      rfl

/-- The two loops send the plan of the access unit. -/
theorem sendNalUnits_eq
    (ssrc timestamp : UInt32)
    (counters : RtpCounters)
    (nalUnits : List Bytes) :
    sendNalUnits ssrc timestamp counters nalUnits =
      ((sendPlan ssrc timestamp counters
          (planNalUnits nalUnits)).1.map Packet.encode,
        (sendPlan ssrc timestamp counters (planNalUnits nalUnits)).2) := by
  induction nalUnits generalizing counters with
  | nil =>
      rfl
  | cons nal later inductionHypothesis =>
      simp only [sendNalUnits, sendPayloads_eq, inductionHypothesis,
        planNalUnits, sendPlan_append, List.map_append]

/-! ## Markers -/

/-- The marker bit as a receiver reads it. -/
def marked (packet : Bytes) : Bool :=
  (Packet.decode packet).any (·.marker)

/-- The payload as a receiver reads it. -/
def payloadOf (packet : Bytes) : Bytes :=
  (Packet.decode packet).elim [] (·.payload)

/-- The packets of a plan are read back. -/
theorem decode_of_mem_sendPlan
    {ssrc timestamp : UInt32}
    {counters : RtpCounters}
    {plan : List (Bytes × Bool)}
    {packet : Packet}
    (member : packet ∈ (sendPlan ssrc timestamp counters plan).1) :
    Packet.decode packet.encode = some packet := by
  induction plan generalizing counters with
  | nil =>
      simp [sendPlan] at member
  | cons entry later inductionHypothesis =>
      rcases List.mem_cons.mp member with rfl | laterMember
      · exact decode_rtpPacket _ _ _ _ _
      · exact inductionHypothesis laterMember

/-- Every packet carries its entry. -/
theorem map_entry_sendPlan
    (ssrc timestamp : UInt32)
    (counters : RtpCounters)
    (plan : List (Bytes × Bool)) :
    (sendPlan ssrc timestamp counters plan).1.map
        (fun packet => (packet.payload, packet.marker)) = plan := by
  induction plan generalizing counters with
  | nil =>
      rfl
  | cons entry later inductionHypothesis =>
      simp [sendPlan, inductionHypothesis]

/-- Packets that are not of the last NAL unit have no marker. -/
theorem unmarked_of_mem_planPayloads
    {payloads : List Bytes}
    {entry : Bytes × Bool}
    (member : entry ∈ planPayloads false payloads) :
    entry.2 = false := by
  induction payloads with
  | nil =>
      simp [planPayloads] at member
  | cons payload later inductionHypothesis =>
      rcases List.mem_cons.mp member with rfl | laterMember
      · rfl
      · exact inductionHypothesis laterMember

/-- The packets of the last NAL unit end in the only marker. -/
theorem delimited_planPayloads
    {payloads : List Bytes}
    (nonempty : payloads ≠ []) :
    Delimited Prod.snd (planPayloads true payloads) := by
  induction payloads with
  | nil =>
      exact (nonempty rfl).elim
  | cons payload later inductionHypothesis =>
      cases later with
      | nil =>
          exact ⟨[], (payload, true), rfl, rfl, by simp⟩
      | cons next rest =>
          have tail := inductionHypothesis (List.cons_ne_nil next rest)
          have unmarked :
              ∀ entry ∈ [(payload, false)],
                Prod.snd entry = false := by
            simp
          exact (delimited_append_iff unmarked).mpr tail

/-- The plan ends in its only marker exactly when the last NAL unit is sent. -/
theorem delimited_planNalUnits_iff (nalUnits : List Bytes) :
    Delimited Prod.snd (planNalUnits nalUnits) ↔
      ∃ last ∈ nalUnits.getLast?, last ≠ [] := by
  induction nalUnits with
  | nil =>
      simp [planNalUnits, Delimited]
  | cons nal later inductionHypothesis =>
      cases later with
      | nil =>
          by_cases empty : nal = []
          · subst empty
            simp [planNalUnits, packetizeH264, planPayloads, Delimited]
          · have large : 2 < rtpMtu := by decide
            have sent :=
              delimited_planPayloads (packetizeH264_ne_nil empty large)
            simpa [planNalUnits, empty] using sent
      | cons next rest =>
          rw [planNalUnits, List.getLast?_cons_cons,
            ← inductionHypothesis]
          exact delimited_append_iff fun entry member =>
            unmarked_of_mem_planPayloads member

/-- The markers on the wire are those of the plan. -/
theorem map_marked_sendPlan
    (ssrc timestamp : UInt32)
    (counters : RtpCounters)
    (plan : List (Bytes × Bool)) :
    ((sendPlan ssrc timestamp counters plan).1.map Packet.encode).map
        marked =
      plan.map Prod.snd := by
  have entries :=
    congrArg (List.map Prod.snd)
      (map_entry_sendPlan ssrc timestamp counters plan)
  rw [List.map_map] at entries
  rw [← entries, List.map_map]
  apply List.map_congr_left
  intro packet member
  simp [marked, decode_of_mem_sendPlan member]

/-- An access unit is delimited exactly when its last NAL unit is sent. -/
theorem delimited_sendAccessUnit_iff
    (ssrc : UInt32)
    (counters : RtpCounters)
    (accessUnit : EncodedAccessUnit) :
    Delimited marked (sendAccessUnit ssrc counters accessUnit).1 ↔
      ∃ last ∈ accessUnit.nalUnits.getLast?, last ≠ [] := by
  have byMarkers {α : Type} (mark : α → Bool) (items : List α) :
      Delimited mark items ↔ Delimited id (items.map mark) :=
    (@delimited_map _ _ mark id items).symm
  rw [sendAccessUnit, sendNalUnits_eq, ← delimited_planNalUnits_iff,
    byMarkers, map_marked_sendPlan, ← byMarkers]

/-- The packets of several access units, one list for each. -/
def sendAccessUnits
    (ssrc : UInt32)
    (counters : RtpCounters) :
    List EncodedAccessUnit → List (List Bytes) × RtpCounters
  | [] => ([], counters)
  | accessUnit :: later =>
      let first := sendAccessUnit ssrc counters accessUnit
      let rest := sendAccessUnits ssrc first.2 later
      (first.1 :: rest.1, rest.2)

/-- Every access unit is delimited, or one ends in an empty NAL unit. -/
theorem delimited_sendAccessUnits_iff
    (ssrc : UInt32)
    (counters : RtpCounters)
    (accessUnits : List EncodedAccessUnit) :
    (∀ group ∈ (sendAccessUnits ssrc counters accessUnits).1,
        Delimited marked group) ↔
      ∀ accessUnit ∈ accessUnits,
        ∃ last ∈ accessUnit.nalUnits.getLast?, last ≠ [] := by
  induction accessUnits generalizing counters with
  | nil =>
      simp [sendAccessUnits]
  | cons accessUnit later inductionHypothesis =>
      simp only [sendAccessUnits, List.forall_mem_cons,
        delimited_sendAccessUnit_iff, inductionHypothesis]

/--
For access units with some non-empty NAL unit, the marker delimits each of them
and a receiver recovers the boundaries exactly when every last NAL unit is
non-empty.
-/
theorem markers_delimit_iff
    (ssrc : UInt32)
    (counters : RtpCounters)
    (accessUnits : List EncodedAccessUnit)
    (someNal :
      ∀ accessUnit ∈ accessUnits, ∃ nal ∈ accessUnit.nalUnits, nal ≠ []) :
    ((∀ group ∈ (sendAccessUnits ssrc counters accessUnits).1,
          Delimited marked group) ∧
        cutAtMarkers marked
            (sendAccessUnits ssrc counters accessUnits).1.flatten =
          ((sendAccessUnits ssrc counters accessUnits).1, [])) ↔
      ∀ accessUnit ∈ accessUnits,
        accessUnit.nalUnits.getLast? ≠ some [] := by
  have lastSent :
      (∀ accessUnit ∈ accessUnits,
          ∃ last ∈ accessUnit.nalUnits.getLast?, last ≠ []) ↔
        ∀ accessUnit ∈ accessUnits,
          accessUnit.nalUnits.getLast? ≠ some [] := by
    refine forall₂_congr fun accessUnit member => ?_
    obtain ⟨nal, nalMember, _⟩ := someNal accessUnit member
    have nonempty : accessUnit.nalUnits ≠ [] :=
      List.ne_nil_of_mem nalMember
    rw [List.getLast?_eq_getLast_of_ne_nil nonempty]
    simp
  rw [← lastSent, ← delimited_sendAccessUnits_iff ssrc counters]
  constructor
  · exact And.left
  · intro delimited
    exact ⟨delimited, cutAtMarkers_flatten delimited⟩

/-- A slice behind an empty NAL unit, and one that needs fragments. -/
def twoSlices : List EncodedAccessUnit :=
  [{ nalUnits := [[], [0x65, 1]], pts90khz := 0, duration90khz := 3000
     keyframe := true },
    { nalUnits := [0x41 :: List.replicate 1500 0xff], pts90khz := 3000
      duration90khz := 3000, keyframe := false }]

/-- Both access units are delimited, the second in two fragments. -/
theorem markers_delimit_iff_slices :
    ((sendAccessUnits 7 { sequence := 0, packets := 0, octets := 0 }
          twoSlices).1.map List.length = [1, 2]) ∧
      (∀ group ∈
          (sendAccessUnits 7 { sequence := 0, packets := 0, octets := 0 }
            twoSlices).1,
        Delimited marked group) ∧
      cutAtMarkers marked
          (sendAccessUnits 7 { sequence := 0, packets := 0, octets := 0 }
            twoSlices).1.flatten =
        ((sendAccessUnits 7 { sequence := 0, packets := 0, octets := 0 }
          twoSlices).1, []) := by
  refine ⟨by decide +kernel, ?_⟩
  apply (markers_delimit_iff 7 _ twoSlices _).mpr
  · decide +kernel
  · decide +kernel

/-- An access unit that ends in an empty NAL unit is not delimited. -/
theorem markers_miss_trailing_empty_nal :
    ¬ ∀ (ssrc : UInt32) (counters : RtpCounters)
        (accessUnits : List EncodedAccessUnit),
      (∀ accessUnit ∈ accessUnits,
        ∃ nal ∈ accessUnit.nalUnits, nal ≠ []) →
      (∀ group ∈ (sendAccessUnits ssrc counters accessUnits).1,
          Delimited marked group) ∧
        cutAtMarkers marked
            (sendAccessUnits ssrc counters accessUnits).1.flatten =
          ((sendAccessUnits ssrc counters accessUnits).1, []) := by
  intro delimits
  have delimited :=
    (delimits 7 { sequence := 0, packets := 0, octets := 0 }
      [{ nalUnits := [[0x65, 1], []], pts90khz := 0
         duration90khz := 3000, keyframe := true }]
      (by decide)).1
  rw [delimited_sendAccessUnits_iff] at delimited
  simp at delimited

/-! ## Headers and contents -/

/-- The payloads of a planned NAL unit. -/
theorem map_payload_planPayloads (lastNal : Bool) (payloads : List Bytes) :
    (planPayloads lastNal payloads).map Prod.fst = payloads := by
  induction payloads with
  | nil =>
      rfl
  | cons payload later inductionHypothesis =>
      simp [planPayloads, inductionHypothesis]

/-- Every planned payload fits into a packet. -/
theorem length_le_of_mem_planNalUnits
    {nalUnits : List Bytes}
    {entry : Bytes × Bool}
    (member : entry ∈ planNalUnits nalUnits) :
    entry.1.length ≤ rtpMtu := by
  induction nalUnits with
  | nil =>
      simp [planNalUnits] at member
  | cons nal later inductionHypothesis =>
      rcases List.mem_append.mp member with first | laterMember
      · have payloadMember := @List.mem_map_of_mem _ _ _ _ Prod.fst first
        rw [map_payload_planPayloads] at payloadMember
        exact (length_bounds_of_mem_packetizeH264 payloadMember).2
      · exact inductionHypothesis laterMember

end CamRtsp
