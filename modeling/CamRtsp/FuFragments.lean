import CamRtsp.RtpStream

namespace CamRtsp

open RustText H264Payload

/-!
# Fragments of a NAL unit

A unit that does not fit is cut into chunks.  The chunk at an index exists
exactly if the bytes reach that far, which settles their number, their sizes
and the product that the end test of the source computes.
-/

/-! ## Chunks by index -/

variable {size : Nat}
variable {bytes chunk : Bytes}
variable {index : Nat}

/-- A chunk is cut off where the ones in front of it end. -/
theorem getElem?_chunks
    (positive : 0 < size)
    (bytes : Bytes)
    (index : Nat) :
    (chunks size bytes)[index]? =
      if index * size < bytes.length then
        some ((bytes.drop (index * size)).take size)
      else
        none := by
  induction bytes using chunks.induct size generalizing index with
  | case1 bytes done =>
      have empty : bytes = [] :=
        done.resolve_left (Nat.ne_of_gt positive)
      rw [empty, chunks_nil]
      simp
  | case2 bytes more inductionHypothesis =>
      rw [chunks, dif_neg more]
      cases index with
      | zero =>
          have nonempty : bytes ≠ [] := (not_or.mp more).2
          simp [List.length_pos_iff.mpr nonempty]
      | succ index =>
          rw [List.getElem?_cons_succ, inductionHypothesis,
            List.length_drop, List.drop_drop]
          have sameBound :
              index * size < bytes.length - size ↔
                (index + 1) * size < bytes.length := by
            rw [Nat.add_mul, Nat.one_mul]
            omega
          have sameStart :
              size + index * size = (index + 1) * size := by
            rw [Nat.add_mul, Nat.one_mul, Nat.add_comm]
          simp only [sameBound, sameStart]

/-- An index is in use exactly if the bytes reach that far. -/
theorem lt_length_chunks
    (positive : 0 < size) :
    index < (chunks size bytes).length ↔ index * size < bytes.length := by
  rw [← not_iff_not, Nat.not_lt, ← List.getElem?_eq_none_iff,
    getElem?_chunks positive]
  simp

/-- No chunk is empty. -/
theorem chunk_ne_nil
    (positive : 0 < size)
    (found : (chunks size bytes)[index]? = some chunk) :
    chunk ≠ [] := by
  rw [getElem?_chunks positive] at found
  split at found
  · rename_i reaches
    cases found
    apply List.ne_nil_of_length_pos
    simp only [List.length_take, List.length_drop]
    omega
  · cases found

/-- Every chunk in front of another is full. -/
theorem length_chunk
    (positive : 0 < size)
    (found : (chunks size bytes)[index]? = some chunk)
    (notLast : index + 1 < (chunks size bytes).length) :
    chunk.length = size := by
  have reachesNext := (lt_length_chunks positive).mp notLast
  rw [Nat.add_mul, Nat.one_mul] at reachesNext
  rw [getElem?_chunks positive] at found
  split at found
  · cases found
    simp only [List.length_take, List.length_drop]
    omega
  · cases found

/--
The product of the end test stays below the length plus one chunk, so it does
not overflow: a slice is shorter than half the range of `usize`.
-/
theorem endTest_fits
    (positive : 0 < size)
    (used : index < (chunks size bytes).length)
    (slice : bytes.length < 2 ^ 63)
    (cut : size ≤ bytes.length) :
    (index + 1) * size < 2 ^ 64 := by
  have reaches := (lt_length_chunks positive).mp used
  rw [Nat.add_mul, Nat.one_mul]
  omega

/-! ## The packets of one unit -/

/-- A unit that is sent as fragments. -/
structure Fragmented
    (header : UInt8)
    (body : Bytes)
    (mtu : Nat)
    (packets : List Bytes) : Prop where
  atLeastTwo : 2 ≤ packets.length
  fragments :
    ∀ index packet, packets[index]? = some packet →
      FuFragment header (index = 0) (index + 1 = packets.length) packet
  atLeastThree : ∀ packet ∈ packets, 3 ≤ packet.length
  neverBoth :
    ∀ packet ∈ packets, ∀ fuHeader, packet[1]? = some fuHeader →
      ¬ (fuHeader &&& 0x80 ≠ 0 ∧ fuHeader &&& 0x40 ≠ 0)
  full :
    ∀ index packet, packets[index]? = some packet →
      index + 1 < packets.length → packet.length = mtu
  sameHeader : ∀ packet ∈ packets, unitHeader packet = some header
  reassembled : reassemble packets = header :: body

/-- What `packetize_h264` makes of a unit. -/
structure PacketizeRules (nal : Bytes) (mtu : Nat) : Prop where
  sizes :
    ∀ packet ∈ packetizeH264 nal mtu,
      1 ≤ packet.length ∧ packet.length ≤ mtu
  whole :
    nal ≠ [] → nal.length ≤ mtu → packetizeH264 nal mtu = [nal]
  fragmented :
    ∀ header body, nal = header :: body → mtu < nal.length →
      Fragmented header body mtu (packetizeH264 nal mtu)

variable {header : UInt8}
variable {body : Bytes}
variable {mtu : Nat}

/-- The fragment at an index comes from the chunk at that index. -/
theorem exists_chunk_of_getElem?
    {packet : Bytes}
    (found :
      (fuPackets header true (chunks size body))[index]? = some packet) :
    ∃ data, (chunks size body)[index]? = some data ∧
      packet =
        fuPacket header (index == 0)
          (index + 1 == (chunks size body).length) data := by
  rw [getElem?_fuPackets, Option.map_eq_some_iff] at found
  obtain ⟨data, inChunks, rfl⟩ := found
  exact ⟨data, inChunks, rfl⟩

/-- Each packet has the bits of its place. -/
theorem fuFragment_of_getElem?
    (positive : 0 < size)
    {packet : Bytes}
    (found :
      (fuPackets header true (chunks size body))[index]? = some packet) :
    FuFragment header (index = 0)
      (index + 1 = (fuPackets header true (chunks size body)).length)
      packet := by
  obtain ⟨data, inChunks, rfl⟩ := exists_chunk_of_getElem? found
  refine fuFragment_fuPacket ?_ ?_ (chunk_ne_nil positive inChunks)
  · simp
  · simp [length_fuPackets]

/-- A unit that does not fit is sent as fragments. -/
theorem fragmented_fuPackets
    (large : 3 ≤ mtu)
    (tooLong : mtu < (header :: body).length) :
    Fragmented header body mtu
      (fuPackets header true (chunks (mtu - 2) body)) := by
  have positive : 0 < mtu - 2 := by omega
  have second : 1 < (chunks (mtu - 2) body).length := by
    rw [lt_length_chunks positive]
    simp only [List.length_cons] at tooLong
    omega
  have nonempty : chunks (mtu - 2) body ≠ [] :=
    List.ne_nil_of_length_pos (by omega)
  have twoPackets :
      2 ≤ (fuPackets header true (chunks (mtu - 2) body)).length := by
    rw [length_fuPackets]
    omega
  refine {
    atLeastTwo := twoPackets
    fragments := fun _ _ found => fuFragment_of_getElem? positive found
    atLeastThree := ?_
    neverBoth := ?_
    full := ?_
    sameHeader := ?_
    reassembled := ?_ }
  · intro packet member
    obtain ⟨index, found⟩ := List.mem_iff_getElem?.mp member
    exact (fuFragment_of_getElem? positive found).three_le_length
  · rintro packet member fuHeader isHeader ⟨starts, ends⟩
    obtain ⟨index, found⟩ := List.mem_iff_getElem?.mp member
    obtain ⟨_, _, _, startBit, endBit, _, _⟩ :=
      fuFragment_of_getElem? positive found
    simp only [List.getElem?_cons_succ, List.getElem?_cons_zero,
      Option.some.injEq] at isHeader
    subst isHeader
    have isFirst := startBit.mp starts
    have isLast := endBit.mp ends
    omega
  · intro index packet found notLast
    rw [length_fuPackets] at notLast
    obtain ⟨data, inChunks, rfl⟩ := exists_chunk_of_getElem? found
    have full := length_chunk positive inChunks notLast
    simp only [fuPacket, List.length_cons, full]
    omega
  · intro packet member
    obtain ⟨index, found⟩ := List.mem_iff_getElem?.mp member
    obtain ⟨data, _, rfl⟩ := exists_chunk_of_getElem? found
    exact unitHeader_fuPacket header _ _ data
  · rw [reassemble_fuPackets header nonempty, flatten_chunks positive]

/--
FU-A fragmentation conforms and can be undone, for every unit and every limit
of at least three bytes.
-/
theorem packetizeH264_conforms
    (nal : Bytes)
    {mtu : Nat}
    (large : 3 ≤ mtu) :
    PacketizeRules nal mtu where
  sizes := fun _ member => length_bounds_of_mem_packetizeH264 member
  whole := by
    intro nonempty short
    obtain ⟨header, body, rfl⟩ := List.exists_cons_of_ne_nil nonempty
    rw [packetizeH264_eq, if_neg (by omega), if_pos short]
  fragmented := by
    rintro header body rfl tooLong
    rw [packetizeH264_eq, if_neg (by omega), if_neg (by omega)]
    exact fragmented_fuPackets large tooLong

/-- A unit of six bytes, in packets of at most four. -/
theorem packetizeH264_conforms_six_bytes :
    PacketizeRules [0x65, 1, 2, 3, 4, 5] 4 :=
  packetizeH264_conforms _ (by decide)

end CamRtsp
