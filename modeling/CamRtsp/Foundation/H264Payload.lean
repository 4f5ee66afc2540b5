import CamRtsp.Foundation.RustText

/-!
# RTP payloads for H.264 in packetization mode 1

A payload is a whole NAL unit or one FU-A fragment of it.  `depacketize` puts
fragments together by their start and end bits; `fuPackets` is the matching
sender for a unit that was cut into chunks.  The last section groups packets
into access units by the marker bit.
-/

namespace H264Payload

open RustText

/-- The type of an FU-A indicator. -/
def fuType : UInt8 :=
  28

/-- One payload: the fragment still open behind it, and the finished units. -/
def receive (pending : Option Bytes) (payload : Bytes) :
    Option Bytes × List Bytes :=
  match payload with
  | [] => (none, [])
  | indicator :: rest =>
      if indicator &&& 0x1f = fuType then
        match rest with
        | [] => (none, [])
        | fuHeader :: data =>
            let header := (indicator &&& 0xe0) ||| (fuHeader &&& 0x1f)
            let unit :=
              if fuHeader &&& 0x80 ≠ 0 then
                some (header :: data)
              else
                pending.map (· ++ data)
            if fuHeader &&& 0x40 ≠ 0 then
              (none, unit.toList)
            else
              (unit, [])
      else if 1 ≤ indicator &&& 0x1f ∧ indicator &&& 0x1f ≤ 23 then
        (none, [payload])
      else
        (none, [])

/-- A sequence of payloads, from an open fragment on. -/
def receiveAll (pending : Option Bytes) :
    List Bytes → Option Bytes × List Bytes
  | [] => (pending, [])
  | payload :: later =>
      let first := receive pending payload
      let rest := receiveAll first.1 later
      (rest.1, first.2 ++ rest.2)

/-- The NAL units in a sequence of payloads. -/
def depacketize (payloads : List Bytes) : List Bytes :=
  (receiveAll none payloads).2

/-- A NAL unit of type 1 to 23 can be a payload of its own. -/
def SingleType (nal : Bytes) : Prop :=
  ∀ header ∈ nal.head?, 1 ≤ header &&& 0x1f ∧ header &&& 0x1f ≤ 23

instance (nal : Bytes) : Decidable (SingleType nal) :=
  inferInstanceAs (Decidable (∀ header ∈ nal.head?, _))

/-- The bits of an FU header above the type. -/
def fuBits (first last : Bool) : UInt8 :=
  (if first then 0x80 else 0) ||| (if last then 0x40 else 0)

/-- One fragment of a unit with the given header. -/
def fuPacket (header : UInt8) (first last : Bool) (data : Bytes) : Bytes :=
  ((header &&& 0xe0) ||| fuType) ::
    ((header &&& 0x1f) ||| fuBits first last) :: data

/-- The fragments of a unit whose body was cut into chunks. -/
def fuPackets (header : UInt8) (first : Bool) : List Bytes → List Bytes
  | [] => []
  | data :: later =>
      fuPacket header first (later.isEmpty) data ::
        fuPackets header false later

/-- Indicator and FU header carry the unit's header and the two bits. -/
theorem fuPacket_bits (header : UInt8) (first last : Bool) :
    ((header &&& 0xe0) ||| fuType) &&& 0x1f = fuType ∧
      ((((header &&& 0xe0) ||| fuType) &&& 0xe0) |||
        (((header &&& 0x1f) ||| fuBits first last) &&& 0x1f)) = header ∧
      ((((header &&& 0x1f) ||| fuBits first last) &&& 0x80) ≠ 0 ↔
        first = true) ∧
      ((((header &&& 0x1f) ||| fuBits first last) &&& 0x40) ≠ 0 ↔
        last = true) := by
  have everyByte :
      ∀ byte : Fin 256, ∀ first last : Bool,
        let header := UInt8.ofFin byte
        ((header &&& 0xe0) ||| fuType) &&& 0x1f = fuType ∧
          ((((header &&& 0xe0) ||| fuType) &&& 0xe0) |||
            (((header &&& 0x1f) ||| fuBits first last) &&& 0x1f)) =
              header ∧
          ((((header &&& 0x1f) ||| fuBits first last) &&& 0x80) ≠ 0 ↔
            first = true) ∧
          ((((header &&& 0x1f) ||| fuBits first last) &&& 0x40) ≠ 0 ↔
            last = true) := by
    decide +kernel
  exact everyByte header.toFin first last

/-- A fragment is two bytes longer than its chunk. -/
theorem exists_chunk_of_mem_fuPackets
    {header : UInt8}
    {first : Bool}
    {chunks : List Bytes}
    {payload : Bytes}
    (member : payload ∈ fuPackets header first chunks) :
    ∃ chunk ∈ chunks, payload.length = chunk.length + 2 := by
  induction chunks generalizing first with
  | nil =>
      simp [fuPackets] at member
  | cons data later inductionHypothesis =>
      rcases List.mem_cons.mp member with rfl | laterMember
      · exact ⟨data, List.mem_cons_self, rfl⟩
      · obtain ⟨chunk, chunkMember, lengthEq⟩ :=
          inductionHypothesis laterMember
        exact ⟨chunk, List.mem_cons_of_mem _ chunkMember, lengthEq⟩

/-- Chunks have fragments. -/
theorem fuPackets_ne_nil
    {header : UInt8}
    {first : Bool}
    {chunks : List Bytes}
    (nonempty : chunks ≠ []) :
    fuPackets header first chunks ≠ [] := by
  cases chunks with
  | nil =>
      exact (nonempty rfl).elim
  | cons data later =>
      exact List.cons_ne_nil _ _

/-- One fragment, byte by byte; its body is never empty. -/
inductive FuFragment (header : UInt8) (first last : Prop) :
    Bytes → Prop where
  | mk
      (fuHeader : UInt8)
      (data : Bytes)
      (sameType : fuHeader &&& 0x1f = header &&& 0x1f)
      (startBit : fuHeader &&& 0x80 ≠ 0 ↔ first)
      (endBit : fuHeader &&& 0x40 ≠ 0 ↔ last)
      (reservedBit : fuHeader &&& 0x20 = 0)
      (nonempty : data ≠ []) :
      FuFragment header first last
        (((header &&& 0xe0) ||| fuType) :: fuHeader :: data)

/-- The FU header carries the type and leaves the reserved bit clear. -/
theorem fuHeader_bits (header : UInt8) (first last : Bool) :
    ((header &&& 0x1f) ||| fuBits first last) &&& 0x1f = header &&& 0x1f ∧
      ((header &&& 0x1f) ||| fuBits first last) &&& 0x20 = 0 := by
  have everyByte :
      ∀ byte : Fin 256, ∀ first last : Bool,
        let header := UInt8.ofFin byte
        ((header &&& 0x1f) ||| fuBits first last) &&& 0x1f =
            header &&& 0x1f ∧
          ((header &&& 0x1f) ||| fuBits first last) &&& 0x20 = 0 := by
    decide +kernel
  exact everyByte header.toFin first last

/-- What the sender makes of a chunk is a fragment. -/
theorem fuFragment_fuPacket
    {header : UInt8}
    {isFirst isLast : Bool}
    {first last : Prop}
    {data : Bytes}
    (firstIff : isFirst = true ↔ first)
    (lastIff : isLast = true ↔ last)
    (nonempty : data ≠ []) :
    FuFragment header first last
      (fuPacket header isFirst isLast data) := by
  obtain ⟨_, _, startBit, endBit⟩ := fuPacket_bits header isFirst isLast
  obtain ⟨sameType, reservedBit⟩ := fuHeader_bits header isFirst isLast
  exact .mk _ data sameType (startBit.trans firstIff)
    (endBit.trans lastIff) reservedBit nonempty

/-- A fragment is at least three bytes long. -/
theorem FuFragment.three_le_length
    {header : UInt8}
    {first last : Prop}
    {packet : Bytes}
    (fragment : FuFragment header first last packet) :
    3 ≤ packet.length := by
  obtain ⟨fuHeader, data, _, _, _, _, nonempty⟩ := fragment
  have positive : 0 < data.length := List.length_pos_iff.mpr nonempty
  simp only [List.length_cons]
  omega

/-- The header of the unit that a fragment belongs to. -/
def unitHeader : Bytes → Option UInt8
  | indicator :: fuHeader :: _ =>
      some ((indicator &&& 0xe0) ||| (fuHeader &&& 0x1f))
  | _ => none

/-- The unit of some fragments: the header of the first, and all bodies. -/
def reassemble (packets : List Bytes) : Bytes :=
  (packets.head?.bind unitHeader).toList ++
    packets.flatMap fun packet => packet.drop 2

/-- Every fragment of a unit gives back its header. -/
theorem unitHeader_fuPacket
    (header : UInt8)
    (first last : Bool)
    (data : Bytes) :
    unitHeader (fuPacket header first last data) = some header :=
  congrArg some (fuPacket_bits header first last).2.1

/-- There is one fragment for each chunk. -/
theorem length_fuPackets
    (header : UInt8)
    (first : Bool)
    (chunks : List Bytes) :
    (fuPackets header first chunks).length = chunks.length := by
  induction chunks generalizing first with
  | nil =>
      rfl
  | cons data later inductionHypothesis =>
      simp only [fuPackets, List.length_cons, inductionHypothesis]

/-- A fragment has the bits of its place among the others. -/
theorem getElem?_fuPackets
    (header : UInt8)
    (first : Bool)
    (chunks : List Bytes)
    (index : Nat) :
    (fuPackets header first chunks)[index]? =
      chunks[index]?.map
        (fuPacket header (first && index == 0)
          (index + 1 == chunks.length)) := by
  induction chunks generalizing first index with
  | nil =>
      rfl
  | cons data later inductionHypothesis =>
      cases index with
      | zero =>
          cases later <;> simp [fuPackets]
      | succ index =>
          simp [fuPackets, inductionHypothesis]

/-- The bodies of the fragments are the chunks. -/
theorem flatMap_drop_fuPackets
    (header : UInt8)
    (first : Bool)
    (chunks : List Bytes) :
    ((fuPackets header first chunks).flatMap fun packet => packet.drop 2) =
      chunks.flatten := by
  induction chunks generalizing first with
  | nil =>
      rfl
  | cons data later inductionHypothesis =>
      simp only [fuPackets, List.flatMap_cons, inductionHypothesis,
        List.flatten_cons]
      rfl

/-- Fragments put together are the unit. -/
theorem reassemble_fuPackets
    (header : UInt8)
    {chunks : List Bytes}
    (nonempty : chunks ≠ []) :
    reassemble (fuPackets header true chunks) =
      header :: chunks.flatten := by
  rw [reassemble, flatMap_drop_fuPackets]
  cases chunks with
  | nil =>
      exact (nonempty rfl).elim
  | cons data later =>
      simp [fuPackets, unitHeader_fuPacket]

/-! ## Access units -/

/-- Cut a sequence behind every marked item; the rest has no marker yet. -/
def cutAtMarkers {α : Type} (marked : α → Bool) :
    List α → List (List α) × List α
  | [] => ([], [])
  | item :: later =>
      let rest := cutAtMarkers marked later
      if marked item then
        ([item] :: rest.1, rest.2)
      else
        match rest.1 with
        | [] => ([], item :: rest.2)
        | group :: groups => ((item :: group) :: groups, rest.2)

/-- The last item carries the marker, and only the last one. -/
def Delimited {α : Type} (marked : α → Bool) (group : List α) : Prop :=
  ∃ before last, group = before ++ [last] ∧ marked last = true ∧
    ∀ item ∈ before, marked item = false

/-- Markers can be read off before or after a conversion. -/
theorem delimited_map
    {α β : Type}
    {convert : α → β}
    {marked : β → Bool}
    {items : List α} :
    Delimited marked (items.map convert) ↔
      Delimited (fun item => marked (convert item)) items := by
  constructor
  · rintro ⟨before, last, shape, lastMarked, unmarked⟩
    obtain ⟨front, back, rfl, rfl, backEq⟩ :=
      List.map_eq_append_iff.mp shape
    obtain ⟨item, rfl, rfl⟩ := List.map_eq_singleton_iff.mp backEq
    exact ⟨front, item, rfl, lastMarked,
      fun other member => unmarked _ (List.mem_map_of_mem member)⟩
  · rintro ⟨before, last, rfl, lastMarked, unmarked⟩
    refine ⟨before.map convert, convert last, by simp, lastMarked, ?_⟩
    intro item member
    obtain ⟨other, otherMember, rfl⟩ := List.mem_map.mp member
    exact unmarked other otherMember

/-- Unmarked items in front change nothing. -/
theorem delimited_append_iff
    {α : Type}
    {marked : α → Bool}
    {front items : List α}
    (unmarked : ∀ item ∈ front, marked item = false) :
    Delimited marked (front ++ items) ↔ Delimited marked items := by
  constructor
  · rintro ⟨before, last, shape, lastMarked, beforeUnmarked⟩
    rcases List.eq_nil_or_concat items with rfl | ⟨middle, end', rfl⟩
    · have member : last ∈ front := by
        rw [List.append_nil] at shape
        simp [shape]
      rw [unmarked last member] at lastMarked
      exact (Bool.false_ne_true lastMarked).elim
    · have regrouped :
          front ++ middle.concat end' = (front ++ middle) ++ [end'] := by
        simp
      obtain ⟨frontEq, endEq⟩ :=
        List.append_inj' (regrouped.symm.trans shape) rfl
      obtain rfl := List.singleton_inj.mp endEq
      refine ⟨middle, end', by simp, lastMarked, ?_⟩
      intro item member
      exact beforeUnmarked item (by simp [← frontEq, member])
  · rintro ⟨before, last, rfl, lastMarked, beforeUnmarked⟩
    refine ⟨front ++ before, last, by simp, lastMarked, ?_⟩
    intro item member
    rcases List.mem_append.mp member with inFront | inBefore
    · exact unmarked item inFront
    · exact beforeUnmarked item inBefore

/-- A delimited group is cut off exactly. -/
theorem cutAtMarkers_append
    {α : Type}
    {marked : α → Bool}
    {group : List α}
    (delimited : Delimited marked group)
    (later : List α) :
    cutAtMarkers marked (group ++ later) =
      (group :: (cutAtMarkers marked later).1,
        (cutAtMarkers marked later).2) := by
  obtain ⟨before, last, rfl, lastMarked, unmarked⟩ := delimited
  induction before with
  | nil =>
      simp [cutAtMarkers, lastMarked]
  | cons item before inductionHypothesis =>
      have tail :=
        inductionHypothesis
          (List.forall_mem_of_forall_mem_cons unmarked)
      have itemUnmarked := unmarked item List.mem_cons_self
      simp only [List.cons_append, cutAtMarkers, itemUnmarked, tail]
      rfl

/-- Delimited groups are recovered from their concatenation. -/
theorem cutAtMarkers_flatten
    {α : Type}
    {marked : α → Bool}
    {groups : List (List α)}
    (delimited : ∀ group ∈ groups, Delimited marked group) :
    cutAtMarkers marked groups.flatten = (groups, []) := by
  induction groups with
  | nil =>
      rfl
  | cons group groups inductionHypothesis =>
      have tail :=
        inductionHypothesis
          (List.forall_mem_of_forall_mem_cons delimited)
      rw [List.flatten_cons,
        cutAtMarkers_append (delimited group List.mem_cons_self), tail]

end H264Payload
