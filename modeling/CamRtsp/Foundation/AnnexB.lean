import CamRtsp.Foundation.BigEndian

/-!
# Start codes in a byte stream

An Annex B stream separates units by the start codes `00 00 01` and
`00 00 00 01`.  `scan` cuts a stream at every start code; a unit is `Sealed`
when no start code begins inside it, whatever follows, so that a scan passes
over it.  `lengthPrefixed` is the competing container, in which every unit
carries its length instead.
-/

namespace AnnexB

open RustText

/-- A start code begins at the front of the bytes. -/
def StartsCode (bytes : Bytes) : Prop :=
  [0, 0, 1] <+: bytes ∨ [0, 0, 0, 1] <+: bytes

instance (bytes : Bytes) : Decidable (StartsCode bytes) :=
  inferInstanceAs (Decidable (_ ∨ _))

/-- The length of the start code at the front, or zero. -/
def codeLength (bytes : Bytes) : Nat :=
  if [0, 0, 0, 1] <+: bytes then 4
  else if [0, 0, 1] <+: bytes then 3
  else 0

/-- The code length is positive exactly at a start code. -/
theorem codeLength_eq_zero_iff {bytes : Bytes} :
    codeLength bytes = 0 ↔ ¬ StartsCode bytes := by
  simp only [codeLength, StartsCode]
  split
  · simp_all
  · split <;> simp_all

/-- No start code begins inside the unit, whatever bytes follow it. -/
def Sealed (unit : Bytes) : Prop :=
  ∀ tail, tail <:+ unit → tail ≠ [] →
    ∀ later, ¬ StartsCode (tail ++ later)

/-- The rest of a sealed unit is sealed. -/
theorem Sealed.tail
    {byte : UInt8}
    {unit : Bytes}
    (isSealed : Sealed (byte :: unit)) :
    Sealed unit :=
  fun tail suffix =>
    isSealed tail (suffix.trans (List.suffix_cons byte unit))

/-- A unit without `00 00 01` that does not end in zero is sealed. -/
theorem sealed_of_emulation_free
    {unit : Bytes}
    (free : ¬ [0, 0, 1] <:+: unit)
    (lastNonzero : ∀ byte ∈ unit.getLast?, byte ≠ 0) :
    Sealed unit := by
  intro tail suffix nonempty later starts
  have tailFree : ¬ [0, 0, 1] <:+: tail :=
    fun occurs => free (occurs.trans suffix.isInfix)
  have tailLast : ∀ byte ∈ tail.getLast?, byte ≠ 0 := by
    obtain ⟨before, rfl⟩ := suffix
    intro byte member
    apply lastNonzero byte
    simpa [List.getLast?_append, Option.mem_def] using Or.inl member
  match tail with
  | [] =>
      exact nonempty rfl
  | [first] =>
      have firstNonzero : first ≠ 0 := tailLast first (by simp)
      rcases starts with short | long
      · simp only [List.cons_append, List.cons_prefix_cons] at short
        exact firstNonzero short.1.symm
      · simp only [List.cons_append, List.cons_prefix_cons] at long
        exact firstNonzero long.1.symm
  | [_, second] =>
      have secondNonzero : second ≠ 0 := tailLast second (by simp)
      rcases starts with short | long
      · simp only [List.cons_append, List.cons_prefix_cons] at short
        exact secondNonzero short.2.1.symm
      · simp only [List.cons_append, List.cons_prefix_cons] at long
        exact secondNonzero long.2.1.symm
  | [first, second, third] =>
      have thirdNonzero : third ≠ 0 := tailLast third (by simp)
      rcases starts with short | long
      · simp only [List.cons_append, List.cons_prefix_cons] at short
        obtain ⟨rfl, rfl, rfl, _⟩ := short
        exact tailFree (List.infix_refl _)
      · simp only [List.cons_append, List.cons_prefix_cons] at long
        exact thirdNonzero long.2.2.1.symm
  | first :: second :: third :: fourth :: rest =>
      rcases starts with short | long
      · simp only [List.cons_append, List.cons_prefix_cons] at short
        obtain ⟨rfl, rfl, rfl, _⟩ := short
        exact tailFree ⟨[], fourth :: rest, rfl⟩
      · simp only [List.cons_append, List.cons_prefix_cons] at long
        obtain ⟨_, rfl, rfl, rfl, _⟩ := long
        exact tailFree ⟨[first], rest, rfl⟩

/--
Cut a stream at its start codes: the bytes before the first one, and the
non-empty units behind each.
-/
def scan : Bytes → Bytes × List Bytes
  | [] => ([], [])
  | byte :: rest =>
      let later := scan rest
      if StartsCode (byte :: rest) then
        let unit := (byte :: later.1).drop (codeLength (byte :: rest))
        ([], if unit = [] then later.2 else unit :: later.2)
      else
        (byte :: later.1, later.2)

/-- A byte that begins no start code stays in front. -/
theorem scan_cons_of_not_startsCode
    {byte : UInt8}
    {rest : Bytes}
    (absent : ¬ StartsCode (byte :: rest)) :
    scan (byte :: rest) = (byte :: (scan rest).1, (scan rest).2) := by
  simp [scan, absent]

/-- A scan passes over a sealed unit. -/
theorem scan_append_of_sealed
    {unit : Bytes}
    (isSealed : Sealed unit)
    (later : Bytes) :
    scan (unit ++ later) =
      (unit ++ (scan later).1, (scan later).2) := by
  induction unit with
  | nil =>
      rfl
  | cons byte unit inductionHypothesis =>
      have absent : ¬ StartsCode (byte :: (unit ++ later)) :=
        isSealed (byte :: unit) List.suffix_rfl (by simp) later
      rw [List.cons_append, scan_cons_of_not_startsCode absent,
        inductionHypothesis isSealed.tail]
      rfl

/-! ## Streams with padding -/

/-- A unit of a stream, its start code and the zeros behind it. -/
structure Part where
  long : Bool
  unit : Bytes
  padding : Nat
  nonempty : unit ≠ []
  emulationFree : ¬ [0, 0, 1] <:+: unit
  lastNonzero : ∀ byte ∈ unit.getLast?, byte ≠ 0

/-- The size of the start code. -/
def Part.codeSize (part : Part) : Nat :=
  if part.long then 4 else 3

/-- The start code, the unit and the padding. -/
def Part.bytes (part : Part) : Bytes :=
  (if part.long then [0, 0, 0, 1] else [0, 0, 1]) ++ part.unit ++
    List.replicate part.padding 0

/-- A stream of parts. -/
def stream (parts : List Part) : Bytes :=
  parts.flatMap Part.bytes

/-- How many of the zeros do not belong to the next start code. -/
def surplus (zeros : Nat) : List Part → Nat
  | [] => zeros
  | next :: _ => zeros + next.codeSize - 4

/-- The units as a scan cuts them, with surplus zeros at their ends. -/
def cutUnits : List Part → List Bytes
  | [] => []
  | part :: later =>
      (part.unit ++ List.replicate (surplus part.padding later) 0) ::
        cutUnits later

/--
Every padding disappears in the next start code, which scans as the longer one
when a zero stands in front of it.
-/
def PaddingFits : List Part → Prop
  | [] => True
  | [last] => last.padding = 0
  | part :: next :: later =>
      part.padding + next.codeSize ≤ 4 ∧ PaddingFits (next :: later)

theorem Part.isSealed (part : Part) : Sealed part.unit :=
  sealed_of_emulation_free part.emulationFree part.lastNonzero

/-- The start code consists of zeros and a one. -/
theorem Part.bytes_eq (part : Part) :
    part.bytes =
      List.replicate (part.codeSize - 1) 0 ++
        1 :: (part.unit ++ List.replicate part.padding 0) := by
  cases isLong : part.long <;>
    simp [Part.bytes, Part.codeSize, isLong, List.replicate_succ]

theorem Part.codeSize_cases (part : Part) :
    part.codeSize = 3 ∨ part.codeSize = 4 := by
  cases isLong : part.long <;> simp [Part.codeSize, isLong]

theorem stream_cons (part : Part) (later : List Part) :
    stream (part :: later) =
      List.replicate (part.codeSize - 1) 0 ++
        1 :: (part.unit ++
          (List.replicate part.padding 0 ++ stream later)) := by
  simp [stream, part.bytes_eq]

/-- Padding in front of a stream joins the zeros of its start code. -/
theorem zeros_append_stream
    (zeros : Nat)
    (part : Part)
    (later : List Part) :
    List.replicate zeros 0 ++ stream (part :: later) =
      List.replicate (zeros + part.codeSize - 1) 0 ++
        1 :: (part.unit ++
          (List.replicate part.padding 0 ++ stream later)) := by
  have sum :
      zeros + part.codeSize - 1 = zeros + (part.codeSize - 1) := by
    rcases part.codeSize_cases with isThree | isFour <;> omega
  rw [stream_cons, sum, ← List.append_assoc, List.replicate_append_replicate]

/-- Zeros alone contain no start code. -/
theorem not_startsCode_replicate (zeros : Nat) :
    ¬ StartsCode ((0 : UInt8) :: List.replicate zeros 0) := by
  rw [← List.replicate_succ]
  rintro (short | long)
  · have member := short.subset (by simp : (1 : UInt8) ∈ [0, 0, 1])
    simp at member
  · have member := long.subset (by simp : (1 : UInt8) ∈ [0, 0, 0, 1])
    simp at member

theorem scan_zeros (zeros : Nat) :
    scan (List.replicate zeros 0) = (List.replicate zeros 0, []) := by
  induction zeros with
  | zero =>
      rfl
  | succ zeros inductionHypothesis =>
      rw [List.replicate_succ,
        scan_cons_of_not_startsCode (not_startsCode_replicate zeros),
        inductionHypothesis]

/-- No start code begins at the last byte of one. -/
theorem not_startsCode_one (later : Bytes) :
    ¬ StartsCode (1 :: later) := by
  simp [StartsCode, List.cons_prefix_cons]

theorem not_startsCode_zero_one (later : Bytes) :
    ¬ StartsCode (0 :: 1 :: later) := by
  simp [StartsCode, List.cons_prefix_cons]

/-- Four zeros do not begin a start code. -/
theorem not_startsCode_zeros (later : Bytes) :
    ¬ StartsCode (0 :: 0 :: 0 :: 0 :: later) := by
  simp [StartsCode, List.cons_prefix_cons]

/-- Of the zeros in front of a one, three at most are a start code. -/
theorem scan_code
    (zeros : Nat)
    {later : Bytes}
    (nonempty : (scan later).1 ≠ []) :
    scan (List.replicate (zeros + 2) 0 ++ 1 :: later) =
      (List.replicate (zeros - 1) 0,
        (scan later).1 :: (scan later).2) := by
  have short : StartsCode (0 :: 0 :: 1 :: later) := .inl ⟨later, rfl⟩
  have shortLength : codeLength (0 :: 0 :: 1 :: later) = 3 := by
    simp [codeLength, List.cons_prefix_cons]
  have scanShort :
      scan (0 :: 0 :: 1 :: later) =
        ([], (scan later).1 :: (scan later).2) := by
    rw [scan, scan_cons_of_not_startsCode (not_startsCode_zero_one later),
      scan_cons_of_not_startsCode (not_startsCode_one later)]
    simp [short, shortLength, nonempty]
  have long : StartsCode (0 :: 0 :: 0 :: 1 :: later) := .inr ⟨later, rfl⟩
  have longLength : codeLength (0 :: 0 :: 0 :: 1 :: later) = 4 := by
    simp [codeLength, List.cons_prefix_cons]
  have scanLong :
      scan (0 :: 0 :: 0 :: 1 :: later) =
        ([], (scan later).1 :: (scan later).2) := by
    rw [scan, scanShort]
    simp [long, longLength]
  cases zeros with
  | zero =>
      exact scanShort
  | succ extra =>
      induction extra with
      | zero =>
          exact scanLong
      | succ extra inductionHypothesis =>
          have absent :=
            not_startsCode_zeros (List.replicate extra 0 ++ 1 :: later)
          have front :
              List.replicate (extra + 1 + 1 + 2) (0 : UInt8) ++
                  1 :: later =
                0 :: 0 :: 0 :: 0 ::
                  (List.replicate extra 0 ++ 1 :: later) :=
            rfl
          have rest :
              List.replicate (extra + 1 + 2) (0 : UInt8) ++ 1 :: later =
                0 :: 0 :: 0 :: (List.replicate extra 0 ++ 1 :: later) :=
            rfl
          rw [rest] at inductionHypothesis
          rw [front, scan_cons_of_not_startsCode absent,
            inductionHypothesis]
          rfl

/-- The zeros that reach the start code of a part, and those it leaves. -/
theorem exists_surplus
    (zeros : Nat)
    (part : Part)
    (later : List Part) :
    ∃ extra,
      zeros + part.codeSize - 1 = extra + 2 ∧
        extra - 1 = surplus zeros (part :: later) := by
  refine ⟨zeros + part.codeSize - 3, ?_, ?_⟩
  · rcases part.codeSize_cases with isThree | isFour
    · omega
    · omega
  · simp only [surplus]
    omega

/-- A scan of a stream behind any zeros, by induction on its parts. -/
theorem scan_stream (zeros : Nat) (parts : List Part) :
    scan (List.replicate zeros 0 ++ stream parts) =
      (List.replicate (surplus zeros parts) 0, cutUnits parts) := by
  induction parts generalizing zeros with
  | nil =>
      simp [stream, surplus, cutUnits, scan_zeros]
  | cons part later inductionHypothesis =>
      have passed :=
        scan_append_of_sealed part.isSealed
          (List.replicate part.padding 0 ++ stream later)
      rw [inductionHypothesis] at passed
      have nonempty :
          (scan (part.unit ++
            (List.replicate part.padding 0 ++ stream later))).1 ≠ [] := by
        rw [passed]
        simp [part.nonempty]
      obtain ⟨extra, extraEq, surplusEq⟩ :=
        exists_surplus zeros part later
      rw [zeros_append_stream, extraEq, scan_code extra nonempty, passed,
        surplusEq]
      rfl

/-- The cut units are the units exactly when all padding fits. -/
theorem cutUnits_eq_iff {parts : List Part} :
    cutUnits parts = parts.map Part.unit ↔ PaddingFits parts := by
  induction parts with
  | nil =>
      simp [cutUnits, PaddingFits]
  | cons part later inductionHypothesis =>
      simp only [cutUnits, List.map_cons, List.cons.injEq,
        List.append_right_eq_self, List.replicate_eq_nil_iff,
        inductionHypothesis]
      cases later with
      | nil =>
          simp [surplus, PaddingFits]
      | cons next later =>
          simp only [surplus, PaddingFits]
          rw [Nat.sub_eq_zero_iff_le]

/-! ## Serializations -/

/-- The bytes can be a unit of a stream. -/
structure PlainUnit (unit : Bytes) : Prop where
  nonempty : unit ≠ []
  emulationFree : ¬ [0, 0, 0] <:+: unit ∧ ¬ [0, 0, 1] <:+: unit
  lastNonzero : ∀ byte ∈ unit.getLast?, byte ≠ 0

/-- A start code before each unit, and any number of zeros behind it. -/
inductive Serializes : List Bytes → Bytes → Prop where
  | nil : Serializes [] []
  | cons
      (code : Bytes)
      (isCode : code = [0, 0, 1] ∨ code = [0, 0, 0, 1])
      (unit : Bytes)
      (padding : Nat)
      {units : List Bytes}
      {bytes : Bytes}
      (rest : Serializes units bytes) :
      Serializes (unit :: units)
        (code ++ unit ++ List.replicate padding 0 ++ bytes)

/-- A serialization of plain units is a stream of parts. -/
theorem exists_parts
    {units : List Bytes}
    {bytes : Bytes}
    (serialized : Serializes units bytes)
    (plain : ∀ unit ∈ units, PlainUnit unit) :
    ∃ parts : List Part,
      parts.map Part.unit = units ∧ stream parts = bytes := by
  induction serialized with
  | nil =>
      exact ⟨[], rfl, rfl⟩
  | cons code isCode unit padding rest inductionHypothesis =>
      obtain ⟨isPlain, laterPlain⟩ := List.forall_mem_cons.mp plain
      obtain ⟨parts, rfl, rfl⟩ := inductionHypothesis laterPlain
      let part : Part := {
        long := code == [0, 0, 0, 1]
        unit := unit
        padding := padding
        nonempty := isPlain.nonempty
        emulationFree := isPlain.emulationFree.2
        lastNonzero := isPlain.lastNonzero
      }
      refine ⟨part :: parts, rfl, ?_⟩
      rcases isCode with rfl | rfl
      · rfl
      · rfl

/-! ## Length-prefixed units -/

/-- A unit behind its big-endian four-byte length. -/
def withLength (unit : Bytes) : Bytes :=
  BigEndian.toBytes 4 unit.length ++ unit

/-- Length-prefixed units. -/
def lengthPrefixed (units : List Bytes) : Bytes :=
  units.flatMap withLength

theorem lengthPrefixed_cons (unit : Bytes) (units : List Bytes) :
    lengthPrefixed (unit :: units) =
      BigEndian.toBytes 4 unit.length ++ (unit ++ lengthPrefixed units) := by
  simp [lengthPrefixed, withLength]

/-- A length below `2 ^ 24` has a zero byte and three value bytes. -/
theorem toBytes_four_of_lt
    {number : Nat}
    (bound : number < 2 ^ 24) :
    ∃ high middle low : UInt8,
      BigEndian.toBytes 4 number = [0, high, middle, low] ∧
        number =
          high.toNat * 65536 + middle.toNat * 256 + low.toNat := by
  refine ⟨UInt8.ofNat (number / 256 ^ 2), UInt8.ofNat (number / 256),
    UInt8.ofNat number, ?_, ?_⟩
  · have top : number / 16777216 = 0 := by omega
    simp [BigEndian.toBytes, top]
  · simp only [UInt8.toNat_ofNat']
    omega

end AnnexB
