import CamRtsp.SplitAnnexB

namespace CamRtsp

open RustText AnnexB

/-!
# Sequence headers on Windows

Media Foundation reports the parameter sets of a stream as a blob that is either
an Annex B stream or an avcC record.  The code does not know which: it runs the
splitter first and reads the record only when that finds no parameter sets.
-/

/-- The configuration with these parameter sets, when the first is complete. -/
def describedBy (sps pps : Bytes) : Option CodecConfig := do
  let profile ← sps[1]?
  let constraints ← sps[2]?
  let level ← sps[3]?
  some {
    sps := sps
    pps := pps
    profileLevelId := (profile, constraints, level)
  }

/-- `codec_config_from_nal_units`. -/
def codecConfigFromNalUnits (units : List Bytes) : Option CodecConfig := do
  let sps ← units.find? fun nal => nalType nal == some 7
  let pps ← units.find? fun nal => nalType nal == some 8
  describedBy sps pps

/-- `codec_config_from_annex_b`. -/
def codecConfigFromAnnexB (bytes : Bytes) : Option CodecConfig :=
  codecConfigFromNalUnits (Windows.splitH264 bytes)

/--
A loop over the entries of an avcC record: the last one of the given type, and
the bytes behind the entries.
-/
def recordEntries (type : UInt8) :
    Nat → Bytes → Option Bytes → Option (Option Bytes × Bytes)
  | 0, bytes, found => some (found, bytes)
  | count + 1, bytes, found =>
      if bytes.length < 2 then
        none
      else
        let length := BigEndian.ofBytes (bytes.take 2)
        let rest := bytes.drop 2
        if rest.length < length then
          none
        else
          recordEntries type count (rest.drop length)
            (if nalType (rest.take length) = some type then
              some (rest.take length)
            else
              found)

/-- `codec_config_from_avcc`. -/
def codecConfigFromAvcc (bytes : Bytes) : Option CodecConfig :=
  if bytes.length < 7 ∨ bytes.head? ≠ some 1 then
    none
  else do
    let spsCount ← bytes[5]?
    let (sps, rest) ←
      recordEntries 7 (spsCount &&& 0x1f).toNat (bytes.drop 6) none
    let ppsCount ← rest.head?
    let (pps, _) ← recordEntries 8 ppsCount.toNat rest.tail none
    describedBy (← sps) (← pps)

/-- `codec_config_from_sequence_header`. -/
def codecConfigFromSequenceHeader (bytes : Bytes) : Option CodecConfig :=
  (codecConfigFromAnnexB bytes).or (codecConfigFromAvcc bytes)

/-! ## The two containers -/

/-- The bytes can be a parameter set of the given type. -/
structure IsParameterSet (type : UInt8) (nal : Bytes) : Prop where
  hasType : nalType nal = some type
  bounded : nal.length ≤ 65535
  emulationFree : ¬ [0, 0, 0] <:+: nal ∧ ¬ [0, 0, 1] <:+: nal
  lastNonzero : ∀ byte ∈ nal.getLast?, byte ≠ 0

/-- The parameter sets of a stream; the first has its profile bytes. -/
structure ParameterSets where
  header : UInt8
  profile : UInt8
  constraints : UInt8
  level : UInt8
  rest : Bytes
  pps : Bytes
  spsValid :
    IsParameterSet 7 (header :: profile :: constraints :: level :: rest)
  ppsValid : IsParameterSet 8 pps

namespace ParameterSets

variable (sets : ParameterSets)

/-- The sequence parameter set. -/
def sps : Bytes :=
  sets.header :: sets.profile :: sets.constraints :: sets.level ::
    sets.rest

/-- The configuration that both containers describe. -/
def config : CodecConfig where
  sps := sets.sps
  pps := sets.pps
  profileLevelId := (sets.profile, sets.constraints, sets.level)

/-- The sets as an Annex B stream. -/
def annexB (spsLong ppsLong : Bool) : Bytes :=
  (if spsLong then [0, 0, 0, 1] else [0, 0, 1]) ++ sets.sps ++
    (if ppsLong then [0, 0, 0, 1] else [0, 0, 1]) ++ sets.pps

/-- The last bytes of a record for one of the high profiles. -/
def extensionBytes : Option (UInt8 × UInt8 × UInt8) → Bytes
  | none => []
  | some (chroma, luma, chromaDepth) =>
      [0xfc ||| chroma, 0xf8 ||| luma, 0xf8 ||| chromaDepth, 0]

/-- The sets as an avcC record. -/
def avcc
    (lengthSize : UInt8)
    (extension : Option (UInt8 × UInt8 × UInt8)) : Bytes :=
  1 :: sets.profile :: sets.constraints :: sets.level ::
    (0xfc ||| lengthSize) :: 0xe1 ::
      (BigEndian.toBytes 2 sets.sps.length ++ (sets.sps ++
        1 :: (BigEndian.toBytes 2 sets.pps.length ++ (sets.pps ++
          extensionBytes extension))))

end ParameterSets

/-! ## Parameter sets in units -/

section Units

variable {type : UInt8} {nal : Bytes}

theorem IsParameterSet.nonempty (isSet : IsParameterSet type nal) :
    nal ≠ [] := by
  rintro rfl
  cases isSet.hasType

/-- A parameter set begins with a byte of its type. -/
theorem IsParameterSet.exists_header (isSet : IsParameterSet type nal) :
    ∃ header rest, nal = header :: rest ∧ header &&& 0x1f = type := by
  obtain ⟨header, rest, rfl⟩ :=
    List.exists_cons_of_ne_nil isSet.nonempty
  exact ⟨header, rest, rfl, Option.some.inj isSet.hasType⟩

theorem IsParameterSet.isSealed (isSet : IsParameterSet type nal) :
    Sealed nal :=
  sealed_of_emulation_free isSet.emulationFree.2 isSet.lastNonzero

/-- The parameter set behind a start code. -/
def IsParameterSet.part
    (isSet : IsParameterSet type nal)
    (long : Bool) : Part where
  long := long
  unit := nal
  padding := 0
  nonempty := isSet.nonempty
  emulationFree := isSet.emulationFree.2
  lastNonzero := isSet.lastNonzero

end Units

namespace ParameterSets

variable (sets : ParameterSets)

theorem spsSet : IsParameterSet 7 sets.sps :=
  sets.spsValid

/-- The two sets are found by their types. -/
theorem codecConfigFromNalUnits_eq :
    codecConfigFromNalUnits [sets.sps, sets.pps] = some sets.config := by
  have sps := sets.spsSet.hasType
  have pps := sets.ppsValid.hasType
  have described : describedBy sets.sps sets.pps = some sets.config :=
    rfl
  simp [codecConfigFromNalUnits, sps, pps, described]

/-! ## Annex B -/

theorem annexB_eq_stream (spsLong ppsLong : Bool) :
    sets.annexB spsLong ppsLong =
      stream [sets.spsSet.part spsLong, sets.ppsValid.part ppsLong] := by
  simp [annexB, stream, Part.bytes, IsParameterSet.part]

/-- The splitter cuts the stream into the two sets. -/
theorem splitH264_annexB (spsLong ppsLong : Bool) :
    Windows.splitH264 (sets.annexB spsLong ppsLong) =
      [sets.sps, sets.pps] := by
  have fits :
      PaddingFits
        [sets.spsSet.part spsLong, sets.ppsValid.part ppsLong] := by
    refine ⟨?_, rfl⟩
    rcases (sets.ppsValid.part ppsLong).codeSize_cases with
      isThree | isFour
    · rw [isThree]
      exact Nat.le_succ 3
    · rw [isFour]
      exact Nat.le_refl 4
  rw [sets.annexB_eq_stream, windows_splitH264_stream,
    cutUnits_eq_iff.mpr fits]
  rfl

/-! ## The record as a stream -/

/-- Two bytes hold the length of a parameter set. -/
theorem toBytes_two (number : Nat) :
    ∃ high low : UInt8, BigEndian.toBytes 2 number = [high, low] :=
  ⟨_, _, rfl⟩

/-- A scan passes over a length and the parameter set behind it. -/
theorem scan_entry
    {type : UInt8}
    (typeLarge : 1 < type)
    {nal : Bytes}
    (isSet : IsParameterSet type nal)
    (later : Bytes) :
    scan (BigEndian.toBytes 2 nal.length ++ (nal ++ later)) =
      (BigEndian.toBytes 2 nal.length ++ (nal ++ (scan later).1),
        (scan later).2) := by
  obtain ⟨high, low, lengthEq⟩ := toBytes_two nal.length
  obtain ⟨header, rest, nalEq, headerType⟩ := isSet.exists_header
  have headerNonzero : header ≠ 0 := by
    rintro rfl
    rw [UInt8.zero_and] at headerType
    subst headerType
    exact absurd typeLarge (by decide)
  have headerNotOne : header ≠ 1 := by
    rintro rfl
    have isOne : type = 1 := headerType.symm
    subst isOne
    exact absurd typeLarge (by decide)
  have passed := scan_append_of_sealed isSet.isSealed later
  have lowClear : ¬ StartsCode (low :: (nal ++ later)) := by
    rw [nalEq]
    simp [StartsCode, List.cons_prefix_cons, Ne.symm headerNonzero]
  have highClear : ¬ StartsCode (high :: low :: (nal ++ later)) := by
    rw [nalEq]
    simp [StartsCode, List.cons_prefix_cons, Ne.symm headerNonzero,
      Ne.symm headerNotOne]
  rw [lengthEq]
  simp only [List.cons_append, List.nil_append]
  rw [scan_cons_of_not_startsCode highClear,
    scan_cons_of_not_startsCode lowClear, passed]

/-- A byte with its highest bit set is no byte of a start code. -/
theorem or_ne_of_highBit
    {mask value : UInt8}
    (maskHigh : mask.toBitVec[7] = true)
    (valueLow : value.toBitVec[7] = false)
    (byte : UInt8) :
    mask ||| byte ≠ value := by
  intro same
  have bit := congrArg (fun byte => byte.toBitVec[7]) same
  simp [maskHigh, valueLow] at bit

/-- The extension of a record contains no start code. -/
theorem scan_extensionBytes
    (extension : Option (UInt8 × UInt8 × UInt8)) :
    scan (extensionBytes extension) = (extensionBytes extension, []) := by
  cases extension with
  | none =>
      rfl
  | some bytes =>
      obtain ⟨chroma, luma, chromaDepth⟩ := bytes
      have chromaNonzero : 0xfc ||| chroma ≠ 0 :=
        or_ne_of_highBit rfl rfl chroma
      have lumaNonzero : 0xf8 ||| luma ≠ 0 :=
        or_ne_of_highBit rfl rfl luma
      have depthNonzero : 0xf8 ||| chromaDepth ≠ 0 :=
        or_ne_of_highBit rfl rfl chromaDepth
      have last : scan [0] = ([0], []) := scan_zeros 1
      simp only [extensionBytes]
      rw [scan_cons_of_not_startsCode, scan_cons_of_not_startsCode,
        scan_cons_of_not_startsCode, last]
      · simp [StartsCode, List.cons_prefix_cons, Ne.symm depthNonzero]
      · simp [StartsCode, List.cons_prefix_cons, Ne.symm lumaNonzero]
      · simp [StartsCode, List.cons_prefix_cons, Ne.symm chromaNonzero]

/-- The profile bytes of a record continue in no start code. -/
theorem not_startsCode_profile
    {size : UInt8}
    (sizeNotOne : size ≠ 1)
    (later : Bytes) :
    ¬ StartsCode
        (sets.profile :: sets.constraints :: sets.level :: size ::
          later) := by
  rintro (short | long)
  · simp only [List.cons_prefix_cons] at short
    obtain ⟨isProfile, isConstraints, isLevel, _⟩ := short
    apply sets.spsSet.emulationFree.2
    rw [sps, ← isProfile, ← isConstraints, ← isLevel]
    exact ⟨[sets.header], sets.rest, rfl⟩
  · simp only [List.cons_prefix_cons] at long
    exact sizeNotOne long.2.2.2.1.symm

/-- A record contains no start code. -/
theorem scan_avcc
    (lengthSize : UInt8)
    (extension : Option (UInt8 × UInt8 × UInt8)) :
    scan (sets.avcc lengthSize extension) =
      (sets.avcc lengthSize extension, []) := by
  have sizeNonzero : 0xfc ||| lengthSize ≠ 0 :=
    or_ne_of_highBit rfl rfl lengthSize
  have sizeNotOne : 0xfc ||| lengthSize ≠ 1 :=
    or_ne_of_highBit rfl rfl lengthSize
  have behindPps :=
    scan_entry (by decide) sets.ppsValid (extensionBytes extension)
  rw [scan_extensionBytes] at behindPps
  have behindSps :=
    scan_entry (by decide) sets.spsSet
      (1 :: (BigEndian.toBytes 2 sets.pps.length ++ (sets.pps ++
        extensionBytes extension)))
  rw [scan_cons_of_not_startsCode (not_startsCode_one _), behindPps]
    at behindSps
  rw [avcc, scan_cons_of_not_startsCode, scan_cons_of_not_startsCode,
    scan_cons_of_not_startsCode, scan_cons_of_not_startsCode,
    scan_cons_of_not_startsCode, scan_cons_of_not_startsCode, behindSps]
  · simp [StartsCode, List.cons_prefix_cons]
  · simp [StartsCode, List.cons_prefix_cons, Ne.symm sizeNonzero]
  · simp [StartsCode, List.cons_prefix_cons, Ne.symm sizeNonzero]
  · simp [StartsCode, List.cons_prefix_cons, Ne.symm sizeNonzero,
      Ne.symm sizeNotOne]
  · exact sets.not_startsCode_profile sizeNotOne _
  · exact not_startsCode_one _

/-- The lengths of both sets and the record's own bytes. -/
theorem length_avcc_le
    (lengthSize : UInt8)
    (extension : Option (UInt8 × UInt8 × UInt8)) :
    (sets.avcc lengthSize extension).length ≤ 131085 := by
  have spsBound := sets.spsSet.bounded
  have ppsBound := sets.ppsValid.bounded
  have extensionBound : (extensionBytes extension).length ≤ 4 := by
    cases extension with
    | none =>
        exact Nat.zero_le 4
    | some bytes =>
        exact Nat.le_refl 4
  simp only [avcc, List.length_cons, List.length_append,
    BigEndian.length_toBytes]
  omega

/-- A record is no sequence of length-prefixed units. -/
theorem lengthPrefixedUnits_avcc
    (lengthSize : UInt8)
    (extension : Option (UInt8 × UInt8 × UInt8)) :
    Windows.lengthPrefixedUnits (sets.avcc lengthSize extension) =
      none := by
  have bound := sets.length_avcc_le lengthSize extension
  have isLong : ¬ (sets.avcc lengthSize extension).length < 4 := by
    simp only [avcc, List.length_cons]
    omega
  have first :
      16777216 ≤
        BigEndian.ofBytes
          ((sets.avcc lengthSize extension).take 4) := by
    simp only [avcc, List.take_succ_cons, List.take_zero]
    rw [BigEndian.ofBytes_cons]
    have power : (256 : Nat) ^ 3 = 16777216 := by decide
    simp [power]
  rw [Windows.lengthPrefixedUnits, dif_neg isLong]
  simp only [List.length_drop]
  rw [if_pos (by omega)]

/-- The first attempt finds no parameter sets in a record. -/
theorem codecConfigFromAnnexB_avcc
    (lengthSize : UInt8)
    (extension : Option (UInt8 × UInt8 × UInt8)) :
    codecConfigFromAnnexB (sets.avcc lengthSize extension) = none := by
  have noStart :
      Windows.starts (sets.avcc lengthSize extension) = [] := by
    rw [Windows.starts_eq_nil_iff, scan_avcc]
  rw [codecConfigFromAnnexB, Windows.splitH264,
    if_neg (by simp [noStart]), lengthPrefixedUnits_avcc]
  rfl

/-! ## Reading a record -/

/-- A single entry of the wanted type is found. -/
theorem recordEntries_one
    {type : UInt8}
    {nal : Bytes}
    (isSet : IsParameterSet type nal)
    (later : Bytes) :
    recordEntries type 1
        (BigEndian.toBytes 2 nal.length ++ (nal ++ later)) none =
      some (some nal, later) := by
  have lengthEq :
      BigEndian.ofBytes (BigEndian.toBytes 2 nal.length) = nal.length :=
    BigEndian.ofBytes_toBytes_of_lt
      (Nat.lt_of_le_of_lt isSet.bounded (by decide))
  have isLong :
      ¬ (BigEndian.toBytes 2 nal.length ++ (nal ++ later)).length < 2 := by
    simp only [List.length_append, BigEndian.length_toBytes]
    omega
  rw [recordEntries, if_neg isLong]
  simp [recordEntries, BigEndian.length_toBytes, lengthEq,
    isSet.hasType]

/-- A record is read as its parameter sets. -/
theorem codecConfigFromAvcc_avcc
    (lengthSize : UInt8)
    (extension : Option (UInt8 × UInt8 × UInt8)) :
    codecConfigFromAvcc (sets.avcc lengthSize extension) =
      some sets.config := by
  have valid :
      ¬ ((sets.avcc lengthSize extension).length < 7 ∨
        (sets.avcc lengthSize extension).head? ≠ some 1) := by
    simp only [avcc, List.length_cons, List.length_append,
      BigEndian.length_toBytes, List.head?_cons, ne_eq,
      not_true_eq_false, or_false]
    omega
  have spsEntry :=
    recordEntries_one sets.spsSet
      (1 :: (BigEndian.toBytes 2 sets.pps.length ++ (sets.pps ++
        extensionBytes extension)))
  have ppsEntry :=
    recordEntries_one sets.ppsValid (extensionBytes extension)
  have described : describedBy sets.sps sets.pps = some sets.config :=
    rfl
  rw [codecConfigFromAvcc, if_neg valid]
  simp [avcc, spsEntry, ppsEntry, described]

/-- Both containers of the same parameter sets describe the same stream. -/
structure SameInEitherContainer (sets : ParameterSets) : Prop where
  fromAnnexB :
    ∀ spsLong ppsLong,
      codecConfigFromSequenceHeader (sets.annexB spsLong ppsLong) =
        some sets.config
  fromAvcc :
    ∀ lengthSize extension,
      codecConfigFromSequenceHeader (sets.avcc lengthSize extension) =
        some sets.config
  firstAttempt :
    ∀ lengthSize extension,
      codecConfigFromAnnexB (sets.avcc lengthSize extension) = none

/-- A sequence header means the same in either container. -/
theorem sequenceHeader_sameInEitherContainer
    (sets : ParameterSets) :
    SameInEitherContainer sets where
  fromAnnexB := by
    intro spsLong ppsLong
    rw [codecConfigFromSequenceHeader, codecConfigFromAnnexB,
      splitH264_annexB, codecConfigFromNalUnits_eq]
    rfl
  fromAvcc := by
    intro lengthSize extension
    rw [codecConfigFromSequenceHeader, codecConfigFromAnnexB_avcc,
      codecConfigFromAvcc_avcc]
    rfl
  firstAttempt := sets.codecConfigFromAnnexB_avcc

/-- The sets of a baseline stream, of five and of two bytes. -/
theorem sequenceHeader_sameInEitherContainer_baseline :
    ∃ sets : ParameterSets,
      sets.sps = [0x67, 0x42, 0x00, 0x1f, 0xe9] ∧
        sets.pps = [0x68, 0xce] ∧ SameInEitherContainer sets := by
  have spsValid : IsParameterSet 7 [0x67, 0x42, 0x00, 0x1f, 0xe9] :=
    { hasType := by decide
      bounded := by decide
      emulationFree := by simp [List.infix_cons_iff]
      lastNonzero := by simp
    }
  have ppsValid : IsParameterSet 8 [0x68, 0xce] :=
    { hasType := by decide
      bounded := by decide
      emulationFree := by simp [List.infix_cons_iff]
      lastNonzero := by simp
    }
  let sets : ParameterSets := {
    header := 0x67
    profile := 0x42
    constraints := 0x00
    level := 0x1f
    rest := [0xe9]
    pps := [0x68, 0xce]
    spsValid := spsValid
    ppsValid := ppsValid
  }
  exact ⟨sets, rfl, rfl, sequenceHeader_sameInEitherContainer sets⟩

end ParameterSets

end CamRtsp
