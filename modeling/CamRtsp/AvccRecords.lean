import CamRtsp.Foundation.LengthPrefix
import CamRtsp.SequenceHeader

namespace CamRtsp

open RustText LengthPrefix

/-!
# avcC records

An AVCDecoderConfigurationRecord counts its parameter sets and puts each
behind its length.  The Windows code walks both counted lists; the macOS code
reads one SPS and takes the next byte for the count of the PPS.
-/

/-! ## The grammar of the records -/

/-- The fields of a record. -/
structure AvccRecord where
  profile : UInt8
  constraints : UInt8
  level : UInt8
  lengthSize : UInt8
  spsCount : UInt8
  sps : List Bytes
  pps : List Bytes
  extension : Bytes
  spsCounted : (spsCount &&& 0x1f).toNat = sps.length
  ppsCounted : pps.length < 256
  spsBounded : Bounded 2 sps
  ppsBounded : Bounded 2 pps

namespace AvccRecord

variable (record : AvccRecord)

/-- The PPS behind their count. -/
def ppsBytes : Bytes :=
  UInt8.ofNat record.pps.length :: fields 2 record.pps

/-- The record up to the end of its last PPS. -/
def setBytes : Bytes :=
  [1, record.profile, record.constraints, record.level, record.lengthSize,
    record.spsCount] ++ (fields 2 record.sps ++ record.ppsBytes)

/-- The bytes of the record. -/
def bytes : Bytes :=
  record.setBytes ++ record.extension

/-- The number of PPS fits its byte. -/
theorem toNat_ppsCount :
    (UInt8.ofNat record.pps.length).toNat = record.pps.length :=
  UInt8.toNat_ofNat_of_lt' record.ppsCounted

/-- The counted sets are behind six bytes. -/
theorem bytes_eq :
    record.bytes =
      1 :: record.profile :: record.constraints :: record.level ::
        record.lengthSize :: record.spsCount ::
          (fields 2 record.sps ++ (record.ppsBytes ++ record.extension)) := by
  simp [bytes, setBytes]

/-- A record has a version and is long enough. -/
theorem bytes_valid :
    ¬ (record.bytes.length < 7 ∨ record.bytes.head? ≠ some 1) := by
  simp [bytes_eq, ppsBytes]
  omega

/-- The counted SPS begin at offset six. -/
theorem drop_six_bytes :
    record.bytes.drop 6 =
      fields 2 record.sps ++ (record.ppsBytes ++ record.extension) := by
  rw [bytes_eq]
  rfl

end AvccRecord

/-- The last unit of the given type. -/
def lastOfType (type : UInt8) (units : List Bytes) : Option Bytes :=
  (units.filter fun unit => nalType unit == some type).getLast?

/-- The configuration of the last SPS and the last PPS of the record. -/
structure AvccRecord.Describes
    (record : AvccRecord)
    (config : CodecConfig) : Prop where
  sps : lastOfType 7 record.sps = some config.sps
  pps : lastOfType 8 record.pps = some config.pps
  complete : 4 ≤ config.sps.length
  profileLevelId :
    some config.profileLevelId.1 = config.sps[1]? ∧
      some config.profileLevelId.2.1 = config.sps[2]? ∧
      some config.profileLevelId.2.2 = config.sps[3]?

/-! ## Reads at an offset -/

/-- A read behind the end of the buffer, at which the code panics. -/
inductive OutOfBounds where
  | read (index : Nat)
  deriving Repr, DecidableEq

/-- `bytes[index]`. -/
def index (bytes : Bytes) (index : Nat) : Except OutOfBounds UInt8 :=
  match bytes[index]? with
  | some byte => .ok byte
  | none => .error (.read index)

/-- `bytes.get(start..stop)`. -/
def slice (bytes : Bytes) (start stop : Nat) : Option Bytes :=
  if start ≤ stop ∧ stop ≤ bytes.length then
    some ((bytes.take stop).drop start)
  else
    none

/--
A loop of `codec_config_from_avcc` from an offset on.  An offset into a buffer
and a 16-bit length have a sum in `usize`.
-/
def recordEntriesAt (type : UInt8) (bytes : Bytes) :
    Nat → Nat → Option Bytes → Option (Option Bytes × Nat)
  | 0, offset, found => some (found, offset)
  | count + 1, offset, found => do
      let length := BigEndian.ofBytes (← slice bytes offset (offset + 2))
      let unit ← slice bytes (offset + 2) (offset + 2 + length)
      recordEntriesAt type bytes count (offset + 2 + length)
        (if nalType unit = some type then some unit else found)

/-- The two counted loops of `codec_config_from_avcc`. -/
def recordSetsAt (bytes : Bytes) (spsCount offset : Nat) :
    Option CodecConfig := do
  let (sps, offset) ← recordEntriesAt 7 bytes spsCount offset none
  let ppsCount ← bytes[offset]?
  let (pps, _) ← recordEntriesAt 8 bytes ppsCount.toNat (offset + 1) none
  describedBy (← sps) (← pps)

/-- `codec_config_from_avcc` with its offset into the buffer. -/
def codecConfigFromAvccAt (bytes : Bytes) :
    Except OutOfBounds (Option CodecConfig) := do
  if bytes.length < 7 then
    return none
  if (← index bytes 0) ≠ 1 then
    return none
  let spsCount ← index bytes 5
  return recordSetsAt bytes (spsCount &&& 0x1f).toNat 6

/-! ## The counted loops -/

section Entries

variable {type : UInt8}
variable {count : Nat}
variable {bytes unit later : Bytes}
variable {found : Option Bytes}

/-- A further unit replaces what was found before if it has the type. -/
theorem lastOfType_cons (unit : Bytes) (units : List Bytes) :
    lastOfType type (unit :: units) =
      (lastOfType type units).or
        (if nalType unit = some type then some unit else none) := by
  unfold lastOfType
  by_cases typed : nalType unit = some type
  · rw [List.filter_cons_of_pos (by simp [typed]), if_pos typed,
      List.getLast?_cons]
    cases (units.filter fun unit => nalType unit == some type).getLast? <;>
      rfl
  · rw [List.filter_cons_of_neg (by simp [typed]), if_neg typed,
      Option.or_none]

theorem recordEntries_of_takeField
    (taken : takeField 2 bytes = some (unit, later)) :
    recordEntries type (count + 1) bytes found =
      recordEntries type count later
        (if nalType unit = some type then some unit else found) := by
  obtain ⟨complete, inside, rfl, rfl⟩ := taken_of_takeField taken
  rw [recordEntries, if_neg complete]
  exact if_neg inside

theorem recordEntries_of_takeField_none
    (taken : takeField 2 bytes = none) :
    recordEntries type (count + 1) bytes found = none := by
  rw [recordEntries]
  rcases takeField_eq_none_iff.mp taken with short | outside
  · exact if_pos short
  · split
    · rfl
    · exact if_pos outside

/-- The loop reads exactly the counted units, by induction on the count. -/
theorem recordEntries_eq_some_iff {result : Option Bytes} :
    recordEntries type count bytes found = some (result, later) ↔
      ∃ units, units.length = count ∧ Bounded 2 units ∧
        bytes = fields 2 units ++ later ∧
        result = (lastOfType type units).or found := by
  induction count generalizing bytes found with
  | zero =>
      constructor
      · intro read
        cases read
        exact ⟨[], rfl, fun _ member => (List.not_mem_nil member).elim,
          rfl, rfl⟩
      · rintro ⟨units, empty, _, rfl, rfl⟩
        rw [List.length_eq_zero_iff.mp empty]
        rfl
  | succ count inductionHypothesis =>
      constructor
      · intro read
        cases taken : takeField 2 bytes with
        | none =>
            rw [recordEntries_of_takeField_none taken] at read
            cases read
        | some pair =>
            obtain ⟨unit, rest⟩ := pair
            rw [recordEntries_of_takeField taken] at read
            obtain ⟨units, rfl, bounded, rfl, rfl⟩ :=
              inductionHypothesis.mp read
            obtain ⟨unitBounded, rfl⟩ := takeField_eq_some_iff.mp taken
            refine ⟨unit :: units, rfl,
              bounded_cons.mpr ⟨unitBounded, bounded⟩, ?_, ?_⟩
            · rw [fields_cons, List.append_assoc]
            · rw [lastOfType_cons, Option.or_assoc]
              split <;> rfl
      · rintro ⟨units, counted, bounded, rfl, rfl⟩
        obtain ⟨unit, units, rfl⟩ :=
          List.exists_cons_of_length_eq_add_one counted
        obtain ⟨unitBounded, laterBounded⟩ := bounded_cons.mp bounded
        rw [fields_cons, List.append_assoc,
          recordEntries_of_takeField (takeField_append unitBounded _)]
        refine inductionHypothesis.mpr
          ⟨units, Nat.succ.inj counted, laterBounded, rfl, ?_⟩
        rw [lastOfType_cons, Option.or_assoc]
        split <;> rfl

end Entries

/-! ## The offsets of the loops -/

section Offsets

variable {type : UInt8}
variable {count offset : Nat}
variable {bytes : Bytes}
variable {found : Option Bytes}

/-- A slice is taken from what is behind its start. -/
theorem slice_add
    (inside : offset ≤ bytes.length)
    (length : Nat) :
    slice bytes offset (offset + length) =
      if (bytes.drop offset).length < length then
        none
      else
        some ((bytes.drop offset).take length) := by
  rw [slice, List.drop_take, Nat.add_sub_cancel_left, List.length_drop]
  split
  · rw [if_neg (by omega)]
  · rw [if_pos (by omega)]

/-- The loop over the buffer is the loop over what is behind its offset. -/
theorem recordEntriesAt_eq
    (inside : offset ≤ bytes.length) :
    (recordEntriesAt type bytes count offset found).map
        (fun (result, stop) => (result, bytes.drop stop)) =
      recordEntries type count (bytes.drop offset) found := by
  induction count generalizing offset found with
  | zero =>
      rfl
  | succ count inductionHypothesis =>
      rw [recordEntriesAt, recordEntries, slice_add inside]
      split
      · rfl
      · rename_i complete
        have lengthInside : offset + 2 ≤ bytes.length := by
          rw [List.length_drop] at complete
          omega
        rw [Option.bind_eq_bind, Option.bind_some]
        dsimp only
        rw [slice_add lengthInside, List.drop_drop]
        by_cases outside :
            (bytes.drop (offset + 2)).length <
              BigEndian.ofBytes ((bytes.drop offset).take 2)
        · rw [if_pos outside, if_pos outside]
          rfl
        · rw [if_neg outside, if_neg outside, Option.bind_some,
            inductionHypothesis, List.drop_drop]
          rw [List.length_drop] at outside
          omega

/-- The counted sets are the same at an offset and behind it. -/
theorem recordSetsAt_eq
    (inside : offset ≤ bytes.length)
    (count : Nat) :
    recordSetsAt bytes count offset =
      (do
        let (sps, rest) ← recordEntries 7 count (bytes.drop offset) none
        let ppsCount ← rest.head?
        let (pps, _) ← recordEntries 8 ppsCount.toNat rest.tail none
        describedBy (← sps) (← pps)) := by
  rw [recordSetsAt, ← recordEntriesAt_eq inside]
  cases recordEntriesAt 7 bytes count offset none with
  | none =>
      rfl
  | some pair =>
      obtain ⟨sps, stop⟩ := pair
      dsimp only [bind, Option.bind, Option.map]
      rw [List.head?_drop]
      cases counter : bytes[stop]? with
      | none =>
          rfl
      | some ppsCount =>
          obtain ⟨stopInside, _⟩ := List.getElem?_eq_some_iff.mp counter
          dsimp only
          rw [List.tail_drop, ← recordEntriesAt_eq stopInside]
          cases recordEntriesAt 8 bytes ppsCount.toNat (stop + 1) none <;>
            rfl

/-- The offsets stay inside the buffer wherever the code indexes it. -/
theorem codecConfigFromAvccAt_eq (bytes : Bytes) :
    codecConfigFromAvccAt bytes = .ok (codecConfigFromAvcc bytes) := by
  unfold codecConfigFromAvccAt codecConfigFromAvcc
  by_cases short : bytes.length < 7
  · rw [if_pos short, if_pos (.inl short)]
    rfl
  · have first : index bytes 0 = .ok bytes[0] := by
      rw [index, List.getElem?_eq_getElem (by omega)]
    have counter : index bytes 5 = .ok bytes[5] := by
      rw [index, List.getElem?_eq_getElem (by omega)]
    have head : bytes.head? = some bytes[0] := by
      rw [List.head?_eq_getElem?, List.getElem?_eq_getElem (by omega)]
    have sixInside : 6 ≤ bytes.length := by omega
    have counted :=
      recordSetsAt_eq sixInside (bytes[5] &&& 0x1f).toNat
    rw [if_neg short, first, counter, head,
      List.getElem?_eq_getElem (by omega)]
    by_cases version : bytes[0] = 1
    · rw [if_neg (by simp [version, short])]
      simp only [bind, Except.bind, version, ne_eq, not_true_eq_false,
        if_false]
      exact congrArg Except.ok counted
    · rw [if_pos (.inr (by simpa using version))]
      simp only [bind, Except.bind, if_pos version, ne_eq]
      rfl

end Offsets

/-! ## The records that are accepted -/

/-- The first six bytes of a buffer that can hold a record. -/
theorem exists_header
    {bytes : Bytes}
    (complete : 7 ≤ bytes.length) :
    ∃ version profile constraints level lengthSize spsCount rest,
      bytes = version :: profile :: constraints :: level :: lengthSize ::
        spsCount :: rest := by
  rcases bytes with _ | ⟨version, _ | ⟨profile, _ | ⟨constraints,
    _ | ⟨level, _ | ⟨lengthSize, _ | ⟨spsCount, rest⟩⟩⟩⟩⟩⟩
  case cons.cons.cons.cons.cons.cons =>
    exact ⟨_, _, _, _, _, _, _, rfl⟩
  all_goals
    simp at complete

/-- A configuration repeats its sets and three bytes of the SPS. -/
theorem describedBy_eq_some_iff
    {sps pps : Bytes}
    {config : CodecConfig} :
    describedBy sps pps = some config ↔
      config.sps = sps ∧ config.pps = pps ∧ 4 ≤ sps.length ∧
        some config.profileLevelId.1 = sps[1]? ∧
        some config.profileLevelId.2.1 = sps[2]? ∧
        some config.profileLevelId.2.2 = sps[3]? := by
  simp only [describedBy, Option.bind_eq_bind, Option.bind_eq_some_iff,
    Option.some.injEq]
  constructor
  · rintro ⟨profile, first, constraints, second, level, third, rfl⟩
    obtain ⟨complete, _⟩ := List.getElem?_eq_some_iff.mp third
    exact ⟨rfl, rfl, complete, first.symm, second.symm, third.symm⟩
  · rintro ⟨rfl, rfl, _, first, second, third⟩
    exact ⟨_, first.symm, _, second.symm, _, third.symm, rfl⟩

/-- What is read is what a record of the grammar describes. -/
theorem exists_describes
    {bytes : Bytes}
    {config : CodecConfig}
    (read : codecConfigFromAvcc bytes = some config) :
    ∃ record : AvccRecord,
      record.bytes = bytes ∧ record.Describes config := by
  rw [codecConfigFromAvcc] at read
  split at read
  · cases read
  · rename_i valid
    obtain ⟨complete, version⟩ := not_or.mp valid
    obtain ⟨_, profile, constraints, level, lengthSize, spsCount, rest,
      rfl⟩ := exists_header (Nat.le_of_not_lt complete)
    obtain rfl := Option.some.inj (not_not.mp version)
    simp only [Option.bind_eq_bind, Option.bind_eq_some_iff] at read
    obtain ⟨_, counter, ⟨_, later⟩, spsRead, ppsCount, ppsCounter,
      ⟨_, extension⟩, ppsRead, sps, spsFound, pps, ppsFound, described⟩ :=
        read
    obtain rfl := Option.some.inj counter
    obtain ⟨spsUnits, spsCounted, spsBounded, restEq, rfl⟩ :=
      recordEntries_eq_some_iff.mp spsRead
    obtain ⟨behind, rfl⟩ := List.head?_eq_some_iff.mp ppsCounter
    obtain ⟨ppsUnits, ppsCounted, ppsBounded, behindEq, rfl⟩ :=
      recordEntries_eq_some_iff.mp ppsRead
    rw [Option.or_none] at spsFound ppsFound
    obtain ⟨rfl, rfl, isLong, profileLevelId⟩ :=
      describedBy_eq_some_iff.mp described
    refine ⟨{
      profile := profile
      constraints := constraints
      level := level
      lengthSize := lengthSize
      spsCount := spsCount
      sps := spsUnits
      pps := ppsUnits
      extension := extension
      spsCounted := spsCounted.symm
      ppsCounted := ppsCounted ▸ ppsCount.toNat_lt
      spsBounded := spsBounded
      ppsBounded := ppsBounded
    }, ?_, spsFound, ppsFound, isLong, profileLevelId⟩
    have counted : UInt8.ofNat ppsUnits.length = ppsCount := by
      rw [ppsCounted, UInt8.ofNat_toNat]
    simp only [List.drop_succ_cons, List.drop_zero] at restEq
    rw [List.tail_cons] at behindEq
    rw [AvccRecord.bytes_eq, restEq, behindEq, AvccRecord.ppsBytes,
      counted, List.cons_append]

/-- A record is read as what it describes. -/
theorem codecConfigFromAvcc_of_describes
    {record : AvccRecord}
    {config : CodecConfig}
    (describes : record.Describes config) :
    codecConfigFromAvcc record.bytes = some config := by
  have spsRead :
      recordEntries 7 (record.spsCount &&& 0x1f).toNat
          (fields 2 record.sps ++ (record.ppsBytes ++ record.extension))
          none =
        some (lastOfType 7 record.sps,
          record.ppsBytes ++ record.extension) :=
    recordEntries_eq_some_iff.mpr
      ⟨record.sps, record.spsCounted.symm, record.spsBounded, rfl,
        Option.or_none.symm⟩
  have ppsRead :
      recordEntries 8 (UInt8.ofNat record.pps.length).toNat
          (fields 2 record.pps ++ record.extension) none =
        some (lastOfType 8 record.pps, record.extension) :=
    recordEntries_eq_some_iff.mpr
      ⟨record.pps, record.toNat_ppsCount.symm, record.ppsBounded, rfl,
        Option.or_none.symm⟩
  have described :
      describedBy config.sps config.pps = some config :=
    describedBy_eq_some_iff.mpr
      ⟨rfl, rfl, describes.complete, describes.profileLevelId⟩
  have counter : record.bytes[5]? = some record.spsCount := by
    rw [record.bytes_eq]
    rfl
  rw [codecConfigFromAvcc, if_neg record.bytes_valid, counter,
    record.drop_six_bytes]
  dsimp only [bind, Option.bind]
  rw [spsRead]
  dsimp only [AvccRecord.ppsBytes, List.cons_append, List.head?_cons,
    List.tail_cons]
  rw [ppsRead]
  dsimp only
  rw [describes.sps, describes.pps]
  exact described

/-- The record that is read is the one that the grammar describes. -/
theorem codecConfigFromAvcc_eq_some_iff
    {bytes : Bytes}
    {config : CodecConfig} :
    codecConfigFromAvcc bytes = some config ↔
      ∃ record : AvccRecord,
        record.bytes = bytes ∧ record.Describes config := by
  constructor
  · exact exists_describes
  · rintro ⟨record, rfl, describes⟩
    exact codecConfigFromAvcc_of_describes describes

/-- The grammar leaves no choice for the parts of a buffer. -/
theorem setBytes_eq_of_bytes_prefix
    {record other : AvccRecord}
    (front : other.bytes <+: record.bytes) :
    other.setBytes = record.setBytes := by
  obtain ⟨later, laterEq⟩ := front
  rw [other.bytes_eq, record.bytes_eq] at laterEq
  simp only [List.cons_append, List.append_assoc, List.cons.injEq,
    true_and] at laterEq
  obtain ⟨profileEq, constraintsEq, levelEq, lengthSizeEq, spsCountEq,
    fieldsEq⟩ := laterEq
  have spsCounted : other.sps.length = record.sps.length := by
    rw [← other.spsCounted, ← record.spsCounted, spsCountEq]
  obtain ⟨spsEq, behindEq⟩ :=
    fields_append_inj spsCounted other.spsBounded record.spsBounded fieldsEq
  simp only [AvccRecord.ppsBytes, List.cons_append, List.cons.injEq]
    at behindEq
  obtain ⟨countEq, behindEq⟩ := behindEq
  have ppsCounted : other.pps.length = record.pps.length := by
    rw [← other.toNat_ppsCount, ← record.toNat_ppsCount, countEq]
  obtain ⟨ppsEq, _⟩ :=
    fields_append_inj ppsCounted other.ppsBounded record.ppsBounded behindEq
  rw [AvccRecord.setBytes, AvccRecord.setBytes, AvccRecord.ppsBytes,
    AvccRecord.ppsBytes, profileEq, constraintsEq, levelEq, lengthSizeEq,
    spsCountEq, spsEq, ppsEq]

/-- What Windows makes of a sequence header that is no Annex B stream. -/
structure WindowsAvccRules (bytes : Bytes) : Prop where
  inBounds :
    codecConfigFromAvccAt bytes = .ok (codecConfigFromAvcc bytes)
  accepted :
    ∀ config, codecConfigFromAvcc bytes = some config ↔
      ∃ record : AvccRecord,
        record.bytes = bytes ∧ record.Describes config
  truncated :
    ∀ record : AvccRecord, bytes <+: record.bytes →
      bytes.length < record.setBytes.length →
        codecConfigFromAvcc bytes = none

/--
On Windows a buffer is accepted exactly when it is a record with both parameter
sets, and no part of a record that ends before its last PPS is.
-/
theorem windows_avcc_rules (bytes : Bytes) :
    WindowsAvccRules bytes where
  inBounds := codecConfigFromAvccAt_eq bytes
  accepted := fun config => codecConfigFromAvcc_eq_some_iff
  truncated := by
    intro record front short
    by_contra notRejected
    obtain ⟨config, read⟩ := Option.ne_none_iff_exists'.mp notRejected
    obtain ⟨other, rfl, _⟩ := exists_describes read
    have same := setBytes_eq_of_bytes_prefix front
    rw [← same, AvccRecord.bytes, List.length_append] at short
    omega

/-! ## The record on macOS -/

/-- `parse_avcc_config`. -/
def MacOs.parseAvccConfig (data : Bytes) : Option CodecConfig :=
  if data.length < 7 ∨ data.head? ≠ some 1 then
    none
  else do
    let profile ← data[1]?
    let constraints ← data[2]?
    let level ← data[3]?
    let spsCount ← data[5]?
    if (spsCount &&& 0x1f).toNat = 0 then
      none
    let (sps, rest) ← takeField 2 (data.drop 6)
    let ppsCount ← rest.head?
    if ppsCount.toNat = 0 then
      none
    let (pps, _) ← takeField 2 rest.tail
    return {
      sps := sps
      pps := pps
      profileLevelId := (profile, constraints, level)
    }

/-- A record with units of both kinds, none of them empty. -/
structure CompleteRecord extends AvccRecord where
  spsPresent : sps ≠ []
  ppsPresent : pps ≠ []
  spsFilled : ∀ unit ∈ sps, unit ≠ []
  ppsFilled : ∀ unit ∈ pps, unit ≠ []

namespace CompleteRecord

variable (record : CompleteRecord)

/-- The first SPS of the record. -/
def firstSps : Bytes :=
  record.sps.head record.spsPresent

/-- The first PPS of the record. -/
def firstPps : Bytes :=
  record.pps.head record.ppsPresent

/-- The configuration that the record asks for. -/
def config : CodecConfig where
  sps := record.firstSps
  pps := record.firstPps
  profileLevelId := (record.profile, record.constraints, record.level)

/-- The bytes behind the first SPS. -/
def behindFirst : Bytes :=
  fields 2 record.sps.tail ++ (record.ppsBytes ++ record.extension)

end CompleteRecord

/--
A second SPS whose length and first byte read like the count and the length of
the PPS, with the first PPS behind them.
-/
structure SpellsPps (pps second behind : Bytes) : Prop where
  isLong : 256 ≤ second.length
  length :
    some pps.length =
      second.head?.map fun header =>
        second.length % 256 * 256 + header.toNat
  content : pps <+: second.tail ++ behind

/-- The bytes behind the first SPS of the record read like its first PPS. -/
def CompleteRecord.ReadsAlike (record : CompleteRecord) : Prop :=
  ∃ second later, record.sps.tail = second :: later ∧
    SpellsPps record.firstPps second
      (fields 2 later ++ (record.ppsBytes ++ record.extension))

/-- Behind the first SPS the code reads a count and one PPS. -/
theorem parseAvccConfig_bytes (record : CompleteRecord) :
    MacOs.parseAvccConfig record.bytes =
      (do
        let ppsCount ← record.behindFirst.head?
        if ppsCount.toNat = 0 then
          none
        let (pps, _) ← takeField 2 record.behindFirst.tail
        return { record.config with pps := pps }) := by
  have spsEq : record.firstSps :: record.sps.tail = record.sps :=
    List.cons_head_tail record.spsPresent
  have firstBounded : record.firstSps.length < 256 ^ 2 :=
    record.spsBounded _ (List.head_mem record.spsPresent)
  have counted : (record.spsCount &&& 0x1f).toNat ≠ 0 := by
    rw [record.spsCounted]
    exact List.length_pos_iff.mpr record.spsPresent |>.ne'
  have taken :
      takeField 2 (record.bytes.drop 6) =
        some (record.firstSps, record.behindFirst) := by
    rw [record.drop_six_bytes, ← spsEq, fields_cons, List.append_assoc]
    exact takeField_append firstBounded _
  rw [MacOs.parseAvccConfig, if_neg record.bytes_valid, taken,
    record.bytes_eq]
  simp only [List.getElem?_cons_succ, List.getElem?_cons_zero, bind,
    Option.bind, if_neg counted]
  rfl

/-- The code finds the first PPS exactly when its count and length follow. -/
theorem parseAvccConfig_eq_some_iff (record : CompleteRecord) :
    MacOs.parseAvccConfig record.bytes = some record.config ↔
      record.behindFirst.head?.any (fun count => count.toNat ≠ 0) ∧
        ∃ later, takeField 2 record.behindFirst.tail =
          some (record.firstPps, later) := by
  rw [parseAvccConfig_bytes]
  cases counter : record.behindFirst.head? with
  | none =>
      simp
  | some count =>
      by_cases zero : count.toNat = 0
      · simp [zero]
      · cases taken : takeField 2 record.behindFirst.tail with
        | none =>
            simp [zero]
        | some pair =>
            obtain ⟨pps, later⟩ := pair
            simp [zero, CompleteRecord.config]

/-- Behind the only SPS are the count and the first PPS. -/
theorem reads_of_one
    {record : CompleteRecord}
    (one : record.sps.tail = []) :
    record.behindFirst.head?.any (fun count => count.toNat ≠ 0) ∧
      ∃ later, takeField 2 record.behindFirst.tail =
        some (record.firstPps, later) := by
  have ppsEq : record.firstPps :: record.pps.tail = record.pps :=
    List.cons_head_tail record.ppsPresent
  have firstBounded : record.firstPps.length < 256 ^ 2 :=
    record.ppsBounded _ (List.head_mem record.ppsPresent)
  have positive : record.pps.length ≠ 0 :=
    (List.length_pos_iff.mpr record.ppsPresent).ne'
  rw [CompleteRecord.behindFirst, one, fields_nil, List.nil_append,
    AvccRecord.ppsBytes, List.cons_append, List.head?_cons, List.tail_cons]
  refine ⟨?_, fields 2 record.pps.tail ++ record.extension, ?_⟩
  · rw [Option.any_some, record.toNat_ppsCount]
    exact decide_eq_true positive
  · rw [← ppsEq, fields_cons, List.append_assoc, List.tail_cons]
    exact takeField_append firstBounded _

/-- A second SPS is taken for the count and the length of the PPS. -/
theorem reads_second_iff
    {pps second behind : Bytes}
    (filled : second ≠ [])
    (bounded : second.length < 256 ^ 2) :
    (field 2 second ++ behind).head?.any (fun count => count.toNat ≠ 0) ∧
        (∃ later, takeField 2 (field 2 second ++ behind).tail =
          some (pps, later)) ↔
      SpellsPps pps second behind := by
  obtain ⟨header, rest, rfl⟩ := List.exists_cons_of_ne_nil filled
  have bytesEq :
      field 2 (header :: rest) ++ behind =
        UInt8.ofNat ((header :: rest).length / 256) ::
          UInt8.ofNat (header :: rest).length :: header ::
            (rest ++ behind) := by
    simp [field, BigEndian.toBytes]
  have countEq :
      (UInt8.ofNat ((header :: rest).length / 256)).toNat =
        (header :: rest).length / 256 := by
    apply UInt8.toNat_ofNat_of_lt'
    rw [UInt8.size]
    omega
  have announcedEq :
      announced 2
          (UInt8.ofNat (header :: rest).length :: header ::
            (rest ++ behind)) =
        (header :: rest).length % 256 * 256 + header.toNat := by
    simp [announced, BigEndian.ofBytes_cons]
  rw [bytesEq, List.head?_cons, List.tail_cons, Option.any_some,
    decide_eq_true_iff, countEq, exists_takeField_iff, announcedEq]
  constructor
  · rintro ⟨isLong, _, lengthEq, content⟩
    exact ⟨by omega, congrArg some lengthEq, content⟩
  · rintro ⟨isLong, lengthEq, content⟩
    exact ⟨by omega, by simp, Option.some.inj lengthEq, content⟩

/--
The macOS code returns the first SPS and the first PPS of a record exactly when
the record has one SPS or its second SPS reads like the PPS.
-/
theorem macOs_first_sets_iff (record : CompleteRecord) :
    MacOs.parseAvccConfig record.bytes = some record.config ↔
      record.sps.length = 1 ∨ record.ReadsAlike := by
  rw [parseAvccConfig_eq_some_iff]
  have spsEq : record.firstSps :: record.sps.tail = record.sps :=
    List.cons_head_tail record.spsPresent
  cases tail : record.sps.tail with
  | nil =>
      refine iff_of_true (reads_of_one tail) (.inl ?_)
      rw [← spsEq, tail]
      rfl
  | cons second later =>
      have member : second ∈ record.sps := by
        rw [← spsEq, tail]
        simp
      have many : record.sps.length ≠ 1 := by
        rw [← spsEq, tail]
        simp
      rw [CompleteRecord.behindFirst, tail, fields_cons, List.append_assoc,
        reads_second_iff (record.spsFilled second member)
          (record.spsBounded second member)]
      constructor
      · intro spells
        exact .inr ⟨second, later, tail, spells⟩
      · rintro (one | ⟨_, _, tailEq, spells⟩)
        · exact (many one).elim
        · rw [tail] at tailEq
          obtain ⟨rfl, rfl⟩ := List.cons.inj tailEq
          exact spells

/-- A record with two SPS of four bytes. -/
def twoSpsRecord : CompleteRecord where
  profile := 0x42
  constraints := 0xe0
  level := 0x1e
  lengthSize := 0xff
  spsCount := 0xe2
  sps := [[0x67, 0x42, 0xe0, 0x1e], [0x67, 0x42, 0xe0, 0x1f]]
  pps := [[0x68, 0xce]]
  extension := []
  spsCounted := rfl
  ppsCounted := by decide
  spsBounded := by simp [Bounded]
  ppsBounded := by simp [Bounded]
  spsPresent := by decide
  ppsPresent := by decide
  spsFilled := by simp
  ppsFilled := by simp

/-- With two short SPS no configuration is found. -/
theorem macOs_two_sps_rejected :
    ¬ ∀ record : CompleteRecord,
      MacOs.parseAvccConfig record.bytes = some record.config := by
  intro accepted
  have nothing : MacOs.parseAvccConfig twoSpsRecord.bytes = none := by
    decide +kernel
  rw [accepted twoSpsRecord] at nothing
  cases nothing

end CamRtsp
