import CamRtsp.SplitH264

namespace CamRtsp

open RustText AnnexB

/-!
# Length-prefixed access units in the detecting splitters

A length prefix is arbitrary data, so it can itself look like a start code:
`00 00 00 01` for a one-byte unit, `00 00 01 xx` for 256 to 511 bytes, and the
last two bytes of a multiple of 65536 together with a header byte `01`.  The
result is the exact condition under which both splitters give back the units.
-/

/-- A NAL unit as an encoder emits it, with emulation prevention. -/
@[mk_iff]
structure EncodedNal (nal : Bytes) : Prop where
  nonempty : nal ≠ []
  emulationFree : ¬ [0, 0, 0] <:+: nal ∧ ¬ [0, 0, 1] <:+: nal
  lastNonzero : ∀ byte ∈ nal.getLast?, byte ≠ 0
  header :
    ∀ byte ∈ nal.head?,
      byte &&& 0x80 = 0 ∧ 1 ≤ byte &&& 0x1f ∧ byte &&& 0x1f ≤ 23

instance (nal : Bytes) : Decidable (EncodedNal nal) :=
  decidable_of_iff
    (nal ≠ [] ∧
      (¬ [0, 0, 0] <:+: nal ∧ ¬ [0, 0, 1] <:+: nal) ∧
      nal.getLast?.all (fun byte => decide (byte ≠ 0)) = true ∧
      nal.head?.all (fun byte =>
        decide (byte &&& 0x80 = 0 ∧ 1 ≤ byte &&& 0x1f ∧
          byte &&& 0x1f ≤ 23)) = true)
    (by simp [encodedNal_iff, Option.all_eq_true])

namespace EncodedNal

/-- No start code begins inside an encoded unit. -/
theorem isSealed {nal : Bytes} (encoded : EncodedNal nal) : Sealed nal :=
  sealed_of_emulation_free encoded.emulationFree.2 encoded.lastNonzero

/-- An encoded unit starts with a non-zero header byte. -/
theorem eq_cons {nal : Bytes} (encoded : EncodedNal nal) :
    ∃ header rest, nal = header :: rest ∧ header ≠ 0 := by
  obtain ⟨header, rest, rfl⟩ :=
    List.exists_cons_of_ne_nil encoded.nonempty
  refine ⟨header, rest, rfl, ?_⟩
  rintro rfl
  have typed := (encoded.header 0 (by simp)).2.1
  exact absurd typed (by decide)

end EncodedNal

/-- The length prefix of the unit, or its end with the header, is a start code. -/
def PrefixLooksLikeCode (nal : Bytes) : Prop :=
  nal.length = 1 ∨ (256 ≤ nal.length ∧ nal.length < 512) ∨
    (65536 ∣ nal.length ∧ nal.head? = some 1)

instance (nal : Bytes) : Decidable (PrefixLooksLikeCode nal) :=
  inferInstanceAs (Decidable (_ ∨ _))

/--
The splitters give back the units: either every unit is a single byte, so that
length prefixes and start codes coincide, or no prefix looks like a start code.
-/
def Unambiguous (units : List Bytes) : Prop :=
  (∀ nal ∈ units, nal.length = 1) ∨
    ∀ nal ∈ units, ¬ PrefixLooksLikeCode nal

instance (units : List Bytes) : Decidable (Unambiguous units) :=
  inferInstanceAs (Decidable (_ ∨ _))

/-! ## Scanning a prefix and its unit -/

section Prefix

variable {high middle low header : UInt8} {rest : Bytes}

/-- No start code begins at the last byte of a length prefix. -/
theorem startsCode_low (headerNonzero : header ≠ 0) :
    ¬ StartsCode (low :: header :: rest) := by
  simp [StartsCode, List.cons_prefix_cons, Ne.symm headerNonzero]

/-- At the third byte, one begins only with a header byte `01`. -/
theorem startsCode_middle (headerNonzero : header ≠ 0) :
    StartsCode (middle :: low :: header :: rest) ↔
      middle = 0 ∧ low = 0 ∧ header = 1 := by
  simp only [StartsCode, List.cons_prefix_cons, Ne.symm headerNonzero,
    List.nil_prefix, and_true, false_and, and_false, or_false]
  constructor <;> rintro ⟨rfl, rfl, rfl⟩ <;> simp

/-- At the second byte, one begins only for a one-byte unit. -/
theorem startsCode_high
    (positive : ¬ (high = 0 ∧ middle = 0 ∧ low = 0)) :
    StartsCode (high :: middle :: low :: header :: rest) ↔
      high = 0 ∧ middle = 0 ∧ low = 1 := by
  simp only [StartsCode, List.cons_prefix_cons, List.nil_prefix,
    and_true]
  constructor
  · rintro (⟨rfl, rfl, rfl⟩ | ⟨rfl, rfl, rfl, _⟩)
    · simp
    · exact (positive ⟨rfl, rfl, rfl⟩).elim
  · rintro ⟨rfl, rfl, rfl⟩
    simp

/-- At the first byte, one begins for small units in two ranges. -/
theorem startsCode_top :
    StartsCode (0 :: high :: middle :: low :: rest) ↔
      high = 0 ∧ (middle = 1 ∨ (middle = 0 ∧ low = 1)) := by
  simp only [StartsCode, List.cons_prefix_cons, List.nil_prefix,
    and_true, true_and]
  constructor
  · rintro (⟨rfl, rfl⟩ | ⟨rfl, rfl, rfl⟩) <;> simp
  · rintro ⟨rfl, rfl | ⟨rfl, rfl⟩⟩ <;> simp

end Prefix

section Scan

variable {nal : Bytes} (encoded : EncodedNal nal) (later : Bytes)
include encoded

/-- A one-byte unit is cut off exactly. -/
theorem scan_single
    (single : nal.length = 1) :
    scan (withLength nal ++ later) =
      ([], (nal ++ (scan later).1) :: (scan later).2) := by
  obtain ⟨header, rest, rfl, headerNonzero⟩ := encoded.eq_cons
  have prefixEq :
      BigEndian.toBytes 4 (header :: rest).length = [0, 0, 0, 1] := by
    rw [single]
    decide
  have passed := scan_append_of_sealed encoded.isSealed later
  simp only [List.cons_append] at passed
  have low : ¬ StartsCode (1 :: header :: (rest ++ later)) :=
    startsCode_low headerNonzero
  have middle : ¬ StartsCode (0 :: 1 :: header :: (rest ++ later)) := by
    rw [startsCode_middle headerNonzero]
    simp
  have high :
      StartsCode (0 :: 0 :: 1 :: header :: (rest ++ later)) :=
    Or.inl ⟨header :: (rest ++ later), rfl⟩
  have top :
      StartsCode (0 :: 0 :: 0 :: 1 :: header :: (rest ++ later)) :=
    Or.inr ⟨header :: (rest ++ later), rfl⟩
  have highLength :
      codeLength (0 :: 0 :: 1 :: header :: (rest ++ later)) = 3 := by
    simp [codeLength, List.cons_prefix_cons]
  have topLength :
      codeLength (0 :: 0 :: 0 :: 1 :: header :: (rest ++ later)) =
        4 := by
    simp [codeLength, List.cons_prefix_cons]
  rw [withLength, prefixEq]
  simp only [List.cons_append, List.nil_append]
  rw [scan, scan, scan_cons_of_not_startsCode middle,
    scan_cons_of_not_startsCode low, passed]
  simp [high, top, highLength, topLength]

/-- For 256 to 511 bytes, the last length byte is taken into the unit. -/
theorem scan_short_block
    (lower : 256 ≤ nal.length)
    (upper : nal.length < 512) :
    ∃ low,
      scan (withLength nal ++ later) =
        ([], (low :: (nal ++ (scan later).1)) :: (scan later).2) := by
  obtain ⟨header, rest, rfl, headerNonzero⟩ := encoded.eq_cons
  obtain ⟨high, middle, low, prefixEq, lengthEq⟩ :=
    toBytes_four_of_lt
      (Nat.lt_of_lt_of_le upper (by decide : 512 ≤ 2 ^ 24))
  have highZero : high = 0 := by
    rw [← UInt8.toNat_inj]
    change high.toNat = 0
    omega
  have middleOne : middle = 1 := by
    have lowBound := low.toNat_lt
    rw [← UInt8.toNat_inj]
    change middle.toNat = 1
    omega
  subst high middle
  have passed := scan_append_of_sealed encoded.isSealed later
  simp only [List.cons_append] at passed
  have lowClear : ¬ StartsCode (low :: header :: (rest ++ later)) :=
    startsCode_low headerNonzero
  have middleClear :
      ¬ StartsCode (1 :: low :: header :: (rest ++ later)) := by
    rw [startsCode_middle headerNonzero]
    simp
  have highClear :
      ¬ StartsCode (0 :: 1 :: low :: header :: (rest ++ later)) := by
    rw [startsCode_high (by simp)]
    simp
  have top :
      StartsCode (0 :: 0 :: 1 :: low :: header :: (rest ++ later)) :=
    Or.inl ⟨low :: header :: (rest ++ later), rfl⟩
  have topLength :
      codeLength (0 :: 0 :: 1 :: low :: header :: (rest ++ later)) =
        3 := by
    simp [codeLength, List.cons_prefix_cons]
  refine ⟨low, ?_⟩
  rw [withLength, prefixEq]
  simp only [List.cons_append, List.nil_append]
  rw [scan, scan_cons_of_not_startsCode highClear,
    scan_cons_of_not_startsCode middleClear,
    scan_cons_of_not_startsCode lowClear, passed]
  simp [top, topLength]

/-- For a multiple of 65536 with header `01`, the header is cut away. -/
theorem scan_aligned_block
    (bound : nal.length < 2 ^ 24)
    (aligned : 65536 ∣ nal.length)
    (isOne : nal.head? = some 1) :
    ∃ high,
      scan (withLength nal ++ later) =
        ([0, high],
          (nal.tail ++ (scan later).1) :: (scan later).2) := by
  obtain ⟨header, rest, rfl, headerNonzero⟩ := encoded.eq_cons
  obtain ⟨high, middle, low, prefixEq, lengthEq⟩ :=
    toBytes_four_of_lt bound
  obtain ⟨blocks, blocksEq⟩ := aligned
  have positive : 0 < (header :: rest).length := by simp
  have middleZero : middle = 0 := by
    have lowBound := low.toNat_lt
    have middleBound := middle.toNat_lt
    rw [← UInt8.toNat_inj]
    change middle.toNat = 0
    omega
  have lowZero : low = 0 := by
    have lowBound := low.toNat_lt
    have middleBound := middle.toNat_lt
    rw [← UInt8.toNat_inj]
    change low.toNat = 0
    omega
  have zeroNumber : (0 : UInt8).toNat = 0 := rfl
  subst middle low
  have highNonzero : high ≠ 0 := by
    rintro rfl
    omega
  obtain rfl : header = 1 := by simpa using isOne
  have restNonempty : rest ≠ [] := by
    rintro rfl
    simp only [List.length_singleton] at blocksEq
    omega
  have passed := scan_append_of_sealed encoded.isSealed later
  simp only [List.cons_append] at passed
  have lowClear : ¬ StartsCode (0 :: 1 :: (rest ++ later)) :=
    startsCode_low (by decide)
  have middleCode : StartsCode (0 :: 0 :: 1 :: (rest ++ later)) :=
    Or.inl ⟨rest ++ later, rfl⟩
  have middleLength :
      codeLength (0 :: 0 :: 1 :: (rest ++ later)) = 3 := by
    simp [codeLength, List.cons_prefix_cons]
  have highClear :
      ¬ StartsCode (high :: 0 :: 0 :: 1 :: (rest ++ later)) := by
    rw [startsCode_high (by simp [highNonzero])]
    simp
  have topClear :
      ¬ StartsCode (0 :: high :: 0 :: 0 :: 1 :: (rest ++ later)) := by
    rw [startsCode_top]
    simp [highNonzero]
  refine ⟨high, ?_⟩
  rw [withLength, prefixEq]
  simp only [List.cons_append, List.nil_append]
  rw [scan_cons_of_not_startsCode topClear,
    scan_cons_of_not_startsCode highClear, scan,
    scan_cons_of_not_startsCode lowClear, passed]
  simp [middleCode, middleLength, restNonempty]

/-- Any other length prefix is passed over together with its unit. -/
theorem scan_clear
    (bound : nal.length < 2 ^ 24)
    (clear : ¬ PrefixLooksLikeCode nal) :
    scan (withLength nal ++ later) =
      (withLength nal ++ (scan later).1, (scan later).2) := by
  obtain ⟨header, rest, rfl, headerNonzero⟩ := encoded.eq_cons
  obtain ⟨high, middle, low, prefixEq, lengthEq⟩ :=
    toBytes_four_of_lt bound
  simp only [PrefixLooksLikeCode, not_or, not_and, List.head?_cons,
    Option.some.injEq] at clear
  obtain ⟨notSingle, notShort, notAligned⟩ := clear
  have positive : 0 < (header :: rest).length := by simp
  have lowBound := low.toNat_lt
  have zeroNumber : (0 : UInt8).toNat = 0 := rfl
  have oneNumber : (1 : UInt8).toNat = 1 := rfl
  have passed := scan_append_of_sealed encoded.isSealed later
  simp only [List.cons_append] at passed
  have lowClear : ¬ StartsCode (low :: header :: (rest ++ later)) :=
    startsCode_low headerNonzero
  have middleClear :
      ¬ StartsCode (middle :: low :: header :: (rest ++ later)) := by
    rw [startsCode_middle headerNonzero]
    rintro ⟨rfl, rfl, isOne⟩
    exact notAligned ⟨high.toNat, by omega⟩ isOne
  have highClear :
      ¬ StartsCode
        (high :: middle :: low :: header :: (rest ++ later)) := by
    rw [startsCode_high (by
      rintro ⟨rfl, rfl, rfl⟩
      omega)]
    rintro ⟨rfl, rfl, rfl⟩
    omega
  have topClear :
      ¬ StartsCode
        (0 :: high :: middle :: low :: header :: (rest ++ later)) := by
    rw [startsCode_top]
    rintro ⟨rfl, rfl | ⟨rfl, rfl⟩⟩
    · exact notShort (by omega) (by omega)
    · omega
  rw [withLength, prefixEq]
  simp only [List.cons_append, List.nil_append]
  rw [scan_cons_of_not_startsCode topClear,
    scan_cons_of_not_startsCode highClear,
    scan_cons_of_not_startsCode middleClear,
    scan_cons_of_not_startsCode lowClear, passed]

end Scan

/-! ## The Windows splitter is a scan -/

namespace Windows

/-- Start codes behind the first byte. -/
theorem starts_cons (byte : UInt8) (rest : Bytes) :
    starts (byte :: rest) =
      (if StartsCode (byte :: rest) then [0] else []) ++
        (starts rest).map (· + 1) := by
  simp only [starts, List.length_cons, List.range_succ_eq_map,
    List.filter_cons, List.filter_map, List.drop_zero]
  split <;> simp_all [Function.comp_def]

/-- A byte in front moves the positions and keeps the units. -/
theorem unitsBetween_cons
    (byte : UInt8)
    (rest : Bytes)
    (positions : List Nat) :
    unitsBetween (byte :: rest) (positions.map (· + 1)) =
      unitsBetween rest positions := by
  induction positions with
  | nil =>
      rfl
  | cons start later inductionHypothesis =>
      have stopEq :
          (later.map (· + 1)).headD (byte :: rest).length =
            later.headD rest.length + 1 := by
        cases later <;> rfl
      simp only [List.map_cons, unitsBetween, stopEq,
        inductionHypothesis, List.drop_succ_cons, List.take_succ_cons]
      split <;>
        simp only [Nat.add_right_comm start 1, List.drop_succ_cons,
          Nat.add_lt_add_iff_right]

/-- The first start code lies inside the bytes. -/
theorem headD_starts_le (bytes : Bytes) :
    (starts bytes).headD bytes.length ≤ bytes.length := by
  cases startsEq : starts bytes with
  | nil =>
      exact Nat.le_refl _
  | cons first later =>
      have member : first ∈ starts bytes := by simp [startsEq]
      simp only [starts, List.mem_filter, List.mem_range] at member
      exact Nat.le_of_lt member.1

/-- The bytes in front of the first start code, and the units behind. -/
theorem scan_eq (bytes : Bytes) :
    scan bytes =
      (bytes.take ((starts bytes).headD bytes.length),
        unitsBetween bytes (starts bytes)) := by
  induction bytes with
  | nil =>
      rfl
  | cons byte rest inductionHypothesis =>
      have inside := headD_starts_le rest
      have stopEq :
          ((starts rest).map (· + 1)).headD (rest.length + 1) =
            (starts rest).headD rest.length + 1 := by
        cases starts rest <;> rfl
      by_cases begins : StartsCode (byte :: rest)
      · have sizeEq :
            (if [0, 0, 0, 1] <+: (byte :: rest).drop 0 then 4 else 3) =
              codeLength (byte :: rest) := by
          rcases begins with short | long
          · by_cases long : [0, 0, 0, 1] <+: byte :: rest
            · simp [codeLength, long]
            · simp [codeLength, long, short]
          · simp [codeLength, long]
        rw [scan, starts_cons, inductionHypothesis]
        simp only [begins, if_true, List.singleton_append,
          unitsBetween, stopEq, sizeEq, unitsBetween_cons,
          List.headD_cons, List.take_zero, Nat.zero_add,
          List.take_succ_cons, List.drop_eq_nil_iff,
          List.length_cons, List.length_take,
          Nat.min_eq_left inside]
        split
        · rw [if_neg (by omega)]
        · rw [if_pos (by omega)]
      · rw [scan_cons_of_not_startsCode begins, starts_cons,
          inductionHypothesis]
        simp only [begins, if_false, List.nil_append,
          List.length_cons, stopEq, unitsBetween_cons,
          List.take_succ_cons]

/-- Bytes without a start code are passed over completely. -/
theorem starts_eq_nil_iff {bytes : Bytes} :
    starts bytes = [] ↔ (scan bytes).1 = bytes := by
  rw [scan_eq]
  cases startsEq : starts bytes with
  | nil =>
      simp
  | cons first later =>
      have member : first ∈ starts bytes := by simp [startsEq]
      simp only [starts, List.mem_filter, List.mem_range] at member
      simp only [List.headD_cons, List.take_eq_self_iff, reduceCtorEq,
        false_iff]
      omega

/-- The length-prefixed loop gives back the units. -/
theorem lengthPrefixedUnits_lengthPrefixed
    {units : List Bytes}
    (bounded : ∀ nal ∈ units, nal.length < 2 ^ 32) :
    lengthPrefixedUnits (lengthPrefixed units) = some units := by
  induction units with
  | nil =>
      rw [lengthPrefixedUnits]
      rfl
  | cons nal units inductionHypothesis =>
      have lengthEq :
          BigEndian.ofBytes (BigEndian.toBytes 4 nal.length) =
            nal.length :=
        BigEndian.ofBytes_toBytes_of_lt (bounded nal (by simp))
      have rest :=
        inductionHypothesis
          (List.forall_mem_of_forall_mem_cons bounded)
      rw [lengthPrefixedUnits, lengthPrefixed_cons]
      simp [BigEndian.length_toBytes, lengthEq, rest]

end Windows

namespace Android

/-- The length-prefixed loop gives back non-empty units. -/
theorem avccUnits_lengthPrefixed
    {units : List Bytes}
    (bounded : ∀ nal ∈ units, nal.length < 2 ^ 32)
    (nonempty : ∀ nal ∈ units, nal ≠ []) :
    avccUnits (lengthPrefixed units) = some units := by
  induction units with
  | nil =>
      rw [avccUnits]
      rfl
  | cons nal units inductionHypothesis =>
      have lengthEq :
          BigEndian.ofBytes (BigEndian.toBytes 4 nal.length) =
            nal.length :=
        BigEndian.ofBytes_toBytes_of_lt (bounded nal (by simp))
      have rest :=
        inductionHypothesis
          (List.forall_mem_of_forall_mem_cons bounded)
          (List.forall_mem_of_forall_mem_cons nonempty)
      have nalNonempty : nal ≠ [] := nonempty nal (by simp)
      rw [avccUnits, lengthPrefixed_cons]
      simp [BigEndian.length_toBytes, lengthEq, rest, nalNonempty]

/-- One-byte units are cut at their prefixes. -/
theorem annexBUnits_lengthPrefixed
    {units : List Bytes}
    (encoded : ∀ nal ∈ units, EncodedNal nal)
    (single : ∀ nal ∈ units, nal.length = 1)
    (unit : Option Bytes) :
    annexBUnits unit (lengthPrefixed units) =
      unit.elim [] closeUnit ++ units := by
  induction units generalizing unit with
  | nil =>
      simp [lengthPrefixed, annexBUnits]
  | cons nal units inductionHypothesis =>
      obtain ⟨header, rfl⟩ :=
        List.length_eq_one_iff.mp (single nal (by simp))
      obtain ⟨_, _, headerEq, headerNonzero⟩ :=
        (encoded [header] (by simp)).eq_cons
      obtain ⟨rfl, rfl⟩ := List.cons.inj headerEq
      have rest :=
        inductionHypothesis
          (List.forall_mem_of_forall_mem_cons encoded)
          (List.forall_mem_of_forall_mem_cons single)
      have prefixLength (later : Bytes) :
          codeLength (0 :: 0 :: 0 :: 1 :: later) = 4 := by
        simp [codeLength, List.cons_prefix_cons]
      have headerLength (later : Bytes) :
          codeLength (header :: later) = 0 := by
        simp [codeLength, List.cons_prefix_cons, Ne.symm headerNonzero]
      have closed : closeUnit [header] = [[header]] := by
        simp [closeUnit, List.rdropWhile, headerNonzero]
      have cut :
          lengthPrefixed ([header] :: units) =
            0 :: 0 :: 0 :: 1 :: header :: lengthPrefixed units := by
        have prefixEq :
            BigEndian.toBytes 4 [header].length = [0, 0, 0, 1] := by
          rw [List.length_singleton]
          decide
        rw [lengthPrefixed_cons, prefixEq]
        rfl
      rw [cut, annexBUnits, if_neg (by simp [prefixLength]),
        prefixLength]
      simp only [List.drop_succ_cons, List.drop_zero]
      rw [annexBUnits, if_pos (headerLength _), rest]
      simp [closed]

end Android

/-! ## Scanning all units -/

section Units

variable {units : List Bytes}

/-- Each unit is shorter than its list's encoding. -/
theorem length_lt_of_mem
    {nal : Bytes}
    (member : nal ∈ units) :
    nal.length < (lengthPrefixed units).length := by
  induction units with
  | nil =>
      simp at member
  | cons first units inductionHypothesis =>
      rw [lengthPrefixed_cons]
      simp only [List.length_append, BigEndian.length_toBytes]
      rcases List.mem_cons.mp member with rfl | later
      · omega
      · have bound := inductionHypothesis later
        omega

/-- Units without a start code in their prefixes are passed over. -/
theorem scan_lengthPrefixed_clear
    (encoded : ∀ nal ∈ units, EncodedNal nal)
    (bounded : ∀ nal ∈ units, nal.length < 2 ^ 24)
    (clear : ∀ nal ∈ units, ¬ PrefixLooksLikeCode nal) :
    scan (lengthPrefixed units) = (lengthPrefixed units, []) := by
  induction units with
  | nil =>
      rfl
  | cons nal units inductionHypothesis =>
      have rest :=
        inductionHypothesis
          (List.forall_mem_of_forall_mem_cons encoded)
          (List.forall_mem_of_forall_mem_cons bounded)
          (List.forall_mem_of_forall_mem_cons clear)
      have step :=
        scan_clear (encoded nal (by simp)) (lengthPrefixed units)
          (bounded nal (by simp)) (clear nal (by simp))
      rw [rest] at step
      exact step

/-- One-byte units are cut exactly. -/
theorem scan_lengthPrefixed_single
    (encoded : ∀ nal ∈ units, EncodedNal nal)
    (single : ∀ nal ∈ units, nal.length = 1) :
    scan (lengthPrefixed units) = ([], units) := by
  induction units with
  | nil =>
      rfl
  | cons nal units inductionHypothesis =>
      have rest :=
        inductionHypothesis
          (List.forall_mem_of_forall_mem_cons encoded)
          (List.forall_mem_of_forall_mem_cons single)
      have step :=
        scan_single (encoded nal (by simp)) (lengthPrefixed units)
          (single nal (by simp))
      rw [rest, List.append_nil] at step
      exact step

/--
A scan of one more unit either passes over it, or starts with at most two
bytes of its prefix and adds one unit.
-/
theorem scan_lengthPrefixed_cons
    {nal : Bytes}
    (encoded : EncodedNal nal)
    (bound : nal.length < 2 ^ 24) :
    (¬ PrefixLooksLikeCode nal ∧
      scan (lengthPrefixed (nal :: units)) =
        (withLength nal ++ (scan (lengthPrefixed units)).1,
          (scan (lengthPrefixed units)).2)) ∨
    ∃ front lost taken,
      scan (lengthPrefixed (nal :: units)) =
        (front,
          (taken ++ nal.drop lost ++
            (scan (lengthPrefixed units)).1) ::
            (scan (lengthPrefixed units)).2) ∧
      front.length ≠ 1 ∧
      ((nal.length = 1 ∧ taken = [] ∧ lost = 0) ∨
        (taken.length = 1 ∧ lost = 0) ∨ (taken = [] ∧ lost = 1)) := by
  by_cases clear : PrefixLooksLikeCode nal
  · right
    rcases clear with single | ⟨lower, upper⟩ | ⟨aligned, isOne⟩
    · exact ⟨[], 0, [],
        scan_single encoded (lengthPrefixed units) single, by simp,
        Or.inl ⟨single, rfl, rfl⟩⟩
    · obtain ⟨low, step⟩ :=
        scan_short_block encoded (lengthPrefixed units) lower upper
      exact ⟨[], 0, [low], step, by simp, Or.inr (Or.inl ⟨rfl, rfl⟩)⟩
    · obtain ⟨high, step⟩ :=
        scan_aligned_block encoded (lengthPrefixed units) bound aligned
          isOne
      refine ⟨[0, high], 1, [], ?_, by simp,
        Or.inr (Or.inr ⟨rfl, rfl⟩)⟩
      simpa [lengthPrefixed] using step
  · exact Or.inl
      ⟨clear, scan_clear encoded (lengthPrefixed units) bound clear⟩

variable
  (encoded : ∀ nal ∈ units, EncodedNal nal)
  (bounded : ∀ nal ∈ units, nal.length < 2 ^ 24)
include encoded bounded

/-- A prefix that looks like a start code is found. -/
theorem scan_lengthPrefixed_ne_nil
    (marked : ∃ nal ∈ units, PrefixLooksLikeCode nal) :
    (scan (lengthPrefixed units)).2 ≠ [] := by
  induction units with
  | nil =>
      simp at marked
  | cons nal units inductionHypothesis =>
      rcases @scan_lengthPrefixed_cons units nal
        (encoded nal (by simp)) (bounded nal (by simp)) with
        ⟨clear, step⟩ | ⟨_, _, _, step, _⟩
      · have later : ∃ other ∈ units, PrefixLooksLikeCode other := by
          obtain ⟨other, member, looks⟩ := marked
          rcases List.mem_cons.mp member with rfl | inside
          · exact (clear looks).elim
          · exact ⟨other, inside, looks⟩
        rw [step]
        exact inductionHypothesis
          (List.forall_mem_of_forall_mem_cons encoded)
          (List.forall_mem_of_forall_mem_cons bounded)
          later
      · simp [step]

/-- No scan finds more units than there are. -/
theorem length_scan_le :
    (scan (lengthPrefixed units)).2.length ≤ units.length := by
  induction units with
  | nil =>
      simp [lengthPrefixed, scan]
  | cons nal units inductionHypothesis =>
      have rest :=
        inductionHypothesis
          (List.forall_mem_of_forall_mem_cons encoded)
          (List.forall_mem_of_forall_mem_cons bounded)
      rcases @scan_lengthPrefixed_cons units nal
        (encoded nal (by simp)) (bounded nal (by simp)) with
        ⟨_, step⟩ | ⟨_, _, _, step, _⟩
      · simp only [step, List.length_cons]
        omega
      · simp only [step, List.length_cons]
        omega

/-- One byte never stands alone in front of the first start code. -/
theorem length_front_ne_one :
    (scan (lengthPrefixed units)).1.length ≠ 1 := by
  cases units with
  | nil =>
      simp [lengthPrefixed, scan]
  | cons nal units =>
      rcases @scan_lengthPrefixed_cons units nal
        (encoded nal (by simp)) (bounded nal (by simp)) with
        ⟨_, step⟩ | ⟨_, _, _, step, frontLength, _⟩
      · simp only [step, withLength, List.length_append,
          BigEndian.length_toBytes]
        omega
      · simpa only [step] using frontLength

/-- A scan that gives back the units has seen one-byte units only. -/
theorem single_of_scan_eq
    (recovered : (scan (lengthPrefixed units)).2 = units) :
    ∀ nal ∈ units, nal.length = 1 := by
  induction units with
  | nil =>
      simp
  | cons nal units inductionHypothesis =>
      have restEncoded : ∀ other ∈ units, EncodedNal other :=
        List.forall_mem_of_forall_mem_cons encoded
      have restBounded : ∀ other ∈ units, other.length < 2 ^ 24 :=
        List.forall_mem_of_forall_mem_cons bounded
      have atMost := length_scan_le restEncoded restBounded
      have notOne := length_front_ne_one restEncoded restBounded
      have nonempty : 0 < nal.length :=
        List.length_pos_iff.mpr (encoded nal (by simp)).nonempty
      rcases @scan_lengthPrefixed_cons units nal
        (encoded nal (by simp)) (bounded nal (by simp)) with
        ⟨_, step⟩ | ⟨_, lost, taken, step, _, shape⟩
      · have lengths := congrArg List.length recovered
        simp only [step, List.length_cons] at lengths
        omega
      · simp only [step, List.cons.injEq] at recovered
        obtain ⟨unitEq, restEq⟩ := recovered
        have unitLength := congrArg List.length unitEq
        simp only [List.length_append, List.length_drop] at unitLength
        rcases shape with
          ⟨single, _, _⟩ | ⟨takenLength, rfl⟩ | ⟨rfl, rfl⟩
        · have rest :=
            inductionHypothesis restEncoded restBounded restEq
          simpa [single] using rest
        · omega
        · simp only [List.length_nil] at unitLength
          omega

end Units

/-! ## Both splitters -/

/-- The Windows splitter gives back the units exactly when they are unambiguous. -/
theorem windows_splitH264_lengthPrefixed
    {units : List Bytes}
    (encoded : ∀ nal ∈ units, EncodedNal nal)
    (bounded : ∀ nal ∈ units, nal.length < 2 ^ 24) :
    Windows.splitH264 (lengthPrefixed units) = units ↔
      Unambiguous units := by
  have scanned := Windows.scan_eq (lengthPrefixed units)
  have absent := @Windows.starts_eq_nil_iff (lengthPrefixed units)
  by_cases clear : ∀ nal ∈ units, ¬ PrefixLooksLikeCode nal
  · have noStart : Windows.starts (lengthPrefixed units) = [] := by
      rw [absent, scan_lengthPrefixed_clear encoded bounded clear]
    have recovered : Windows.splitH264 (lengthPrefixed units) = units := by
      rw [Windows.splitH264, if_neg (by simp [noStart]),
        Windows.lengthPrefixedUnits_lengthPrefixed
          (fun nal member =>
            Nat.lt_trans (bounded nal member) (by decide))]
      rfl
    exact iff_of_true recovered (Or.inr clear)
  · have marked : ∃ nal ∈ units, PrefixLooksLikeCode nal := by
      simpa using clear
    have found : Windows.starts (lengthPrefixed units) ≠ [] := by
      intro noStart
      have unitsFound := scan_lengthPrefixed_ne_nil encoded bounded marked
      rw [scanned, noStart] at unitsFound
      exact unitsFound rfl
    have isScan :
        Windows.splitH264 (lengthPrefixed units) =
          (scan (lengthPrefixed units)).2 := by
      rw [Windows.splitH264, if_pos found, scanned]
    rw [isScan]
    constructor
    · intro recovered
      exact Or.inl (single_of_scan_eq encoded bounded recovered)
    · rintro (single | unmarked)
      · rw [scan_lengthPrefixed_single encoded single]
      · exact (clear unmarked).elim

/-- The Android splitter gives back unambiguous units. -/
theorem android_splitH264_lengthPrefixed
    {units : List Bytes}
    (nonempty : units ≠ [])
    (encoded : ∀ nal ∈ units, EncodedNal nal)
    (bounded : ∀ nal ∈ units, nal.length < 2 ^ 24)
    (unambiguous : Unambiguous units) :
    Android.splitH264 (lengthPrefixed units) = units := by
  obtain ⟨nal, later, rfl⟩ := List.exists_cons_of_ne_nil nonempty
  obtain ⟨header, rest, nalEq, headerNonzero⟩ :=
    (encoded nal (by simp)).eq_cons
  obtain ⟨high, middle, low, prefixEq, lengthEq⟩ :=
    toBytes_four_of_lt (bounded nal (by simp))
  have front :
      lengthPrefixed (nal :: later) =
        0 :: high :: middle :: low :: (nal ++ lengthPrefixed later) := by
    rw [lengthPrefixed_cons, prefixEq]
    rfl
  have starts :
      StartsCode (lengthPrefixed (nal :: later)) ↔
        high = 0 ∧ (middle = 1 ∨ (middle = 0 ∧ low = 1)) := by
    rw [front, startsCode_top]
  have zeroNumber : (0 : UInt8).toNat = 0 := rfl
  have oneNumber : (1 : UInt8).toNat = 1 := rfl
  rcases unambiguous with single | clear
  · have isCode : StartsCode (lengthPrefixed (nal :: later)) := by
      have nalLength := single nal (by simp)
      rw [starts, ← UInt8.toNat_inj, ← UInt8.toNat_inj (a := middle),
        ← UInt8.toNat_inj (a := middle), ← UInt8.toNat_inj (a := low)]
      omega
    rw [Android.splitH264, if_pos isCode,
      Android.annexBUnits_lengthPrefixed encoded single]
    rfl
  · have noCode : ¬ StartsCode (lengthPrefixed (nal :: later)) := by
      have unmarked := clear nal (by simp)
      simp only [PrefixLooksLikeCode, not_or] at unmarked
      rw [starts]
      have lowBound := low.toNat_lt
      rintro ⟨rfl, rfl | ⟨rfl, rfl⟩⟩ <;> omega
    have notRaw :
        ¬ Android.startsRawNal (lengthPrefixed (nal :: later)) := by
      rw [front]
      simp [Android.startsRawNal]
    rw [Android.splitH264, if_neg noCode, if_neg notRaw,
      Android.avccUnits_lengthPrefixed
        (fun other member =>
          Nat.lt_trans (bounded other member) (by decide))
        (fun other member => (encoded other member).nonempty)]
    rfl

/--
Both splitters give back the length-prefixed units exactly when the units are
unambiguous.
-/
theorem splitH264_lengthPrefixed_iff
    {units : List Bytes}
    (nonempty : units ≠ [])
    (encoded : ∀ nal ∈ units, EncodedNal nal)
    (bounded : (lengthPrefixed units).length < 2 ^ 24) :
    (Android.splitH264 (lengthPrefixed units) = units ∧
      Windows.splitH264 (lengthPrefixed units) = units) ↔
      Unambiguous units := by
  have eachBounded : ∀ nal ∈ units, nal.length < 2 ^ 24 :=
    fun nal member =>
      Nat.lt_trans (length_lt_of_mem member) bounded
  rw [windows_splitH264_lengthPrefixed encoded eachBounded]
  constructor
  · exact And.right
  · intro unambiguous
    exact ⟨android_splitH264_lengthPrefixed nonempty encoded eachBounded
      unambiguous, unambiguous⟩

/-- Two short parameter sets come back from both splitters. -/
theorem splitH264_lengthPrefixed_iff_parameter_sets :
    (Android.splitH264 (lengthPrefixed [[0x67, 1], [0x68, 2, 3]]) =
        [[0x67, 1], [0x68, 2, 3]] ∧
      Windows.splitH264 (lengthPrefixed [[0x67, 1], [0x68, 2, 3]]) =
        [[0x67, 1], [0x68, 2, 3]]) ↔
      Unambiguous [[0x67, 1], [0x68, 2, 3]] :=
  splitH264_lengthPrefixed_iff (by decide) (by decide) (by decide)

namespace Android

/-- The loop steps over a byte that begins no start code. -/
theorem annexBUnits_step
    {byte : UInt8}
    {rest : Bytes}
    (absent : ¬ StartsCode (byte :: rest))
    (unit : Option Bytes) :
    annexBUnits unit (byte :: rest) =
      annexBUnits (unit.map (· ++ [byte])) rest := by
  rw [annexBUnits, if_pos (codeLength_eq_zero_iff.mpr absent)]

/-- The loop walks over a sealed unit. -/
theorem annexBUnits_append_of_sealed
    {unit : Bytes}
    (isSealed : Sealed unit)
    (seen later : Bytes) :
    annexBUnits (some seen) (unit ++ later) =
      annexBUnits (some (seen ++ unit)) later := by
  induction unit generalizing seen with
  | nil =>
      simp
  | cons byte unit inductionHypothesis =>
      have absent : ¬ StartsCode (byte :: (unit ++ later)) :=
        isSealed (byte :: unit) List.suffix_rfl (by simp) later
      rw [List.cons_append, annexBUnits_step absent, Option.map_some,
        inductionHypothesis isSealed.tail, List.append_assoc]
      rfl

/-- The loop ends with a sealed unit. -/
theorem annexBUnits_of_sealed
    {unit : Bytes}
    (isSealed : Sealed unit)
    (seen : Bytes) :
    annexBUnits (some seen) unit = closeUnit (seen ++ unit) := by
  have walked := annexBUnits_append_of_sealed isSealed seen []
  rw [List.append_nil] at walked
  rw [walked, annexBUnits]
  rfl

end Android

/-- A unit of 256 to 511 bytes keeps a byte of its length on Android. -/
theorem android_splitH264_short_block
    {nal : Bytes}
    (encoded : EncodedNal nal)
    (lower : 256 ≤ nal.length)
    (upper : nal.length < 512) :
    ∃ low, Android.splitH264 (lengthPrefixed [nal]) = [low :: nal] := by
  obtain ⟨high, middle, low, prefixEq, lengthEq⟩ :=
    toBytes_four_of_lt
      (Nat.lt_of_lt_of_le upper (by decide : 512 ≤ 2 ^ 24))
  have lowBound := low.toNat_lt
  have highZero : high = 0 := by
    rw [← UInt8.toNat_inj]
    change high.toNat = 0
    omega
  have middleOne : middle = 1 := by
    rw [← UInt8.toNat_inj]
    change middle.toNat = 1
    omega
  subst high middle
  have front : lengthPrefixed [nal] = 0 :: 0 :: 1 :: low :: nal := by
    rw [lengthPrefixed_cons, prefixEq]
    simp [lengthPrefixed]
  have begins : StartsCode (0 :: 0 :: 1 :: low :: nal) :=
    Or.inl ⟨low :: nal, rfl⟩
  have frontLength : codeLength (0 :: 0 :: 1 :: low :: nal) = 3 := by
    simp [codeLength, List.cons_prefix_cons]
  obtain ⟨header, rest, nalEq, headerNonzero⟩ := encoded.eq_cons
  have lowLength : codeLength (low :: nal) = 0 := by
    rw [codeLength_eq_zero_iff, nalEq]
    exact startsCode_low headerNonzero
  have closed : Android.closeUnit (low :: nal) = [low :: nal] := by
    have kept : (low :: nal).rdropWhile (· == 0) = low :: nal := by
      rw [List.rdropWhile_eq_self_iff]
      intro nonempty
      have last :=
        encoded.lastNonzero (nal.getLast encoded.nonempty)
          (List.getLast?_eq_getLast_of_ne_nil encoded.nonempty)
      simpa [List.getLast_cons encoded.nonempty] using last
    simp [Android.closeUnit, kept]
  refine ⟨low, ?_⟩
  rw [front, Android.splitH264, if_pos begins, Android.annexBUnits,
    if_neg (by simp [frontLength]), frontLength]
  simp only [List.drop_succ_cons, List.drop_zero, Option.elim_none,
    List.nil_append]
  rw [Android.annexBUnits, if_pos lowLength, Option.map_some,
    Android.annexBUnits_of_sealed encoded.isSealed]
  exact closed

/-- A slice without zero bytes is an encoded unit, at any length. -/
theorem encodedNal_slice (count : Nat) :
    EncodedNal (0x65 :: List.replicate count 0x11) := by
  have noZero : (0 : UInt8) ∉ (0x65 : UInt8) :: List.replicate count 0x11 := by
    simp
  exact {
    nonempty := by simp
    emulationFree :=
      ⟨fun occurs => noZero (occurs.subset (by simp)),
        fun occurs => noZero (occurs.subset (by simp))⟩
    lastNonzero := fun byte member isZero =>
      noZero (isZero ▸ List.mem_of_getLast? member)
    header := by
      simp only [List.head?_cons, Option.mem_some_iff, forall_eq']
      decide
  }

/-- A 256-byte unit comes back changed. -/
theorem splitH264_lengthPrefixed_changes_256_bytes :
    ¬ ∀ units : List Bytes,
      units ≠ [] →
      (∀ nal ∈ units, EncodedNal nal) →
      (lengthPrefixed units).length < 2 ^ 24 →
      Android.splitH264 (lengthPrefixed units) = units ∧
        Windows.splitH264 (lengthPrefixed units) = units := by
  intro splits
  obtain ⟨block, encoded, blockLength⟩ :
      ∃ block, EncodedNal block ∧ block.length = 256 :=
    ⟨0x65 :: List.replicate 255 0x11, encodedNal_slice 255,
      by rw [List.length_cons, List.length_replicate]⟩
  have bounded : (lengthPrefixed [block]).length < 2 ^ 24 := by
    rw [lengthPrefixed_cons]
    simp [BigEndian.length_toBytes, lengthPrefixed, blockLength]
  have onAndroid :=
    (splits [block] (by simp) (by simpa using encoded) bounded).1
  obtain ⟨low, changed⟩ :=
    android_splitH264_short_block encoded (by omega) (by omega)
  rw [changed] at onAndroid
  have lengths := congrArg (fun units => units.map List.length) onAndroid
  simp at lengths

end CamRtsp
