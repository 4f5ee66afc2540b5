import CamRtsp.Foundation.LengthPrefix
import CamRtsp.SplitH264

namespace CamRtsp

open RustText AnnexB LengthPrefix

/-!
# Buffers that length-prefixed units fill

Every buffer is a list of complete units and a tail that begins with no
complete unit.  The three loops over length-prefixed units differ in what they
do with the tail: the Android loop wants none, the Windows loop drops up to
three stray bytes, and the macOS loop drops any tail.
-/

/-! ## The three loops on a split buffer -/

namespace MacOs

theorem splitAvcc_of_takeField
    {data unit later : Bytes}
    (taken : takeField 4 data = some (unit, later)) :
    splitAvcc data = unit :: splitAvcc later := by
  obtain ⟨complete, inside, rfl, rfl⟩ := taken_of_takeField taken
  rw [splitAvcc, dif_neg complete]
  exact if_neg inside

theorem splitAvcc_of_takeField_none
    {data : Bytes}
    (taken : takeField 4 data = none) :
    splitAvcc data = [] := by
  rw [splitAvcc]
  split
  · rfl
  · rename_i complete
    exact if_pos ((takeField_eq_none_iff.mp taken).resolve_left complete)

/-- The macOS loop returns the complete units and drops the tail. -/
theorem splitAvcc_of_split
    {data tail : Bytes}
    {units : List Bytes}
    (split : Split 4 data units tail) :
    splitAvcc data = units := by
  induction units generalizing data with
  | nil =>
      rw [split.bytesEq]
      exact splitAvcc_of_takeField_none split.maximal
  | cons unit units inductionHypothesis =>
      rw [splitAvcc_of_takeField split.takeField_cons,
        inductionHypothesis split.behind]

end MacOs

namespace Windows

theorem lengthPrefixedUnits_of_takeField
    {bytes unit later : Bytes}
    (taken : takeField 4 bytes = some (unit, later)) :
    lengthPrefixedUnits bytes =
      (lengthPrefixedUnits later).map (unit :: ·) := by
  obtain ⟨complete, inside, rfl, rfl⟩ := taken_of_takeField taken
  rw [lengthPrefixedUnits, dif_neg complete]
  exact if_neg inside

theorem lengthPrefixedUnits_of_takeField_none
    {bytes : Bytes}
    (taken : takeField 4 bytes = none) :
    lengthPrefixedUnits bytes =
      if bytes.length < 4 then some [] else none := by
  rw [lengthPrefixedUnits]
  split
  · rfl
  · rename_i complete
    exact if_pos ((takeField_eq_none_iff.mp taken).resolve_left complete)

/-- The Windows loop wants a tail of less than four bytes. -/
theorem lengthPrefixedUnits_of_split
    {bytes tail : Bytes}
    {units : List Bytes}
    (split : Split 4 bytes units tail) :
    lengthPrefixedUnits bytes =
      if tail.length < 4 then some units else none := by
  induction units generalizing bytes with
  | nil =>
      rw [split.bytesEq]
      exact lengthPrefixedUnits_of_takeField_none split.maximal
  | cons unit units inductionHypothesis =>
      rw [lengthPrefixedUnits_of_takeField split.takeField_cons,
        inductionHypothesis split.behind, apply_ite (Option.map _)]
      rfl

end Windows

namespace Android

theorem avccUnits_of_takeField
    {bytes unit later : Bytes}
    (taken : takeField 4 bytes = some (unit, later)) :
    avccUnits bytes =
      if unit = [] then none else (avccUnits later).map (unit :: ·) := by
  have nonempty : bytes ≠ [] := by
    rintro rfl
    cases taken
  obtain ⟨complete, inside, rfl, rfl⟩ := taken_of_takeField taken
  rw [avccUnits, if_neg nonempty, dif_neg complete]
  by_cases empty :
      (bytes.drop 4).take (announced 4 bytes) = []
  · rw [if_pos empty]
    exact if_pos (.inr empty)
  · rw [if_neg empty]
    exact if_neg (not_or.mpr ⟨inside, empty⟩)

theorem avccUnits_of_takeField_none
    {bytes : Bytes}
    (taken : takeField 4 bytes = none) :
    avccUnits bytes = if bytes = [] then some [] else none := by
  rw [avccUnits]
  split
  · rfl
  · split
    · rfl
    · rename_i complete
      have outside :=
        (takeField_eq_none_iff.mp taken).resolve_left complete
      exact if_pos (.inl outside)

/-- The Android loop wants non-empty units and no tail. -/
theorem avccUnits_of_split
    {bytes tail : Bytes}
    {units : List Bytes}
    (split : Split 4 bytes units tail) :
    avccUnits bytes =
      if tail = [] ∧ [] ∉ units then some units else none := by
  induction units generalizing bytes with
  | nil =>
      rw [split.bytesEq]
      simpa using avccUnits_of_takeField_none split.maximal
  | cons unit units inductionHypothesis =>
      rw [avccUnits_of_takeField split.takeField_cons,
        inductionHypothesis split.behind]
      by_cases empty : unit = []
      · simp [empty]
      · simp [empty, eq_comm, apply_ite (Option.map _)]

end Android

/-! ## Partial access units on the desktop -/

/-- A list that is returned, put behind lengths again, is the whole buffer. -/
def Whole (split : Bytes → List Bytes) (buffer : Bytes) : Prop :=
  split buffer ≠ [] → lengthPrefixed (split buffer) = buffer

/-- The first bytes of the buffer are a complete unit behind its length. -/
def BeginsWithUnit (buffer : Bytes) : Prop :=
  ∃ unit later, unit.length < 2 ^ 32 ∧ buffer = withLength unit ++ later

/-- Complete units, and behind them something that is not one. -/
structure CutShort
    (buffer : Bytes)
    (units : List Bytes)
    (tail : Bytes) : Prop where
  bytesEq : buffer = lengthPrefixed units ++ tail
  bounded : ∀ unit ∈ units, unit.length < 2 ^ 32
  nonempty : units ≠ []
  tailNonempty : tail ≠ []
  incomplete : ¬ BeginsWithUnit tail

theorem beginsWithUnit_iff {buffer : Bytes} :
    BeginsWithUnit buffer ↔ takeField 4 buffer ≠ none := by
  rw [Option.ne_none_iff_exists']
  constructor
  · rintro ⟨unit, later, bounded, rfl⟩
    exact ⟨(unit, later), takeField_append bounded later⟩
  · rintro ⟨⟨unit, later⟩, taken⟩
    obtain ⟨bounded, bytesEq⟩ := takeField_eq_some_iff.mp taken
    exact ⟨unit, later, bounded, bytesEq⟩

/-- A buffer that is cut short is split where it is cut. -/
theorem CutShort.split
    {buffer tail : Bytes}
    {units : List Bytes}
    (cut : CutShort buffer units tail) :
    Split 4 buffer units tail where
  bytesEq := cut.bytesEq
  bounded := cut.bounded
  maximal := not_not.mp (mt beginsWithUnit_iff.mpr cut.incomplete)

/-- Behind complete units, whatever is left over cuts the buffer short. -/
theorem cutShort_of_split
    {buffer tail : Bytes}
    {units : List Bytes}
    (split : Split 4 buffer units tail)
    (nonempty : units ≠ [])
    (tailNonempty : tail ≠ []) :
    CutShort buffer units tail where
  bytesEq := split.bytesEq
  bounded := split.bounded
  nonempty := nonempty
  tailNonempty := tailNonempty
  incomplete := fun begins =>
    beginsWithUnit_iff.mp begins split.maximal

/-- Units fill a split buffer when its tail is empty. -/
theorem lengthPrefixed_eq_iff
    {buffer tail : Bytes}
    {units : List Bytes}
    (split : Split 4 buffer units tail) :
    lengthPrefixed units = buffer ↔ tail = [] := by
  rw [split.bytesEq]
  exact List.self_eq_append_right

/-- The macOS loop publishes part of every buffer that is cut short. -/
theorem MacOs.whole_iff (buffer : Bytes) :
    Whole splitAvcc buffer ↔ ∀ units tail, ¬ CutShort buffer units tail := by
  constructor
  · intro whole units tail cut
    have split := cut.split
    have returned := splitAvcc_of_split split
    rw [Whole, returned] at whole
    exact cut.tailNonempty
      ((lengthPrefixed_eq_iff split).mp (whole cut.nonempty))
  · intro uncut returnsSome
    obtain ⟨units, tail, split⟩ :=
      exists_split (by decide : 0 < 4) buffer
    have returned := splitAvcc_of_split split
    rw [returned] at returnsSome ⊢
    rw [lengthPrefixed_eq_iff split]
    by_contra tailNonempty
    exact uncut units tail
      (cutShort_of_split split returnsSome tailNonempty)

namespace Windows

/-- Without start codes, the Windows splitter runs its other loop. -/
theorem splitH264_of_no_code
    {bytes : Bytes}
    (noCode : ¬ [0, 0, 1] <:+: bytes) :
    splitH264 bytes = (lengthPrefixedUnits bytes).getD [] := by
  have noStarts : starts bytes = [] := by
    rw [starts, List.filter_eq_nil_iff]
    intro index _ begins
    rw [decide_eq_true_eq] at begins
    have suffix := List.drop_suffix index bytes
    rcases begins with short | long
    · exact noCode (short.isInfix.trans suffix.isInfix)
    · have inside : [0, 0, 1] <:+: ([0, 0, 0, 1] : Bytes) :=
        (List.suffix_cons 0 [0, 0, 1]).isInfix
      exact noCode
        (inside.trans (long.isInfix.trans suffix.isInfix))
  rw [splitH264, noStarts]
  rfl

/-- The Windows loop publishes part of buffers with one to three more bytes. -/
theorem whole_iff
    {buffer : Bytes}
    (noCode : ¬ [0, 0, 1] <:+: buffer) :
    Whole splitH264 buffer ↔
      ∀ units tail, CutShort buffer units tail → 4 ≤ tail.length := by
  rw [Whole, splitH264_of_no_code noCode]
  constructor
  · intro whole units tail cut
    by_contra long
    have split := cut.split
    rw [lengthPrefixedUnits_of_split split,
      if_pos (Nat.lt_of_not_le long)] at whole
    exact cut.tailNonempty
      ((lengthPrefixed_eq_iff split).mp (whole cut.nonempty))
  · intro uncut returnsSome
    obtain ⟨units, tail, split⟩ :=
      exists_split (by decide : 0 < 4) buffer
    have returned := lengthPrefixedUnits_of_split split
    by_cases short : tail.length < 4
    · rw [if_pos short] at returned
      rw [returned] at returnsSome ⊢
      change lengthPrefixed units = buffer
      rw [lengthPrefixed_eq_iff split]
      by_contra tailNonempty
      have cut := cutShort_of_split split returnsSome tailNonempty
      exact Nat.not_lt_of_le (uncut units tail cut) short
    · rw [if_neg short] at returned
      rw [returned] at returnsSome
      exact (returnsSome rfl).elim

end Windows

/--
The desktop splitters never return part of a buffer exactly when nothing cuts it
short behind a complete unit.  For macOS alone the condition is the same; for
Windows alone only one to three stray bytes matter.
-/
theorem desktop_units_whole_iff
    {buffer : Bytes}
    (noCode : ¬ [0, 0, 1] <:+: buffer) :
    (Whole MacOs.splitAvcc buffer ∧ Whole Windows.splitH264 buffer ↔
        ∀ units tail, ¬ CutShort buffer units tail) ∧
      (Whole MacOs.splitAvcc buffer ↔
        ∀ units tail, ¬ CutShort buffer units tail) ∧
      (Whole Windows.splitH264 buffer ↔
        ∀ units tail, CutShort buffer units tail → 4 ≤ tail.length) := by
  refine ⟨?_, MacOs.whole_iff buffer, Windows.whole_iff noCode⟩
  rw [MacOs.whole_iff, Windows.whole_iff noCode]
  constructor
  · rintro ⟨uncut, _⟩
    exact uncut
  · intro uncut
    exact ⟨uncut, fun units tail cut => (uncut units tail cut).elim⟩

/-- One unit that fills its buffer. -/
theorem desktop_units_whole_iff_filled :
    Whole MacOs.splitAvcc [0, 0, 0, 2, 0x65, 1] ∧
      Whole Windows.splitH264 [0, 0, 0, 2, 0x65, 1] := by
  refine (desktop_units_whole_iff (by decide)).1.mpr ?_
  intro units tail cut
  have whole : Split 4 [0, 0, 0, 2, 0x65, 1] [[0x65, 1]] [] :=
    ⟨rfl, by simp [Bounded], rfl⟩
  exact cut.tailNonempty (cut.split.unique whole).2

/-- A unit with one stray byte behind it is returned by both. -/
theorem desktop_units_stray_byte :
    ¬ [0, 0, 1] <:+: ([0, 0, 0, 2, 0x65, 1, 0] : Bytes) ∧
      ¬ Whole MacOs.splitAvcc [0, 0, 0, 2, 0x65, 1, 0] ∧
      ¬ Whole Windows.splitH264 [0, 0, 0, 2, 0x65, 1, 0] ∧
      Android.splitH264 [0, 0, 0, 2, 0x65, 1, 0] = [] := by
  have split : Split 4 [0, 0, 0, 2, 0x65, 1, 0] [[0x65, 1]] [0] :=
    ⟨rfl, by simp [Bounded], rfl⟩
  have noCode : ¬ [0, 0, 1] <:+: ([0, 0, 0, 2, 0x65, 1, 0] : Bytes) := by
    decide
  have cut := cutShort_of_split split (by simp) (by simp)
  refine ⟨noCode, ?_, ?_, ?_⟩
  · intro whole
    exact (MacOs.whole_iff _).mp whole _ _ cut
  · intro whole
    have long := (Windows.whole_iff noCode).mp whole _ _ cut
    exact absurd long (by decide)
  · rw [Android.splitH264, if_neg (by decide), if_neg (by decide),
      Android.avccUnits_of_split split, if_neg (by simp)]
    rfl

/-! ## All or nothing on Android -/

/-- One or more non-empty units behind their lengths. -/
structure Tiles (units : List Bytes) (payload : Bytes) : Prop where
  some : units ≠ []
  nonempty : ∀ unit ∈ units, unit ≠ []
  bounded : ∀ unit ∈ units, unit.length < 2 ^ 32
  bytesEq : payload = lengthPrefixed units

/-- The payload is read as its units, or not at all. -/
structure AllOrNothing (payload : Bytes) : Prop where
  nonempty_iff :
    Android.splitH264 payload ≠ [] ↔ ∃ units, Tiles units payload
  exact :
    ∀ units, Tiles units payload → Android.splitH264 payload = units
  whole : Whole Android.splitH264 payload
  cutShort :
    ∀ units tail, CutShort payload units tail →
      Android.splitH264 payload = []
  emptyUnit :
    ∀ units later, (∀ unit ∈ units, unit.length < 2 ^ 32) →
      payload = lengthPrefixed units ++ [0, 0, 0, 0] ++ later →
        Android.splitH264 payload = []

namespace Android

/-- Units that tile a payload split it. -/
theorem split_of_tiles
    {units : List Bytes}
    {payload : Bytes}
    (tiles : Tiles units payload) :
    Split 4 payload units [] where
  bytesEq := by rw [List.append_nil]; exact tiles.bytesEq
  bounded := tiles.bounded
  maximal := rfl

/-- Only the length-prefixed loop is left for such a payload. -/
theorem splitH264_of_not_raw
    {payload : Bytes}
    (noCode : ¬ StartsCode payload)
    (notRaw : ¬ startsRawNal payload) :
    splitH264 payload = (avccUnits payload).getD [] := by
  rw [splitH264, if_neg noCode, if_neg notRaw]

section LengthPrefixed

variable {payload : Bytes}
variable (noCode : ¬ StartsCode payload)
variable (notRaw : ¬ startsRawNal payload)

include noCode notRaw

/-- Units that tile the payload are returned. -/
theorem splitH264_of_tiles
    {units : List Bytes}
    (tiles : Tiles units payload) :
    splitH264 payload = units := by
  have noEmptyUnit : [] ∉ units :=
    fun member => tiles.nonempty [] member rfl
  rw [splitH264_of_not_raw noCode notRaw,
    avccUnits_of_split (split_of_tiles tiles),
    if_pos ⟨rfl, noEmptyUnit⟩]
  rfl

/-- What is returned tiles the payload. -/
theorem exists_tiles
    (returnsSome : splitH264 payload ≠ []) :
    ∃ units, Tiles units payload := by
  obtain ⟨units, tail, split⟩ :=
    exists_split (by decide : 0 < 4) payload
  rw [splitH264_of_not_raw noCode notRaw, avccUnits_of_split split]
    at returnsSome
  by_cases exact : tail = [] ∧ [] ∉ units
  · rw [if_pos exact] at returnsSome
    obtain ⟨rfl, noEmptyUnit⟩ := exact
    refine ⟨units, returnsSome, ?_, split.bounded, ?_⟩
    · rintro unit member rfl
      exact noEmptyUnit member
    · rw [split.bytesEq, List.append_nil]
      rfl
  · rw [if_neg exact] at returnsSome
    exact (returnsSome rfl).elim

/-- A payload whose units are not all complete and non-empty is rejected. -/
theorem splitH264_of_split
    {units : List Bytes}
    {tail : Bytes}
    (split : Split 4 payload units tail)
    (wrong : tail ≠ [] ∨ [] ∈ units) :
    splitH264 payload = [] := by
  rw [splitH264_of_not_raw noCode notRaw, avccUnits_of_split split, if_neg]
  · rfl
  · rintro ⟨noTail, noEmptyUnit⟩
    rcases wrong with hasTail | hasEmptyUnit
    · exact hasTail noTail
    · exact noEmptyUnit hasEmptyUnit

end LengthPrefixed

end Android

/--
A payload that is neither an Annex B stream nor a raw unit is read as the
non-empty units that tile it, and rejected when there are none.
-/
theorem android_splitH264_all_or_nothing
    {payload : Bytes}
    (noCode : ¬ StartsCode payload)
    (notRaw : ¬ Android.startsRawNal payload) :
    AllOrNothing payload where
  nonempty_iff := by
    constructor
    · exact Android.exists_tiles noCode notRaw
    · rintro ⟨units, tiles⟩
      rw [Android.splitH264_of_tiles noCode notRaw tiles]
      exact tiles.some
  exact := fun units => Android.splitH264_of_tiles noCode notRaw
  whole := by
    intro returnsSome
    obtain ⟨units, tiles⟩ :=
      Android.exists_tiles noCode notRaw returnsSome
    rw [Android.splitH264_of_tiles noCode notRaw tiles]
    exact tiles.bytesEq.symm
  cutShort := fun units tail cut =>
    Android.splitH264_of_split noCode notRaw cut.split
      (.inl cut.tailNonempty)
  emptyUnit := by
    intro units later bounded payloadEq
    obtain ⟨others, tail, split⟩ :=
      exists_split (by decide : 0 < 4) later
    have emptyBounded : Bounded 4 (units ++ [[]]) := by
      intro unit member
      rcases List.mem_append.mp member with front | last
      · exact bounded unit front
      · rw [List.mem_singleton.mp last]
        decide
    have fieldsEq :
        fields 4 (units ++ [[]]) = lengthPrefixed units ++ [0, 0, 0, 0] := by
      rw [fields, List.flatMap_append]
      rfl
    have whole := split.prepend emptyBounded
    rw [fieldsEq, ← payloadEq] at whole
    exact Android.splitH264_of_split noCode notRaw whole (.inr (by simp))

/-- A payload of two units. -/
theorem android_splitH264_all_or_nothing_two_units :
    AllOrNothing [0, 0, 0, 2, 0x65, 1, 0, 0, 0, 1, 0x41] :=
  android_splitH264_all_or_nothing (by decide) (by decide)

end CamRtsp
