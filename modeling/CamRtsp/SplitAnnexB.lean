import CamRtsp.SplitLengthPrefixed

namespace CamRtsp

open RustText AnnexB

/-!
# Annex B streams in the detecting splitters

The Android loop trims the zeros behind each unit.  The Windows splitter cuts
at the next start code and leaves all zeros that are not part of it, so the two
agree exactly on streams whose padding fits into the start codes.
-/

namespace Android

/-- Trimming leaves nothing but the unit. -/
theorem closeUnit_part (part : Part) (zeros : Nat) :
    closeUnit (part.unit ++ List.replicate zeros 0) = [part.unit] := by
  have trimmed :
      (part.unit ++ List.replicate zeros 0).rdropWhile (· == 0) =
        part.unit := by
    induction zeros with
    | zero =>
        rw [List.replicate_zero, List.append_nil,
          List.rdropWhile_eq_self_iff]
        intro nonempty
        have last :=
          part.lastNonzero (part.unit.getLast nonempty)
            (List.getLast?_eq_getLast_of_ne_nil nonempty)
        simpa using last
    | succ zeros inductionHypothesis =>
        rw [List.replicate_succ', ← List.append_assoc,
          List.rdropWhile_concat_pos _ _ _ (by decide)]
        exact inductionHypothesis
  rw [closeUnit, trimmed, if_neg part.nonempty]

/-- The loop takes the last two or three zeros in front of a one as a code. -/
theorem annexBUnits_code
    (zeros : Nat)
    (unit : Option Bytes)
    (later : Bytes) :
    annexBUnits unit (List.replicate (zeros + 2) 0 ++ 1 :: later) =
      (unit.map (· ++ List.replicate (zeros - 1) 0)).elim [] closeUnit ++
        annexBUnits (some []) later := by
  have shortLength : codeLength (0 :: 0 :: 1 :: later) = 3 := by
    simp [codeLength, List.cons_prefix_cons]
  have longLength : codeLength (0 :: 0 :: 0 :: 1 :: later) = 4 := by
    simp [codeLength, List.cons_prefix_cons]
  cases zeros with
  | zero =>
      change annexBUnits unit (0 :: 0 :: 1 :: later) = _
      rw [annexBUnits, if_neg (by simp [shortLength]), shortLength]
      cases unit <;> simp
  | succ extra =>
      induction extra generalizing unit with
      | zero =>
          change annexBUnits unit (0 :: 0 :: 0 :: 1 :: later) = _
          rw [annexBUnits, if_neg (by simp [longLength]), longLength]
          cases unit <;> simp
      | succ extra inductionHypothesis =>
          have absent :
              ¬ StartsCode
                (0 :: (List.replicate (extra + 1 + 2) 0 ++
                  1 :: later)) := by
            have threeZeros :
                List.replicate (extra + 1 + 2) (0 : UInt8) ++
                    1 :: later =
                  0 :: 0 :: 0 :: (List.replicate extra 0 ++ 1 :: later) :=
              rfl
            rw [threeZeros]
            exact not_startsCode_zeros _
          have front :
              List.replicate (extra + 1 + 1 + 2) (0 : UInt8) ++
                  1 :: later =
                0 :: (List.replicate (extra + 1 + 2) 0 ++ 1 :: later) :=
            rfl
          rw [front, annexBUnits_step absent, inductionHypothesis]
          congr 1
          cases unit <;> simp [List.replicate_succ]

/-- Zeros behind the last unit are kept in front of the final trimming. -/
theorem annexBUnits_zeros
    (zeros : Nat)
    (unit : Option Bytes) :
    annexBUnits unit (List.replicate zeros 0) =
      (unit.map (· ++ List.replicate zeros 0)).elim [] closeUnit := by
  induction zeros generalizing unit with
  | zero =>
      cases unit <;> simp [annexBUnits]
  | succ zeros inductionHypothesis =>
      have absent :
          ¬ StartsCode ((0 : UInt8) :: List.replicate zeros 0) :=
        not_startsCode_replicate zeros
      rw [List.replicate_succ, annexBUnits_step absent,
        inductionHypothesis]
      cases unit <;> simp

/-- The loop on a stream behind any zeros, by induction on its parts. -/
theorem annexBUnits_stream
    (zeros : Nat)
    (parts : List Part)
    (unit : Option Bytes) :
    annexBUnits unit (List.replicate zeros 0 ++ stream parts) =
      (unit.map (· ++ List.replicate (surplus zeros parts) 0)).elim []
          closeUnit ++
        parts.map Part.unit := by
  induction parts generalizing zeros unit with
  | nil =>
      simp [stream, surplus, annexBUnits_zeros]
  | cons part later inductionHypothesis =>
      obtain ⟨extra, extraEq, surplusEq⟩ :=
        exists_surplus zeros part later
      rw [zeros_append_stream, extraEq, annexBUnits_code,
        annexBUnits_append_of_sealed part.isSealed, inductionHypothesis,
        surplusEq]
      simp [closeUnit_part]

end Android

section Stream

variable (first : Part) (later : List Part)

/-- A stream begins with a start code. -/
theorem startsCode_stream : StartsCode (stream (first :: later)) := by
  rw [stream_cons]
  rcases first.codeSize_cases with isThree | isFour
  · rw [isThree]
    exact .inl ⟨_, rfl⟩
  · rw [isFour]
    exact .inr ⟨_, rfl⟩

/-- The Android splitter gives back the units, whatever the padding. -/
theorem android_splitH264_stream :
    Android.splitH264 (stream (first :: later)) =
      (first :: later).map Part.unit := by
  have split := Android.annexBUnits_stream 0 (first :: later) none
  rw [Android.splitH264, if_pos (startsCode_stream first later)]
  simpa using split

/-- The Windows splitter cuts the stream like a scan. -/
theorem windows_splitH264_stream :
    Windows.splitH264 (stream (first :: later)) =
      cutUnits (first :: later) := by
  have scanned := scan_stream 0 (first :: later)
  rw [List.replicate_zero, List.nil_append] at scanned
  have found : Windows.starts (stream (first :: later)) ≠ [] := by
    intro none
    rw [Windows.scan_eq, none] at scanned
    cases congrArg Prod.snd scanned
  rw [Windows.splitH264, if_pos found]
  have cut := Windows.scan_eq (stream (first :: later))
  rw [scanned] at cut
  exact (congrArg Prod.snd cut).symm

/--
The splitters agree on a stream if and only if all padding disappears in the
start codes behind it.
-/
theorem splitH264_stream_agree_iff :
    Windows.splitH264 (stream (first :: later)) =
        Android.splitH264 (stream (first :: later)) ↔
      PaddingFits (first :: later) := by
  rw [windows_splitH264_stream, android_splitH264_stream,
    cutUnits_eq_iff]

end Stream

/-- A one-byte parameter set behind a short start code. -/
def paddedPart (padding : Nat) : Part where
  long := false
  unit := [0x67]
  padding := padding
  nonempty := by decide
  emulationFree := by decide
  lastNonzero := by simp

/-- A trailing zero stays in the unit that the Windows splitter returns. -/
theorem splitH264_stream_trailing_zero :
    stream [paddedPart 1] = [0, 0, 1, 0x67, 0] ∧
      Windows.splitH264 [0, 0, 1, 0x67, 0] = [[0x67, 0]] ∧
      Android.splitH264 [0, 0, 1, 0x67, 0] = [[0x67]] := by
  have streamed : stream [paddedPart 1] = [0, 0, 1, 0x67, 0] := by
    decide
  refine ⟨streamed, ?_, ?_⟩
  · rw [← streamed, windows_splitH264_stream]
    decide
  · rw [← streamed, android_splitH264_stream]
    decide

/-- The Android splitter inverts every serialization of plain units. -/
theorem android_splitH264_of_serializes
    {units : List Bytes}
    {bytes : Bytes}
    (some : units ≠ [])
    (plain : ∀ unit ∈ units, PlainUnit unit)
    (serialized : Serializes units bytes) :
    Android.splitH264 bytes = units := by
  obtain ⟨parts, rfl, rfl⟩ := exists_parts serialized plain
  cases parts with
  | nil =>
      exact (some rfl).elim
  | cons first later =>
      exact android_splitH264_stream first later

/-- A parameter set with two trailing zeros, then a slice. -/
theorem android_splitH264_of_serializes_padded :
    Android.splitH264 [0, 0, 1, 0x67, 0, 0, 0, 0, 0, 1, 0x65, 1] =
      [[0x67], [0x65, 1]] := by
  refine android_splitH264_of_serializes (by decide) ?_
    (.cons [0, 0, 1] (.inl rfl) [0x67] 2
      (.cons [0, 0, 0, 1] (.inr rfl) [0x65, 1] 0 .nil))
  intro unit member
  simp only [List.mem_cons, List.not_mem_nil, or_false] at member
  rcases member with rfl | rfl
  · exact ⟨by decide, by decide, by simp⟩
  · exact ⟨by decide, by decide, by simp⟩

end CamRtsp
