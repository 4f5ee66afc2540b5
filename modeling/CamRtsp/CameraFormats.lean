import CamRtsp.Core
import CamRtsp.Foundation.NearestRate
import Mathlib.Tactic.NormNum

namespace CamRtsp

open NearestRate

/-!
# The camera format on Windows

The capture pipeline takes the native media type with the least score.  The
score compares frame rates by differences scaled with each format's own
denominator, so the closest rate wins only when the scaling does not reorder
the formats.
-/

inductive PixelFormat where
  | nv12
  | yuy2
  | h264
  | unknown
  deriving Repr, DecidableEq

structure CameraFormat where
  width : UInt32
  height : UInt32
  fpsNum : UInt32
  fpsDen : UInt32
  pixelFormat : PixelFormat
  deriving Repr, DecidableEq

inductive BitrateMode where
  | auto
  | bitsPerSecond (bits : UInt32)
  deriving Repr, DecidableEq

/-- What is requested of the selected camera. -/
structure StreamConfig where
  requestedWidth : UInt32
  requestedHeight : UInt32
  requestedFps : UInt32
  bitrate : BitrateMode
  gopSeconds : UInt32
  deriving Repr, DecidableEq

/-- The bit rate is not in the accepted range. -/
def BitrateMode.rejected : BitrateMode → Bool
  | .auto => false
  | .bitsPerSecond bits => bits == 0 || decide (2147483647 < bits)

/-- `StreamConfig::validate`. -/
def StreamConfig.validate (config : StreamConfig) : Except String Unit :=
  if ¬ (1 ≤ config.requestedWidth ∧ config.requestedWidth ≤ 16384) ∨
      ¬ (1 ≤ config.requestedHeight ∧ config.requestedHeight ≤ 16384) ∨
      ¬ (1 ≤ config.requestedFps ∧ config.requestedFps ≤ 240) ∨
      ¬ (1 ≤ config.gopSeconds ∧ config.gopSeconds ≤ 60) ∨
      config.bitrate.rejected then
    .error ("resolution must be 1–16384 per dimension, FPS 1–240, " ++
      "GOP 1–60 seconds, and bitrate 1–2147483647")
  else
    .ok ()

/-- The media subtypes the code tells apart. -/
inductive MediaSubtype where
  | h264
  | h264Es
  | nv12
  | yuy2
  | other
  deriving Repr, DecidableEq

/-- The attributes of a native media type, as far as it has them. -/
structure MediaType where
  subtype : Option MediaSubtype
  frameSize : Option UInt64
  frameRate : Option UInt64
  deriving Repr, DecidableEq

/-- The pixel format of a media subtype. -/
def MediaSubtype.pixelFormat : MediaSubtype → Option PixelFormat
  | .h264 => some .h264
  | .h264Es => some .h264
  | .nv12 => some .nv12
  | .yuy2 => some .yuy2
  | .other => none

/-- `camera_format`. -/
def cameraFormat (mediaType : MediaType) : Except String CameraFormat :=
  match mediaType.subtype with
  | none => .error "media type has no subtype"
  | some subtype =>
      match subtype.pixelFormat with
      | none => .error "unsupported camera media subtype"
      | some pixelFormat =>
          match mediaType.frameSize with
          | none => .error "media type has no frame size"
          | some size =>
              let rate := mediaType.frameRate.getD ((30 : UInt64) <<< 32 ||| 1)
              .ok {
                width := (size >>> 32).toUInt32
                height := size.toUInt32
                fpsNum := (rate >>> 32).toUInt32
                fpsDen := max rate.toUInt32 1
                pixelFormat := pixelFormat
              }

/-- The preference of a pixel format. -/
def PixelFormat.kind : PixelFormat → ℕ
  | .h264 => 0
  | .nv12 => 1
  | .yuy2 => 2
  | .unknown => 9

/-- `width.abs_diff(..) + height.abs_diff(..)`. -/
def resolutionDistance (format : CameraFormat) (config : StreamConfig) : ℕ :=
  Nat.dist format.width.toNat config.requestedWidth.toNat +
    Nat.dist format.height.toNat config.requestedHeight.toNat

/-- `requested.abs_diff(actual)`. -/
def rateDifference (format : CameraFormat) (config : StreamConfig) : ℕ :=
  scaledDistance config.requestedFps.toNat format.fpsNum.toNat
    format.fpsDen.toNat

/-- `format_score`, compared from left to right. -/
def formatScore (format : CameraFormat) (config : StreamConfig) :
    ℕ ×ₗ ℕ ×ₗ ℕ :=
  toLex (format.pixelFormat.kind,
    toLex (resolutionDistance format config, rateDifference format config))

/-- A native media type whose format is known. -/
structure SelectedMediaType where
  mediaType : MediaType
  format : CameraFormat
  deriving Repr, DecidableEq

/-- The enumeration in `choose_media_type`. -/
def candidates (native : List MediaType) : List SelectedMediaType :=
  native.filterMap fun mediaType =>
    match cameraFormat mediaType with
    | .ok format => some { mediaType, format }
    | .error _ => none

/-- The end of `choose_media_type`; `min_by_key` takes the first minimum. -/
def choose
    (candidates : List SelectedMediaType)
    (config : StreamConfig) : Except String SelectedMediaType :=
  match candidates.argmin fun candidate =>
      formatScore candidate.format config with
  | some selected => .ok selected
  | none => .error "camera has no H.264, NV12, or YUY2 capture format"

/-- `choose_media_type` on the native media types of the reader. -/
def chooseMediaType
    (native : List MediaType)
    (config : StreamConfig) : Except String SelectedMediaType :=
  choose (candidates native) config

section Score

variable {config : StreamConfig}

/-- The scores are computed without overflow. -/
theorem score_fits (format : CameraFormat) (config : StreamConfig) :
    resolutionDistance format config < UInt64.size ∧
      config.requestedFps.toNat * format.fpsDen.toNat < UInt64.size ∧
      rateDifference format config < UInt64.size := by
  have width := format.width.toNat_lt
  have height := format.height.toNat_lt
  have requestedWidth := config.requestedWidth.toNat_lt
  have requestedHeight := config.requestedHeight.toNat_lt
  have numerator := format.fpsNum.toNat_lt
  have product :
      config.requestedFps.toNat * format.fpsDen.toNat < UInt64.size :=
    Nat.mul_lt_mul'' config.requestedFps.toNat_lt format.fpsDen.toNat_lt
  refine ⟨?_, product, ?_⟩
  · simp only [resolutionDistance, Nat.dist, UInt64.size]
    omega
  · simp only [rateDifference, scaledDistance, Nat.dist, UInt64.size]
      at product ⊢
    omega

/-- Different pixel formats have different preferences. -/
theorem kind_injective : Function.Injective PixelFormat.kind := by
  intro first second same
  cases first <;> cases second <;> first | rfl | cases same

theorem max_one_pos (count : UInt32) : 0 < (max count 1).toNat := by
  change 0 < (if count ≤ 1 then (1 : UInt32) else count).toNat
  split
  · decide
  · rename_i beyond
    have greater := UInt32.lt_iff_toNat_lt.mp (UInt32.not_le.mp beyond)
    exact Nat.zero_lt_of_lt greater

/-- Native candidates have a positive denominator. -/
theorem fpsDen_pos_of_mem_candidates
    {native : List MediaType}
    {candidate : SelectedMediaType}
    (member : candidate ∈ candidates native) :
    0 < candidate.format.fpsDen.toNat := by
  obtain ⟨mediaType, _, accepted⟩ := List.mem_filterMap.mp member
  cases found : cameraFormat mediaType with
  | error message =>
      simp [found] at accepted
  | ok format =>
      simp only [found, Option.some_inj] at accepted
      subst accepted
      simp only [cameraFormat] at found
      split at found
      · cases found
      · split at found
        · cases found
        · split at found
          · cases found
          · obtain rfl := Except.ok.inj found
            exact max_one_pos _

end Score

/-! ## When the closest frame rate is chosen -/

/-- How far the frame rate of a format is from the requested one. -/
def fpsDistance (format : CameraFormat) (config : StreamConfig) : ℚ :=
  rateDistance config.requestedFps.toNat format.fpsNum.toNat
    format.fpsDen.toNat

/-- The part of the score before the frame rate. -/
def groupKey (format : CameraFormat) (config : StreamConfig) : ℕ ×ₗ ℕ :=
  toLex (format.pixelFormat.kind, resolutionDistance format config)

/--
No candidate of the same pixel format is closer in resolution, and none as
close in resolution is closer in frame rate.
-/
structure Closest
    (candidates : List SelectedMediaType)
    (config : StreamConfig)
    (chosen : SelectedMediaType) : Prop where
  member : chosen ∈ candidates
  resolution :
    ∀ other ∈ candidates,
      other.format.pixelFormat = chosen.format.pixelFormat →
        ¬ resolutionDistance other.format config <
          resolutionDistance chosen.format config
  rate :
    ∀ other ∈ candidates,
      other.format.pixelFormat = chosen.format.pixelFormat →
        resolutionDistance other.format config =
            resolutionDistance chosen.format config →
          ¬ fpsDistance other.format config <
            fpsDistance chosen.format config

/-- No candidate precedes it in pixel format and resolution. -/
structure Leading
    (candidates : List SelectedMediaType)
    (config : StreamConfig)
    (candidate : SelectedMediaType) : Prop where
  member : candidate ∈ candidates
  least :
    ∀ other ∈ candidates,
      groupKey candidate.format config ≤ groupKey other.format config

/-- By which factor the denominator of the first format is larger. -/
def denominatorFactor (first second : CameraFormat) : ℚ :=
  first.fpsDen.toNat / second.fpsDen.toNat

/-- By which factor the second format is farther from the requested rate. -/
def distanceFactor
    (first second : CameraFormat)
    (config : StreamConfig) : ℚ :=
  fpsDistance second config / fpsDistance first config

/--
The denominator of the closer candidate is harmless: the candidate has the
requested rate, or the denominator is larger by a smaller factor than the other
candidate is farther, or by the same factor and the candidate comes first.
-/
def StaysAhead
    (candidates : List SelectedMediaType)
    (config : StreamConfig)
    (closer farther : SelectedMediaType) : Prop :=
  fpsDistance closer.format config = 0 ∨
    denominatorFactor closer.format farther.format <
        distanceFactor closer.format farther.format config ∨
      denominatorFactor closer.format farther.format =
          distanceFactor closer.format farther.format config ∧
        candidates.idxOf closer < candidates.idxOf farther

/--
Every leading candidate with closer ones beside it has one among them whose
denominator is harmless.
-/
def DenominatorsAllow
    (candidates : List SelectedMediaType)
    (config : StreamConfig) : Prop :=
  ∀ farther, Leading candidates config farther →
    (∃ closer, Leading candidates config closer ∧
      fpsDistance closer.format config <
        fpsDistance farther.format config) →
      ∃ closer, Leading candidates config closer ∧
        fpsDistance closer.format config <
            fpsDistance farther.format config ∧
          StaysAhead candidates config closer farther

section Choice

variable {config : StreamConfig}
variable {first second : CameraFormat}

theorem groupKey_eq_iff :
    groupKey first config = groupKey second config ↔
      first.pixelFormat = second.pixelFormat ∧
        resolutionDistance first config =
          resolutionDistance second config := by
  rw [groupKey, groupKey, toLex_inj, Prod.mk.injEq,
    kind_injective.eq_iff]

/-- The rate difference decides only within a group. -/
theorem formatScore_le_iff :
    formatScore first config ≤ formatScore second config ↔
      groupKey first config < groupKey second config ∨
        groupKey first config = groupKey second config ∧
          rateDifference first config ≤ rateDifference second config := by
  simp only [formatScore, groupKey, Prod.Lex.toLex_le_toLex,
    Prod.Lex.toLex_lt_toLex, toLex_inj, Prod.mk.injEq]
  tauto

/-- A smaller score never belongs to a worse group. -/
theorem groupKey_le_of_formatScore_le
    (le : formatScore first config ≤ formatScore second config) :
    groupKey first config ≤ groupKey second config := by
  rcases formatScore_le_iff.mp le with smaller | ⟨same, _⟩
  · exact smaller.le
  · exact same.le

/-- In the preferred group no format of its kind is closer in resolution. -/
theorem not_closer_of_groupKey_le
    (le : groupKey first config ≤ groupKey second config)
    (sameFormat : second.pixelFormat = first.pixelFormat) :
    ¬ resolutionDistance second config <
      resolutionDistance first config := by
  rw [groupKey, groupKey, sameFormat, Prod.Lex.toLex_le_toLex] at le
  rcases le with smaller | ⟨_, le⟩
  · exact (Nat.lt_irrefl _ smaller).elim
  · exact Nat.not_lt.mpr le

variable {candidates : List SelectedMediaType}

/-- `choose` takes the first candidate with the least score. -/
theorem choose_eq_ok_iff {chosen : SelectedMediaType} :
    choose candidates config = .ok chosen ↔
      FirstMinimum
        (fun candidate : SelectedMediaType =>
          formatScore candidate.format config)
        candidates chosen := by
  rw [← argmin_eq_some_iff_firstMinimum, choose]
  split
  · rename_i selected found
    simp [found]
  · rename_i found
    simp [found]

/-- Some candidate is chosen. -/
theorem exists_chosen (nonempty : candidates ≠ []) :
    ∃ chosen, choose candidates config = .ok chosen := by
  rw [choose]
  split
  · exact ⟨_, rfl⟩
  · rename_i missing
    exact (nonempty (List.argmin_eq_none.mp missing)).elim

/-- True distances are compared by cross products. -/
theorem fpsDistance_le_iff
    (firstPositive : 0 < first.fpsDen.toNat)
    (secondPositive : 0 < second.fpsDen.toNat) :
    fpsDistance first config ≤ fpsDistance second config ↔
      rateDifference first config * second.fpsDen.toNat ≤
        rateDifference second config * first.fpsDen.toNat :=
  rateDistance_le_iff firstPositive secondPositive

/-- Two candidates of the best group share it. -/
theorem Leading.sameGroup
    {one other : SelectedMediaType}
    (leading : Leading candidates config one)
    (otherLeading : Leading candidates config other) :
    groupKey one.format config = groupKey other.format config :=
  le_antisymm (leading.least other otherLeading.member)
    (otherLeading.least one leading.member)

/-- The first minimum is in the best group. -/
theorem leading_of_firstMinimum
    {chosen : SelectedMediaType}
    (isFirst :
      FirstMinimum
        (fun candidate : SelectedMediaType =>
          formatScore candidate.format config)
        candidates chosen) :
    Leading candidates config chosen where
  member := by
    obtain ⟨before, after, rfl, _⟩ := isFirst
    simp
  least other member :=
    groupKey_le_of_formatScore_le (isFirst.le other member)

/-- A candidate as good as a leading one is leading. -/
theorem Leading.of_sameGroup
    {one other : SelectedMediaType}
    (leading : Leading candidates config one)
    (member : other ∈ candidates)
    (same : groupKey other.format config = groupKey one.format config) :
    Leading candidates config other where
  member := member
  least third thirdMember := same.le.trans (leading.least third thirdMember)

/-- Leading candidates are scored by their frame rates. -/
theorem Leading.formatScore_le_iff
    {one other : SelectedMediaType}
    (leading : Leading candidates config one)
    (otherLeading : Leading candidates config other) :
    formatScore one.format config ≤ formatScore other.format config ↔
      rateDifference one.format config ≤
        rateDifference other.format config := by
  rw [CamRtsp.formatScore_le_iff,
    or_iff_right (leading.sameGroup otherLeading).not_lt,
    and_iff_right (leading.sameGroup otherLeading)]

/-- The closest choice stays ahead of all farther candidates. -/
theorem staysAhead_of_firstMinimum
    (positive :
      ∀ candidate ∈ candidates, 0 < candidate.format.fpsDen.toNat)
    {chosen farther : SelectedMediaType}
    (isFirst :
      FirstMinimum
        (fun candidate : SelectedMediaType =>
          formatScore candidate.format config)
        candidates chosen)
    (leading : Leading candidates config farther)
    (isFarther :
      fpsDistance chosen.format config <
        fpsDistance farther.format config) :
    StaysAhead candidates config chosen farther := by
  have chosenLeads := leading_of_firstMinimum isFirst
  by_cases onRate : fpsDistance chosen.format config = 0
  · exact .inl onRate
  · right
    have chosenPositive := positive chosen chosenLeads.member
    have otherPositive := positive farther leading.member
    have least := isFirst.le farther leading.member
    rw [chosenLeads.formatScore_le_iff leading] at least
    rcases least.lt_or_eq with less | same
    · exact .inl
        ((scaledDistance_lt_iff chosenPositive otherPositive onRate).mp less)
    · refine .inr
        ⟨(scaledDistance_eq_iff chosenPositive otherPositive onRate).mp same,
          ?_⟩
      apply isFirst.idxOf_lt
      · apply le_antisymm
        · exact (leading.formatScore_le_iff chosenLeads).mpr same.ge
        · exact isFirst.le farther leading.member
      · rintro rfl
        exact isFarther.false

/-- A candidate that stays ahead of another one forbids its choice. -/
theorem not_staysAhead_of_firstMinimum
    (positive :
      ∀ candidate ∈ candidates, 0 < candidate.format.fpsDen.toNat)
    {chosen closer : SelectedMediaType}
    (isFirst :
      FirstMinimum
        (fun candidate : SelectedMediaType =>
          formatScore candidate.format config)
        candidates chosen)
    (leading : Leading candidates config closer)
    (isCloser :
      fpsDistance closer.format config <
        fpsDistance chosen.format config) :
    ¬ StaysAhead candidates config closer chosen := by
  have chosenLeads := leading_of_firstMinimum isFirst
  have closerPositive := positive closer leading.member
  have chosenPositive := positive chosen chosenLeads.member
  have least := isFirst.le closer leading.member
  rw [chosenLeads.formatScore_le_iff leading] at least
  intro ahead
  by_cases onRate : fpsDistance closer.format config = 0
  · -- The score of a candidate with the requested rate ends with zero.
    have closerZero : (rateDifference closer.format config : ℚ) = 0 := by
      rw [rateDifference, scaledDistance_eq closerPositive]
      exact mul_eq_zero_of_left onRate _
    have chosenZero : rateDifference chosen.format config = 0 :=
      Nat.le_zero.mp (Nat.cast_eq_zero.mp closerZero ▸ least)
    have chosenExact : fpsDistance chosen.format config = 0 := by
      rw [fpsDistance, rateDistance_eq chosenPositive]
      have scaled :
          scaledDistance config.requestedFps.toNat
            chosen.format.fpsNum.toNat chosen.format.fpsDen.toNat = 0 :=
        chosenZero
      rw [scaled, Nat.cast_zero, zero_div]
    rw [onRate, chosenExact] at isCloser
    exact isCloser.false
  · rcases ahead with isExact | less | ⟨same, earlier⟩
    · exact onRate isExact
    · have smaller :=
        (scaledDistance_lt_iff closerPositive chosenPositive onRate).mpr less
      exact Nat.not_lt.mpr least smaller
    · have sameDifference :=
        (scaledDistance_eq_iff closerPositive chosenPositive onRate).mpr same
      have later : candidates.idxOf chosen < candidates.idxOf closer := by
        apply isFirst.idxOf_lt
        · apply le_antisymm
          · exact
              (leading.formatScore_le_iff chosenLeads).mpr sameDifference.le
          · exact isFirst.le closer leading.member
        · rintro rfl
          exact isCloser.false
      exact Nat.lt_asymm earlier later

/-- The choice is closest exactly when the denominators allow it. -/
theorem closest_iff_of_choose
    (positive :
      ∀ candidate ∈ candidates, 0 < candidate.format.fpsDen.toNat)
    {chosen : SelectedMediaType}
    (isChosen : choose candidates config = .ok chosen) :
    Closest candidates config chosen ↔
      DenominatorsAllow candidates config := by
  have isFirst := choose_eq_ok_iff.mp isChosen
  have chosenLeads := leading_of_firstMinimum isFirst
  constructor
  · rintro closest farther leading ⟨closer, closerLeads, isCloser⟩
    obtain ⟨sameFormat, sameResolution⟩ :=
      groupKey_eq_iff.mp (closerLeads.sameGroup chosenLeads)
    have notCloser :=
      closest.rate closer closerLeads.member sameFormat sameResolution
    have isFarther := (not_lt.mp notCloser).trans_lt isCloser
    exact ⟨chosen, chosenLeads, isFarther,
      staysAhead_of_firstMinimum positive isFirst leading isFarther⟩
  · intro allow
    refine
      { member := chosenLeads.member
        resolution := fun other member sameFormat =>
          not_closer_of_groupKey_le (chosenLeads.least other member)
            sameFormat
        rate := ?_ }
    intro other member sameFormat sameResolution isCloser
    have otherLeads :=
      chosenLeads.of_sameGroup member
        (groupKey_eq_iff.mpr ⟨sameFormat, sameResolution⟩)
    obtain ⟨closer, closerLeads, closerCloser, ahead⟩ :=
      allow chosen chosenLeads ⟨other, otherLeads, isCloser⟩
    exact
      not_staysAhead_of_firstMinimum positive isFirst closerLeads
        closerCloser ahead

/-- One denominator for all candidates is harmless. -/
theorem denominatorsAllow_of_sameDenominator
    (positive :
      ∀ candidate ∈ candidates, 0 < candidate.format.fpsDen.toNat)
    {denominator : UInt32}
    (same :
      ∀ candidate ∈ candidates, candidate.format.fpsDen = denominator) :
    DenominatorsAllow candidates config := by
  rintro farther leading ⟨closer, closerLeads, isCloser⟩
  refine ⟨closer, closerLeads, isCloser, ?_⟩
  by_cases onRate : fpsDistance closer.format config = 0
  · exact .inl onRate
  · have nonzero : (closer.format.fpsDen.toNat : ℚ) ≠ 0 :=
      Nat.cast_ne_zero.mpr (positive closer closerLeads.member).ne'
    have distancePositive : 0 < fpsDistance closer.format config :=
      rateDistance_nonneg.lt_of_ne' onRate
    right; left
    rw [denominatorFactor, distanceFactor, same farther leading.member,
      ← same closer closerLeads.member, div_self nonzero,
      one_lt_div distancePositive]
    exact isCloser

/--
`choose_media_type` chooses a closest format exactly when the denominators of
the candidates allow it; a single denominator does.
-/
theorem chooseMediaType_closest_iff
    (native : List MediaType)
    (config : StreamConfig)
    (nonempty : CamRtsp.candidates native ≠ []) :
    ∃ chosen,
      chooseMediaType native config = .ok chosen ∧
        (Closest (CamRtsp.candidates native) config chosen ↔
          DenominatorsAllow (CamRtsp.candidates native) config) ∧
        ∀ denominator,
          (∀ candidate ∈ CamRtsp.candidates native,
            candidate.format.fpsDen = denominator) →
            Closest (CamRtsp.candidates native) config chosen := by
  obtain ⟨chosen, isChosen⟩ :
      ∃ chosen, choose (CamRtsp.candidates native) config = .ok chosen :=
    exists_chosen nonempty
  have positive :
      ∀ candidate ∈ CamRtsp.candidates native,
        0 < candidate.format.fpsDen.toNat :=
    fun _ => fpsDen_pos_of_mem_candidates
  have closest := closest_iff_of_choose positive isChosen
  exact ⟨chosen, isChosen, closest, fun denominator same =>
    closest.mpr (denominatorsAllow_of_sameDenominator positive same)⟩

end Choice

/-- A native NV12 candidate of 1280 by 720. -/
def sampleCandidate (fpsNum fpsDen : UInt32) : SelectedMediaType where
  mediaType := {
    subtype := some .nv12
    frameSize := some ((1280 : UInt64) <<< 32 ||| 720)
    frameRate := some (fpsNum.toUInt64 <<< 32 ||| fpsDen.toUInt64)
  }
  format := {
    width := 1280
    height := 720
    fpsNum := fpsNum
    fpsDen := fpsDen
    pixelFormat := .nv12
  }

/-- A request for 1280 by 720 at thirty frames. -/
def sampleConfig : StreamConfig where
  requestedWidth := 1280
  requestedHeight := 720
  requestedFps := 30
  bitrate := .auto
  gopSeconds := 2

/-- Two native types, the second with the closer rate. -/
def sampleNative : List MediaType :=
  [(sampleCandidate 15 1).mediaType,
    (sampleCandidate 10000000 333333).mediaType]

/-- At thirty frames 10000000/333333 is preferred to 15/1. -/
theorem chooseMediaType_closest_iff_sample :
    ∃ chosen,
      chooseMediaType sampleNative sampleConfig = .ok chosen ∧
        Closest (candidates sampleNative) sampleConfig chosen := by
  have found :
      candidates sampleNative =
        [sampleCandidate 15 1, sampleCandidate 10000000 333333] := by
    decide
  have slowDen : (sampleCandidate 15 1).format.fpsDen.toNat = 1 := rfl
  have nearDen :
      (sampleCandidate 10000000 333333).format.fpsDen.toNat = 333333 :=
    rfl
  have slow :
      fpsDistance (sampleCandidate 15 1).format sampleConfig = 15 := by
    have difference :
        scaledDistance sampleConfig.requestedFps.toNat
            (sampleCandidate 15 1).format.fpsNum.toNat 1 = 15 := by
      decide
    rw [fpsDistance, slowDen, rateDistance_eq (by decide), difference]
    norm_num
  have near :
      fpsDistance (sampleCandidate 10000000 333333).format sampleConfig =
        10 / 333333 := by
    have difference :
        scaledDistance sampleConfig.requestedFps.toNat
            (sampleCandidate 10000000 333333).format.fpsNum.toNat
            333333 = 10 := by
      decide
    rw [fpsDistance, nearDen, rateDistance_eq (by decide), difference]
    norm_num
  have allow :
      DenominatorsAllow (candidates sampleNative) sampleConfig := by
    rintro farther ⟨member, _⟩ ⟨closer, closerLeads, isCloser⟩
    refine ⟨closer, closerLeads, isCloser, ?_⟩
    have closerMember := closerLeads.member
    rw [found] at member closerMember
    simp only [List.mem_cons, List.not_mem_nil, or_false]
      at member closerMember
    rcases member with rfl | rfl
    · rcases closerMember with rfl | rfl
      · exact (isCloser.false).elim
      · right; left
        rw [denominatorFactor, distanceFactor, slow, near, slowDen, nearDen]
        norm_num
    · rcases closerMember with rfl | rfl
      · rw [slow, near] at isCloser
        norm_num at isCloser
      · exact (isCloser.false).elim
  obtain ⟨chosen, isChosen, closest, _⟩ :=
    chooseMediaType_closest_iff sampleNative sampleConfig
      (by rw [found]; exact List.cons_ne_nil _ _)
  exact ⟨chosen, isChosen, closest.mpr allow⟩

/-- At thirty frames 25/1 is preferred to 30000/1001. -/
theorem choose_slower :
    sampleConfig.validate = .ok () ∧
      candidates
          [(sampleCandidate 30000 1001).mediaType,
            (sampleCandidate 25 1).mediaType] =
        [sampleCandidate 30000 1001, sampleCandidate 25 1] ∧
      chooseMediaType
          [(sampleCandidate 30000 1001).mediaType,
            (sampleCandidate 25 1).mediaType]
          sampleConfig =
        .ok (sampleCandidate 25 1) ∧
      ¬ Closest [sampleCandidate 30000 1001, sampleCandidate 25 1]
        sampleConfig (sampleCandidate 25 1) := by
  refine ⟨by decide, by decide, ?_, ?_⟩
  · rfl
  · intro closest
    have farther :=
      closest.rate (sampleCandidate 30000 1001) (by simp) rfl rfl
    rw [not_lt, fpsDistance_le_iff (by decide) (by decide)] at farther
    exact absurd farther (by decide)

end CamRtsp
