import CamRtsp.BroadcasterDelivery
import CamRtsp.SequenceHeader

namespace CamRtsp

open RustText

/-!
# The Windows encoder and the codec configuration

For every sample the encoder first announces the parameter sets of its media
type, then those inside the sample, then publishes.  The broadcaster takes any
difference for a codec change.  The result says when such a change hits a sample
that is no keyframe.
-/

/-- An encoder output sample. -/
structure EncodedSample where
  bytes : Except String Bytes
  cleanPoint : Option UInt32
  time : Option Int64
  duration : Option Int64
  publishedAt : Instant

/-- `hns_to_90khz`, from units of 100 nanoseconds. -/
def hnsTo90khz (value : Int64) : UInt32 :=
  UInt32.ofNat
    (min (value.toInt.toNat * 9) (UInt64.size - 1) / 1000)

namespace EncodedSample

variable (sample : EncodedSample)

/-- The NAL units of the sample, if its bytes can be read. -/
def nalUnits : List Bytes :=
  match sample.bytes with
  | .ok bytes => Windows.splitH264 bytes
  | .error _ => []

/-- The configuration of the parameter sets inside the sample. -/
def codec : Option CodecConfig :=
  codecConfigFromNalUnits sample.nalUnits

/-- The sample is flagged as a clean point or contains an IDR slice. -/
def keyframe : Bool :=
  sample.cleanPoint.getD 0 != 0 || hasNalType sample.nalUnits 5

/-- The published access unit. -/
def accessUnit : EncodedAccessUnit where
  nalUnits := sample.nalUnits
  pts90khz := hnsTo90khz (sample.time.getD 0)
  duration90khz := hnsTo90khz (sample.duration.getD 0)
  keyframe := sample.keyframe

end EncodedSample

/-- `codec_config_from_media_type`, on the blob if there is one. -/
def codecConfigFromMediaType (header : Option Bytes) : Option CodecConfig :=
  header.bind codecConfigFromSequenceHeader

/-- The calls of `publish_encoded_sample` on the sink, and its result. -/
def publishEncodedSample
    (header : Option Bytes)
    (sample : EncodedSample) :
    List Broadcaster.Operation × Except String Unit :=
  let announced :=
    (codecConfigFromMediaType header).toList.map .setCodecConfig
  match sample.bytes with
  | .error message => (announced, .error message)
  | .ok _ =>
      if sample.nalUnits = [] then
        (announced, .error "H.264 encoder emitted an empty access unit")
      else
        (announced ++ sample.codec.toList.map .setCodecConfig ++
            [.publish sample.accessUnit sample.publishedAt],
          .ok ())

/-- `SynchronousMftEncoder::publish_sample` has the same body. -/
def SynchronousMftEncoder.publishSample
    (header : Option Bytes)
    (sample : EncodedSample) :
    List Broadcaster.Operation × Except String Unit :=
  publishEncodedSample header sample

/-- A call on the sink, and the sample it is made for. -/
structure SinkCall where
  sample : EncodedSample
  operation : Broadcaster.Operation

/-- The calls for a sequence of samples. -/
def sinkCalls
    (header : Option Bytes)
    (samples : List EncodedSample) : List SinkCall :=
  samples.flatMap fun sample =>
    (publishEncodedSample header sample).1.map ({ sample, operation := · })

/-- What other threads do with the broadcaster meanwhile. -/
inductive ViewerActivity where
  | subscribe
  | setFrameRate (numerator denominator : UInt32)
  | takeKeyframeRequest
  | recvTimeout (id : SubscriptionId)
  | drop (id : SubscriptionId)

/-- The activity as an operation of the broadcaster. -/
def ViewerActivity.operation : ViewerActivity → Broadcaster.Operation
  | .subscribe => .subscribe
  | .setFrameRate numerator denominator =>
      .setFrameRate numerator denominator
  | .takeKeyframeRequest => .takeKeyframeRequest
  | .recvTimeout id => .recvTimeout id
  | .drop id => .drop id

/-- One event of an interleaving. -/
inductive SinkEvent where
  | encoder (call : SinkCall)
  | viewer (activity : ViewerActivity)

namespace SinkEvent

/-- The operation of the event. -/
def operation : SinkEvent → Broadcaster.Operation
  | .encoder call => call.operation
  | .viewer activity => activity.operation

/-- The call of the encoder, if the event is one. -/
def call? : SinkEvent → Option SinkCall
  | .encoder call => some call
  | .viewer _ => none

/-- The broadcaster behind the events. -/
def run (events : List SinkEvent) : Broadcaster :=
  Broadcaster.initial.run (events.map operation)

end SinkEvent

/-- The configuration leaves all viewers alone. -/
structure LeavesViewers
    (broadcaster : Broadcaster)
    (codec : CodecConfig) : Prop where
  notCleared :
    ∀ id, broadcaster.alive id = true →
      broadcaster.replacesCodec codec = false
  sameQueues :
    ∀ id, broadcaster.alive id = true →
      (broadcaster.step (.setCodecConfig codec)).queue id =
        broadcaster.queue id

/--
Whatever else happens, no `set_codec_config` made for a sample that is no
keyframe clears the queue of a viewer.
-/
def NeverResets
    (header : Option Bytes)
    (samples : List EncodedSample) : Prop :=
  ∀ before sample codec after,
    (before ++ .encoder ⟨sample, .setCodecConfig codec⟩ ::
        after).filterMap SinkEvent.call? <+: sinkCalls header samples →
      sample.keyframe = false →
        LeavesViewers (SinkEvent.run before) codec

/--
The parameter sets inside all samples are the same, and every keyframe has
both.
-/
structure StableEncoder (samples : List EncodedSample) : Prop where
  sameSps :
    ∀ first ∈ samples, ∀ second ∈ samples,
      ∀ sps ∈ first.nalUnits, ∀ other ∈ second.nalUnits,
        nalType sps = some 7 → nalType other = some 7 → sps = other
  samePps :
    ∀ first ∈ samples, ∀ second ∈ samples,
      ∀ pps ∈ first.nalUnits, ∀ other ∈ second.nalUnits,
        nalType pps = some 8 → nalType other = some 8 → pps = other
  carried :
    ∀ sample ∈ samples, sample.keyframe = true →
      hasNalType sample.nalUnits 7 = true ∧
        hasNalType sample.nalUnits 8 = true

/--
No sample but a keyframe carries other parameter sets than the media type, or
follows a sample that does.
-/
def AgreesWith (media : CodecConfig) :
    Option EncodedSample → List EncodedSample → Prop
  | _, [] => True
  | previous, sample :: later =>
      (sample.keyframe = false →
        (∀ codec ∈ sample.codec, SameSets media codec) ∧
          ∀ earlier ∈ previous, ∀ codec ∈ earlier.codec,
            SameSets media codec) ∧
        AgreesWith media (some sample) later

instance decidableAgreesWith (media : CodecConfig) :
    (previous : Option EncodedSample) →
      (samples : List EncodedSample) →
        Decidable (AgreesWith media previous samples)
  | _, [] => inferInstanceAs (Decidable True)
  | _, sample :: later =>
      have := decidableAgreesWith media (some sample) later
      inferInstanceAs (Decidable (_ ∧ _))

/-- The media type has no readable parameter sets, or it agrees. -/
def HeaderAgrees
    (header : Option Bytes)
    (samples : List EncodedSample) : Prop :=
  ∀ media ∈ codecConfigFromMediaType header,
    AgreesWith media none samples

instance (header : Option Bytes) (samples : List EncodedSample) :
    Decidable (HeaderAgrees header samples) :=
  inferInstanceAs (Decidable (∀ media ∈ _, _))

/-! ## Calls that keep the parameter sets -/

namespace SinkCall

/-- The configuration behind a call. -/
def after (current : Option CodecConfig) (call : SinkCall) :
    Option CodecConfig :=
  match call.operation with
  | .setCodecConfig codec => some codec
  | _ => current

/-- The call changes nothing, or its sample is a keyframe. -/
def Keeps (current : Option CodecConfig) (call : SinkCall) : Prop :=
  match call.operation with
  | .setCodecConfig codec =>
      call.sample.keyframe = false →
        ∀ old ∈ current, SameSets old codec
  | _ => True

/-- All calls keep what they find. -/
def AllKeep : Option CodecConfig → List SinkCall → Prop
  | _, [] => True
  | current, call :: later =>
      call.Keeps current ∧ AllKeep (call.after current) later

theorem allKeep_append
    (current : Option CodecConfig)
    (first second : List SinkCall) :
    AllKeep current (first ++ second) ↔
      AllKeep current first ∧
        AllKeep (first.foldl after current) second := by
  induction first generalizing current with
  | nil =>
      simp [AllKeep]
  | cons call later inductionHypothesis =>
      simp [AllKeep, inductionHypothesis, and_assoc]

/-- All calls keep what they find when each one does. -/
theorem allKeep_iff
    {current : Option CodecConfig}
    {calls : List SinkCall} :
    AllKeep current calls ↔
      ∀ before call later, calls = before ++ call :: later →
        call.Keeps (before.foldl after current) := by
  constructor
  · rintro keep before call later rfl
    exact ((allKeep_append current before _).mp keep).2.1
  · intro each
    induction calls generalizing current with
    | nil =>
        trivial
    | cons call calls inductionHypothesis =>
        refine ⟨each [] call calls rfl, inductionHypothesis ?_⟩
        rintro before other later rfl
        exact each (call :: before) other later rfl

end SinkCall

namespace Broadcaster

/-- A configuration with the same sets leaves all queues alone. -/
theorem leavesViewers_of_same
    {broadcaster : Broadcaster}
    (wellFormed : broadcaster.WellFormed)
    {codec : CodecConfig}
    (same : ∀ old ∈ broadcaster.state.codec, SameSets old codec) :
    LeavesViewers broadcaster codec where
  notCleared := fun _ _ => replacesCodec_eq_false_iff.mpr same
  sameQueues := fun id isAlive =>
    queue_step_foreign wellFormed
      (wellFormed.known id (wellFormed.served id isAlive)) same

end Broadcaster

namespace SinkEvent

/-- The configuration is the last one that the encoder has set. -/
theorem codec_run (events : List SinkEvent) :
    (run events).state.codec =
      (events.filterMap call?).foldl SinkCall.after none := by
  induction events using List.reverseRecOn with
  | nil =>
      rfl
  | append_singleton events event inductionHypothesis =>
      have last :
          (run (events ++ [event])).state.codec =
            ((run events).step event.operation).state.codec := by
        simp [run, Broadcaster.run]
      rw [last, Broadcaster.codec_step, inductionHypothesis,
        List.filterMap_append, List.foldl_append]
      cases event with
      | encoder call =>
          cases isCall : call.operation <;>
            simp [operation, call?, SinkCall.after, isCall]
      | viewer activity =>
          cases activity <;>
            simp [operation, call?, ViewerActivity.operation,
              List.filterMap_cons]

theorem wellFormed_run (events : List SinkEvent) :
    (run events).WellFormed :=
  Broadcaster.wellFormed_initial.run _

end SinkEvent

section Calls

variable {header : Option Bytes}
variable {samples : List EncodedSample}

/-- The encoder never ends a subscription. -/
theorem operation_ne_drop
    {call : SinkCall}
    (member : call ∈ sinkCalls header samples)
    (id : SubscriptionId) :
    call.operation ≠ .drop id := by
  obtain ⟨sample, _, made⟩ := List.mem_flatMap.mp member
  obtain ⟨operation, isCall, rfl⟩ := List.mem_map.mp made
  rintro rfl
  unfold publishEncodedSample at isCall
  simp only at isCall
  split at isCall
  · simp at isCall
  · split at isCall <;> simp at isCall

/-- The encoder's calls in a row, behind a new subscription. -/
def watched (calls : List SinkCall) : List SinkEvent :=
  .viewer .subscribe :: calls.map SinkEvent.encoder

theorem filterMap_encoder (calls : List SinkCall) :
    (calls.map SinkEvent.encoder).filterMap SinkEvent.call? = calls := by
  induction calls with
  | nil =>
      rfl
  | cons call calls inductionHypothesis =>
      simp [SinkEvent.call?, inductionHypothesis]

theorem filterMap_watched (calls : List SinkCall) :
    (watched calls).filterMap SinkEvent.call? = calls := by
  rw [watched, List.filterMap_cons]
  exact filterMap_encoder calls

/-- The subscription exists during the calls. -/
theorem alive_watched
    {calls : List SinkCall}
    (keeps : ∀ call ∈ calls, call.operation ≠ .drop 0) :
    (SinkEvent.run (watched calls)).alive 0 = true := by
  have notDropped :
      Broadcaster.Operation.drop 0 ∉
        (calls.map SinkEvent.encoder).map SinkEvent.operation := by
    intro dropped
    rw [List.map_map] at dropped
    obtain ⟨call, member, isDrop⟩ := List.mem_map.mp dropped
    exact keeps call member isDrop
  have known :
      0 < (Broadcaster.initial.step .subscribe).shared.length :=
    Nat.zero_lt_one
  have alive :=
    Broadcaster.alive_run
      (Broadcaster.wellFormed_initial.step .subscribe) known
      ((calls.map SinkEvent.encoder).map SinkEvent.operation)
  rw [decide_eq_true notDropped] at alive
  exact alive

/-- Viewers are left alone exactly when the calls keep what they find. -/
theorem neverResets_iff_allKeep :
    NeverResets header samples ↔
      SinkCall.AllKeep none (sinkCalls header samples) := by
  rw [SinkCall.allKeep_iff]
  constructor
  · rintro never before ⟨sample, operation⟩ later split
    cases operation with
    | setCodecConfig codec =>
        intro notKeyframe
        have made :
            (watched before ++
                .encoder ⟨sample, .setCodecConfig codec⟩ ::
                  later.map SinkEvent.encoder).filterMap
                SinkEvent.call? =
              sinkCalls header samples := by
          rw [List.filterMap_append, filterMap_watched, split,
            List.filterMap_cons, filterMap_encoder]
          rfl
        have leaves :=
          never (watched before) sample codec _
            ⟨[], by rw [made, List.append_nil]⟩ notKeyframe
        have isAlive : (SinkEvent.run (watched before)).alive 0 = true := by
          refine alive_watched fun call member => ?_
          have made : call ∈ sinkCalls header samples := by
            rw [split]
            exact List.mem_append_left _ member
          exact operation_ne_drop made 0
        have same :=
          Broadcaster.replacesCodec_eq_false_iff.mp
            (leaves.notCleared 0 isAlive)
        rw [SinkEvent.codec_run, filterMap_watched] at same
        exact same
    | _ =>
        trivial
  · intro keeps before sample codec after isPrefix notKeyframe
    obtain ⟨rest, split⟩ := isPrefix
    rw [List.filterMap_append, List.filterMap_cons, List.append_assoc]
      at split
    have same := keeps _ _ _ split.symm notKeyframe
    rw [← SinkEvent.codec_run] at same
    exact Broadcaster.leavesViewers_of_same
      (SinkEvent.wellFormed_run before) same

end Calls

/-! ## The calls of one sample -/

section Sample

variable {header : Option Bytes}
variable {sample : EncodedSample}
variable {current : Option CodecConfig}

/-- A sample without NAL units has no parameter sets. -/
theorem codec_of_nalUnits_eq_nil (empty : sample.nalUnits = []) :
    sample.codec = none := by
  simp [EncodedSample.codec, empty, codecConfigFromNalUnits]

/-- The calls of a sample up to those that touch no configuration. -/
theorem calls_eq
    (header : Option Bytes)
    (sample : EncodedSample) :
    (publishEncodedSample header sample).1 =
      (codecConfigFromMediaType header).toList.map .setCodecConfig ++
        sample.codec.toList.map .setCodecConfig ++
        if sample.nalUnits = [] then
          []
        else
          [.publish sample.accessUnit sample.publishedAt] := by
  unfold publishEncodedSample
  simp only
  split
  · rename_i message unreadable
    have empty : sample.nalUnits = [] := by
      simp [EncodedSample.nalUnits, unreadable]
    simp [empty, codec_of_nalUnits_eq_nil empty]
  · split
    · rename_i empty
      simp [codec_of_nalUnits_eq_nil empty]
    · rfl

/-- The sample behind its calls to the sink. -/
def sampleCalls
    (header : Option Bytes)
    (sample : EncodedSample) : List SinkCall :=
  (publishEncodedSample header sample).1.map ({ sample, operation := · })

/-- The configuration that a sample leaves behind. -/
theorem after_sampleCalls :
    (sampleCalls header sample).foldl SinkCall.after current =
      sample.codec.or
        ((codecConfigFromMediaType header).or current) := by
  rw [sampleCalls, calls_eq]
  cases codecConfigFromMediaType header <;>
    cases sample.codec <;>
      split <;> rfl

/-- When the calls of a sample keep the parameter sets. -/
theorem allKeep_sampleCalls :
    SinkCall.AllKeep current (sampleCalls header sample) ↔
      (sample.keyframe = false →
        (∀ media ∈ codecConfigFromMediaType header,
          ∀ old ∈ current, SameSets old media) ∧
        ∀ codec ∈ sample.codec,
          ∀ old ∈ (codecConfigFromMediaType header).or current,
            SameSets old codec) := by
  rw [sampleCalls, calls_eq]
  cases codecConfigFromMediaType header <;>
    cases sample.codec <;>
      split <;>
        simp [SinkCall.AllKeep, SinkCall.Keeps, SinkCall.after,
          imp_and]

end Sample

/-! ## The calls of all samples -/

section Samples

variable {header : Option Bytes}
variable {samples : List EncodedSample}
variable {media : CodecConfig}

theorem sinkCalls_cons (sample : EncodedSample) :
    sinkCalls header (sample :: samples) =
      sampleCalls header sample ++ sinkCalls header samples :=
  rfl

/-- What a sample finds when the media type has parameter sets. -/
def foundBehind (media : CodecConfig) (previous : Option EncodedSample) :
    Option CodecConfig :=
  previous.bind fun sample => sample.codec.or (some media)

/-- The media type agrees with what a sample finds behind the previous one. -/
theorem same_foundBehind_iff {previous : Option EncodedSample} :
    (∀ old ∈ foundBehind media previous, SameSets old media) ↔
      ∀ earlier ∈ previous, ∀ codec ∈ earlier.codec,
        SameSets media codec := by
  cases previous with
  | none =>
      simp [foundBehind]
  | some earlier =>
      cases isCodec : earlier.codec with
      | none =>
          simp [foundBehind, isCodec, SameSets]
      | some codec =>
          simp only [foundBehind, isCodec, Option.bind_some,
            Option.some_or, Option.mem_some_iff, forall_eq']
          exact ⟨SameSets.symm, SameSets.symm⟩

/-- With parameter sets in the media type, by induction on the samples. -/
theorem allKeep_iff_agreesWith
    (known : codecConfigFromMediaType header = some media)
    (previous : Option EncodedSample) :
    SinkCall.AllKeep (foundBehind media previous)
        (sinkCalls header samples) ↔
      AgreesWith media previous samples := by
  induction samples generalizing previous with
  | nil =>
      exact Iff.rfl
  | cons sample samples inductionHypothesis =>
      have behind :
          (sampleCalls header sample).foldl SinkCall.after
              (foundBehind media previous) =
            foundBehind media (some sample) := by
        rw [after_sampleCalls, known]
        rfl
      rw [sinkCalls_cons, SinkCall.allKeep_append, behind,
        inductionHypothesis, allKeep_sampleCalls, known, AgreesWith]
      refine and_congr_left fun _ => imp_congr_right fun _ => ?_
      simp only [Option.mem_some_iff, forall_eq', Option.some_or,
        same_foundBehind_iff]
      exact and_comm

/-- Without them, the sets inside the samples only meet each other. -/
theorem allKeep_of_same
    (unknown : codecConfigFromMediaType header = none)
    {current : Option CodecConfig}
    (sameCurrent :
      ∀ old ∈ current, ∀ sample ∈ samples, ∀ codec ∈ sample.codec,
        SameSets old codec)
    (same :
      ∀ first ∈ samples, ∀ second ∈ samples,
        ∀ codec ∈ first.codec, ∀ other ∈ second.codec,
          SameSets codec other) :
    SinkCall.AllKeep current (sinkCalls header samples) := by
  induction samples generalizing current with
  | nil =>
      trivial
  | cons sample samples inductionHypothesis =>
      rw [sinkCalls_cons, SinkCall.allKeep_append, allKeep_sampleCalls,
        after_sampleCalls, unknown, Option.none_or]
      constructor
      · intro _
        exact ⟨by simp, fun codec member old isOld =>
          sameCurrent old isOld sample (by simp) codec member⟩
      · apply inductionHypothesis
        · intro old isOld other member codec isCodec
          cases found : sample.codec with
          | none =>
              rw [found, Option.none_or] at isOld
              exact sameCurrent old isOld other (by simp [member])
                codec isCodec
          | some carried =>
              rw [found, Option.some_or] at isOld
              exact same sample (by simp) other (by simp [member]) old
                (found ▸ isOld) codec isCodec
        · intro first firstMember second secondMember
          exact same first (by simp [firstMember]) second
            (by simp [secondMember])

/-- The configuration of a sample has parameter sets from its units. -/
theorem sets_of_codec
    {sample : EncodedSample}
    {codec : CodecConfig}
    (isCodec : sample.codec = some codec) :
    (codec.sps ∈ sample.nalUnits ∧ nalType codec.sps = some 7) ∧
      codec.pps ∈ sample.nalUnits ∧ nalType codec.pps = some 8 := by
  simp only [EncodedSample.codec, codecConfigFromNalUnits, describedBy,
    Option.bind_eq_bind, Option.bind_eq_some_iff] at isCodec
  obtain ⟨sps, foundSps, pps, foundPps, _, _, _, _, _, _, described⟩ :=
    isCodec
  obtain rfl := Option.some.inj described
  exact ⟨⟨List.mem_of_find?_eq_some foundSps,
      by simpa using List.find?_some foundSps⟩,
    List.mem_of_find?_eq_some foundPps,
    by simpa using List.find?_some foundPps⟩

/-- A stable encoder carries the same configuration everywhere. -/
theorem StableEncoder.sameSets
    (stable : StableEncoder samples)
    {first second : EncodedSample}
    (firstMember : first ∈ samples)
    (secondMember : second ∈ samples)
    {codec other : CodecConfig}
    (isCodec : codec ∈ first.codec)
    (isOther : other ∈ second.codec) :
    SameSets codec other := by
  obtain ⟨⟨sps, isSps⟩, pps, isPps⟩ := sets_of_codec isCodec
  obtain ⟨⟨otherSps, isOtherSps⟩, otherPps, isOtherPps⟩ :=
    sets_of_codec isOther
  exact ⟨stable.sameSps first firstMember second secondMember _ sps _
      otherSps isSps isOtherSps,
    stable.samePps first firstMember second secondMember _ pps _
      otherPps isPps isOtherPps⟩

/--
A stable encoder leaves its viewers alone between keyframes if and only if its
media type agrees with the samples around which it is announced.
-/
theorem stable_encoder_iff
    (header : Option Bytes)
    (stable : StableEncoder samples) :
    NeverResets header samples ↔ HeaderAgrees header samples := by
  rw [neverResets_iff_allKeep]
  cases known : codecConfigFromMediaType header with
  | some media =>
      have agrees :
          SinkCall.AllKeep none (sinkCalls header samples) ↔
            AgreesWith media none samples :=
        allKeep_iff_agreesWith known none
      simp only [HeaderAgrees, known, Option.mem_some_iff, forall_eq']
      exact agrees
  | none =>
      refine iff_of_true ?_ ?_
      · exact allKeep_of_same known (by simp)
          fun first firstMember second secondMember codec isCodec other =>
            stable.sameSets firstMember secondMember isCodec
      · simp [HeaderAgrees, known]

end Samples

/-- A sample of readable bytes. -/
def readableSample (bytes : Bytes) (cleanPoint : UInt32) : EncodedSample where
  bytes := .ok bytes
  cleanPoint := some cleanPoint
  time := some 0
  duration := some 333333
  publishedAt := 0

/-- A keyframe with its parameter sets, and a slice that refers to it. -/
def samplePair : List EncodedSample :=
  [readableSample
      [0, 0, 1, 0x67, 0x42, 0, 0x1e, 0, 0, 1, 0x68, 1, 0, 0, 1, 0x65, 1]
      1,
    readableSample [0, 0, 1, 0x41, 1] 0]

/-- The units of the two samples. -/
theorem nalUnits_samplePair :
    samplePair.map EncodedSample.nalUnits =
      [[[0x67, 0x42, 0, 0x1e], [0x68, 1], [0x65, 1]], [[0x41, 1]]] := by
  decide

theorem mem_of_mem_samplePair
    {sample : EncodedSample}
    (member : sample ∈ samplePair)
    {nal : Bytes}
    (inside : nal ∈ sample.nalUnits) :
    nal ∈
      ([[0x67, 0x42, 0, 0x1e], [0x68, 1], [0x65, 1], [0x41, 1]] :
        List Bytes) := by
  have listed : sample.nalUnits ∈ samplePair.map EncodedSample.nalUnits :=
    List.mem_map_of_mem member
  rw [nalUnits_samplePair] at listed
  have flat := List.mem_flatten_of_mem listed inside
  simpa using flat

theorem stable_samplePair : StableEncoder samplePair := by
  have isSps
      (nal : Bytes)
      (member :
        nal ∈
          ([[0x67, 0x42, 0, 0x1e], [0x68, 1], [0x65, 1], [0x41, 1]] :
            List Bytes)) :
      (nalType nal = some 7 → nal = [0x67, 0x42, 0, 0x1e]) ∧
        (nalType nal = some 8 → nal = [0x68, 1]) := by
    simp only [List.mem_cons, List.not_mem_nil, or_false] at member
    rcases member with rfl | rfl | rfl | rfl <;> decide
  exact {
    sameSps := by
      intro first firstMember second secondMember sps inFirst other
        inSecond spsType otherType
      rw [(isSps sps (mem_of_mem_samplePair firstMember inFirst)).1
          spsType,
        (isSps other (mem_of_mem_samplePair secondMember inSecond)).1
          otherType]
    samePps := by
      intro first firstMember second secondMember pps inFirst other
        inSecond ppsType otherType
      rw [(isSps pps (mem_of_mem_samplePair firstMember inFirst)).2
          ppsType,
        (isSps other (mem_of_mem_samplePair secondMember inSecond)).2
          otherType]
    carried :=
      List.forall_mem_cons.mpr
        ⟨by decide, List.forall_mem_singleton.mpr (by decide)⟩
  }

/-- A media type with the same parameter sets never resets its viewers. -/
theorem stable_encoder_iff_same_header :
    NeverResets
      (some [0, 0, 1, 0x67, 0x42, 0, 0x1e, 0, 0, 1, 0x68, 1])
      samplePair :=
  (stable_encoder_iff _ stable_samplePair).mpr (by decide)

/-- A media type with another level resets them behind every keyframe. -/
theorem stable_encoder_resets :
    StableEncoder samplePair ∧
      ¬ NeverResets
        (some [0, 0, 1, 0x67, 0x42, 0, 0x1f, 0, 0, 1, 0x68, 1])
        samplePair := by
  refine ⟨stable_samplePair, ?_⟩
  have known :
      codecConfigFromMediaType
          (some [0, 0, 1, 0x67, 0x42, 0, 0x1f, 0, 0, 1, 0x68, 1]) =
        some {
          sps := [0x67, 0x42, 0, 0x1f]
          pps := [0x68, 1]
          profileLevelId := (0x42, 0, 0x1f) } := by
    decide
  rw [neverResets_iff_allKeep]
  intro keep
  have agrees : AgreesWith _ none samplePair :=
    (allKeep_iff_agreesWith known none).mp keep
  exact absurd agrees (by decide)

end CamRtsp
