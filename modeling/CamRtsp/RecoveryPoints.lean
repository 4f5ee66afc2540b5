import CamRtsp.BroadcasterDelivery

namespace CamRtsp

open RustText

/-!
# Parameter sets at recovery points

`publish` completes a keyframe with the parameter sets of the stream.  The two
sets are looked for and inserted one by one, always at the very front, so the
result is in a legal order only for some access units.
-/

/-- The NAL unit has the given type. -/
def isOfType (type : UInt8) (nal : Bytes) : Bool :=
  nalType nal == some type

/-- A coded slice. -/
def isSlice (nal : Bytes) : Bool :=
  (nalType nal).any fun type => decide (1 ≤ type) && decide (type ≤ 5)

/--
A keyframe whose own parameter sets come before its first slice and whose
sequence parameter sets come before its picture parameter sets.
-/
structure RecoveryInput
    (codec : CodecConfig)
    (accessUnit : EncodedAccessUnit) : Prop where
  spsType : nalType codec.sps = some 7
  ppsType : nalType codec.pps = some 8
  keyframe : IsKeyframe accessUnit
  beforeSlices :
    accessUnit.nalUnits.Pairwise fun earlier later =>
      isSlice earlier = true →
        isOfType 7 later = false ∧ isOfType 8 later = false
  ordered :
    accessUnit.nalUnits.Pairwise fun earlier later =>
      isOfType 8 earlier = true → isOfType 7 later = false

/-- A complete access unit in an order that decoders accept. -/
structure LegalRecoveryPoint
    (codec : CodecConfig)
    (original handed : List Bytes) : Prop where
  kept : original.Sublist handed
  added :
    ∃ inserted : List Bytes,
      inserted.Sublist [codec.sps, codec.pps] ∧
        handed.Perm (inserted ++ original)
  hasSps : ∃ nal ∈ handed, isOfType 7 nal = true
  hasPps : ∃ nal ∈ handed, isOfType 8 nal = true
  spsFirst :
    handed.findIdx (isOfType 7) < handed.findIdx (isOfType 8)
  spsBeforeSlices :
    handed.findIdx (isOfType 7) < handed.findIdx isSlice
  ppsBeforeSlices :
    handed.findIdx (isOfType 8) < handed.findIdx isSlice
  delimiterFirst :
    ∀ nal ∈ original.head?, isOfType 9 nal = true →
      handed.head? = some nal

/--
Both parameter sets are there, or the sequence parameter set is missing and no
access unit delimiter is in front.
-/
def InsertsLegally (nalUnits : List Bytes) : Prop :=
  (hasNalType nalUnits 7 = true ∧ hasNalType nalUnits 8 = true) ∨
    (hasNalType nalUnits 7 = false ∧
      ∀ nal ∈ nalUnits.head?, isOfType 9 nal = false)

/-- The first of one kind comes first when none follows the other kind. -/
theorem findIdx_lt_findIdx
    {α : Type}
    {first second : α → Bool}
    {items : List α}
    (exists_first : ∃ item ∈ items, first item = true)
    (disjoint : ∀ item, second item = true → first item = false)
    (ordered :
      items.Pairwise fun earlier later =>
        second earlier = true → first later = false) :
    items.findIdx first < items.findIdx second := by
  induction items with
  | nil =>
      simp at exists_first
  | cons head tail inductionHypothesis =>
      obtain ⟨headFirst, tailOrdered⟩ := List.pairwise_cons.mp ordered
      cases isFirst : first head with
      | true =>
          have notSecond : second head = false := by
            by_contra isSecond
            simp [disjoint head (by simpa using isSecond)] at isFirst
          simp [List.findIdx_cons, isFirst, notSecond]
      | false =>
          have inTail : ∃ item ∈ tail, first item = true := by
            simpa [isFirst] using exists_first
          obtain ⟨item, member, itemFirst⟩ := inTail
          have notSecond : second head = false := by
            by_contra isSecond
            simp [headFirst item member (by simpa using isSecond)]
              at itemFirst
          have later :=
            inductionHypothesis ⟨item, member, itemFirst⟩ tailOrdered
          simpa [List.findIdx_cons, isFirst, notSecond] using later

/-- A NAL unit has one type. -/
theorem not_isOfType
    {nal : Bytes}
    {type other : UInt8}
    (isOther : nalType nal = some other)
    (different : other ≠ type) :
    isOfType type nal = false := by
  simp [isOfType, isOther, different]

theorem not_isSlice
    {nal : Bytes}
    {type : UInt8}
    (isType : nalType nal = some type)
    (beyond : 5 < type) :
    isSlice nal = false := by
  simp [isSlice, isType, UInt8.not_le.mpr beyond]

theorem type_of_isOfType
    {nal : Bytes}
    {type : UInt8}
    (ofType : isOfType type nal = true) :
    nalType nal = some type := by
  simpa [isOfType] using ofType

/-- A parameter set is no slice. -/
theorem not_parameterSet_of_isSlice
    {nal : Bytes}
    {type : UInt8}
    (slice : isSlice nal = true)
    (beyond : 5 < type) :
    isOfType type nal = false := by
  by_contra isSet
  have ofType := type_of_isOfType (by simpa using isSet)
  simp [not_isSlice ofType beyond] at slice

section Completed

variable {codec : CodecConfig}
variable {accessUnit : EncodedAccessUnit}

/-- The completed keyframe in terms of the sets it already has. -/
theorem nalUnits_completed (isKeyframe : IsKeyframe accessUnit) :
    (completed (some codec) accessUnit).nalUnits =
      insertParameterSet 7 codec.sps
        (insertParameterSet 8 codec.pps accessUnit.nalUnits) := by
  have flag :
      (accessUnit.keyframe || hasNalType accessUnit.nalUnits 5) = true := by
    rw [Bool.or_eq_true, hasNalType_iff]
    exact isKeyframe
  simp [completed, flag]

/-- A picture parameter set in front does not count as a sequence one. -/
theorem hasNalType_insert
    (ppsType : nalType codec.pps = some 8)
    (nalUnits : List Bytes) :
    hasNalType (insertParameterSet 8 codec.pps nalUnits) 7 =
      hasNalType nalUnits 7 := by
  rw [insertParameterSet]
  split
  · rfl
  · simp [hasNalType, ppsType]

/-- The four cases of the two insertions. -/
theorem insertParameterSet_cases
    (ppsType : nalType codec.pps = some 8)
    (nalUnits : List Bytes) :
    insertParameterSet 7 codec.sps
        (insertParameterSet 8 codec.pps nalUnits) =
      match hasNalType nalUnits 7, hasNalType nalUnits 8 with
      | true, true => nalUnits
      | true, false => codec.pps :: nalUnits
      | false, true => codec.sps :: nalUnits
      | false, false => codec.sps :: codec.pps :: nalUnits := by
  rw [insertParameterSet, hasNalType_insert ppsType]
  cases hasNalType nalUnits 7 <;>
    cases hasPps : hasNalType nalUnits 8 <;>
      simp [insertParameterSet, hasPps]

/-- A front parameter set is the first NAL unit of its type. -/
theorem findIdx_front
    {type : UInt8}
    {parameterSet : Bytes}
    (ofType : nalType parameterSet = some type)
    (nalUnits : List Bytes) :
    (parameterSet :: nalUnits).findIdx (isOfType type) = 0 := by
  simp [List.findIdx_cons, isOfType, ofType]

/-- A unit that has both sets is handed out as it is. -/
theorem legal_of_both
    (input : RecoveryInput codec accessUnit)
    (hasSps : hasNalType accessUnit.nalUnits 7 = true)
    (hasPps : hasNalType accessUnit.nalUnits 8 = true) :
    LegalRecoveryPoint codec accessUnit.nalUnits accessUnit.nalUnits := by
  have sps : ∃ nal ∈ accessUnit.nalUnits, isOfType 7 nal = true := by
    simpa [hasNalType, isOfType] using hasSps
  have pps : ∃ nal ∈ accessUnit.nalUnits, isOfType 8 nal = true := by
    simpa [hasNalType, isOfType] using hasPps
  exact {
    kept := List.Sublist.refl _
    added := ⟨[], List.nil_sublist _, List.Perm.refl _⟩
    hasSps := sps
    hasPps := pps
    spsFirst :=
      findIdx_lt_findIdx sps
        (fun nal isPps =>
          not_isOfType (type_of_isOfType isPps) (by decide))
        input.ordered
    spsBeforeSlices :=
      findIdx_lt_findIdx sps
        (fun nal slice => not_parameterSet_of_isSlice slice (by decide))
        (input.beforeSlices.imp fun none slice => (none slice).1)
    ppsBeforeSlices :=
      findIdx_lt_findIdx pps
        (fun nal slice => not_parameterSet_of_isSlice slice (by decide))
        (input.beforeSlices.imp fun none slice => (none slice).2)
    delimiterFirst := fun nal first _ => first
  }

/-- A sequence parameter set in front of a picture parameter set is legal. -/
theorem legal_of_sps
    (input : RecoveryInput codec accessUnit)
    (hasPps : hasNalType accessUnit.nalUnits 8 = true)
    (noDelimiter :
      ∀ nal ∈ accessUnit.nalUnits.head?, isOfType 9 nal = false) :
    LegalRecoveryPoint codec accessUnit.nalUnits
      (codec.sps :: accessUnit.nalUnits) := by
  have pps : ∃ nal ∈ accessUnit.nalUnits, isOfType 8 nal = true := by
    simpa [hasNalType, isOfType] using hasPps
  have notPps : isOfType 8 codec.sps = false :=
    not_isOfType input.spsType (by decide)
  have notSlice := not_isSlice input.spsType (by decide)
  have ppsFirst :
      accessUnit.nalUnits.findIdx (isOfType 8) <
        accessUnit.nalUnits.findIdx isSlice :=
    findIdx_lt_findIdx pps
      (fun nal slice => not_parameterSet_of_isSlice slice (by decide))
      (input.beforeSlices.imp fun none slice => (none slice).2)
  exact {
    kept := List.sublist_cons_self _ _
    added := ⟨[codec.sps], by simp, List.Perm.refl _⟩
    hasSps := ⟨codec.sps, by simp, by simp [isOfType, input.spsType]⟩
    hasPps := by
      obtain ⟨nal, member, isPps⟩ := pps
      exact ⟨nal, List.mem_cons_of_mem _ member, isPps⟩
    spsFirst := by
      rw [findIdx_front input.spsType]
      simp [List.findIdx_cons, notPps]
    spsBeforeSlices := by
      rw [findIdx_front input.spsType]
      simp [List.findIdx_cons, notSlice]
    ppsBeforeSlices := by
      simpa [List.findIdx_cons, notPps, notSlice] using ppsFirst
    delimiterFirst := by
      intro nal first isDelimiter
      simp [noDelimiter nal first] at isDelimiter
  }

/-- Both parameter sets in front are legal. -/
theorem legal_of_neither
    (input : RecoveryInput codec accessUnit)
    (noDelimiter :
      ∀ nal ∈ accessUnit.nalUnits.head?, isOfType 9 nal = false) :
    LegalRecoveryPoint codec accessUnit.nalUnits
      (codec.sps :: codec.pps :: accessUnit.nalUnits) := by
  have spsNotPps : isOfType 8 codec.sps = false :=
    not_isOfType input.spsType (by decide)
  have spsNotSlice := not_isSlice input.spsType (by decide)
  have ppsIsPps : isOfType 8 codec.pps = true := by
    simp [isOfType, input.ppsType]
  have ppsNotSlice := not_isSlice input.ppsType (by decide)
  exact {
    kept :=
      (List.sublist_cons_self _ _).trans (List.sublist_cons_self _ _)
    added :=
      ⟨[codec.sps, codec.pps], List.Sublist.refl _, List.Perm.refl _⟩
    hasSps := ⟨codec.sps, by simp, by simp [isOfType, input.spsType]⟩
    hasPps := ⟨codec.pps, by simp, ppsIsPps⟩
    spsFirst := by
      rw [findIdx_front input.spsType]
      simp [List.findIdx_cons, spsNotPps]
    spsBeforeSlices := by
      rw [findIdx_front input.spsType]
      simp [List.findIdx_cons, spsNotSlice]
    ppsBeforeSlices := by
      simp [List.findIdx_cons, spsNotPps, spsNotSlice, ppsIsPps,
        ppsNotSlice]
    delimiterFirst := by
      intro nal first isDelimiter
      simp [noDelimiter nal first] at isDelimiter
  }

/-- A delimiter is displaced by a parameter set in front of it. -/
theorem noDelimiter_of_legal
    {type : UInt8}
    {parameterSet : Bytes}
    {rest : List Bytes}
    (ofType : nalType parameterSet = some type)
    (different : type ≠ 9)
    (legal :
      LegalRecoveryPoint codec accessUnit.nalUnits
        (parameterSet :: rest)) :
    ∀ nal ∈ accessUnit.nalUnits.head?, isOfType 9 nal = false := by
  intro nal first
  by_contra isDelimiter
  have same :=
    legal.delimiterFirst nal first (by simpa using isDelimiter)
  obtain rfl : parameterSet = nal := by simpa using same
  exact isDelimiter (not_isOfType ofType different)

/-- The completed keyframe is legal under exactly one condition. -/
theorem legal_completed_iff (input : RecoveryInput codec accessUnit) :
    LegalRecoveryPoint codec accessUnit.nalUnits
        (completed (some codec) accessUnit).nalUnits ↔
      InsertsLegally accessUnit.nalUnits := by
  rw [nalUnits_completed input.keyframe,
    insertParameterSet_cases input.ppsType]
  cases hasSps : hasNalType accessUnit.nalUnits 7 with
  | true =>
      cases hasPps : hasNalType accessUnit.nalUnits 8 with
      | true =>
          exact iff_of_true (legal_of_both input hasSps hasPps)
            (.inl ⟨hasSps, hasPps⟩)
      | false =>
          refine iff_of_false ?_ ?_
          · intro legal
            have spsFirst := legal.spsFirst
            rw [findIdx_front input.ppsType] at spsFirst
            exact Nat.not_lt_zero _ spsFirst
          · simp [InsertsLegally, hasSps, hasPps]
  | false =>
      have condition :
          InsertsLegally accessUnit.nalUnits ↔
            ∀ nal ∈ accessUnit.nalUnits.head?, isOfType 9 nal = false := by
        simp [InsertsLegally, hasSps]
      rw [condition]
      cases hasPps : hasNalType accessUnit.nalUnits 8 with
      | true =>
          exact ⟨noDelimiter_of_legal input.spsType (by decide),
            legal_of_sps input hasPps⟩
      | false =>
          exact ⟨noDelimiter_of_legal input.spsType (by decide),
            legal_of_neither input⟩

end Completed

namespace Broadcaster

/-- A keyframe goes to the end of the queue of every live subscriber. -/
theorem handed_of_keyframe
    {broadcaster : Broadcaster}
    (wellFormed : broadcaster.WellFormed)
    {id : SubscriptionId}
    (isAlive : broadcaster.alive id = true)
    {accessUnit : EncodedAccessUnit}
    (isKeyframe : IsKeyframe accessUnit)
    (now : Instant) :
    ∃ queue ∈ (broadcaster.step (.publish accessUnit now)).queue id,
      queue.frames.getLast? =
        some (completed broadcaster.state.codec accessUnit) := by
  have member := wellFormed.served id isAlive
  have known := wellFormed.known id member
  have found := List.getElem?_eq_getElem known
  have pairAlive : (broadcaster.shared[id]).alive = true := by
    simpa [alive, found] using isAlive
  have flag :
      (completed broadcaster.state.codec accessUnit).keyframe = true := by
    rw [keyframe_completed]
    exact decide_eq_true (isKeyframe_completed.mpr isKeyframe)
  rw [queue, shared_step wellFormed known, found]
  refine ⟨_, rfl, ?_⟩
  simp [pairAfter, published, pairAlive, FrameQueue.push, flag]

/--
A keyframe published in a reachable state reaches every live subscriber, in a
legal order if and only if `InsertsLegally` holds of it.
-/
theorem recoveryPoint_iff
    (operations : List Operation)
    {codec : CodecConfig}
    (configured :
      (initial.run operations).state.codec = some codec)
    {accessUnit : EncodedAccessUnit}
    (input : RecoveryInput codec accessUnit)
    (now : Instant)
    {id : SubscriptionId}
    (isAlive : (initial.run operations).alive id = true) :
    ∃ handed,
      (∃ queue ∈
        ((initial.run operations).step
          (.publish accessUnit now)).queue id,
        queue.frames.getLast? = some handed) ∧
      (LegalRecoveryPoint codec accessUnit.nalUnits handed.nalUnits ↔
        InsertsLegally accessUnit.nalUnits) := by
  have reaches :=
    handed_of_keyframe (wellFormed_initial.run operations) isAlive
      input.keyframe now
  rw [configured] at reaches
  exact ⟨_, reaches, legal_completed_iff input⟩

/-- The stream of the following examples. -/
def sampleCodec : CodecConfig where
  sps := [0x67, 0x42, 0, 0x1e]
  pps := [0x68, 1]
  profileLevelId := (0x42, 0, 0x1e)

/-- An IDR slice behind the given NAL units. -/
def sampleKeyframe (leading : List Bytes) : EncodedAccessUnit where
  nalUnits := leading ++ [[0x65, 1]]
  pts90khz := 0
  duration90khz := 3000
  keyframe := true

/-- A viewer of the configured stream. -/
def sampleOperations : List Operation :=
  [.setCodecConfig sampleCodec, .subscribe]

/-- Without sets or delimiter the completed keyframe is legal. -/
theorem recoveryPoint_iff_plain :
    ∃ handed,
      (∃ queue ∈
        ((initial.run sampleOperations).step
          (.publish (sampleKeyframe []) 0)).queue 0,
        queue.frames.getLast? = some handed) ∧
      LegalRecoveryPoint sampleCodec (sampleKeyframe []).nalUnits
        handed.nalUnits := by
  have configured :
      (initial.run sampleOperations).state.codec = some sampleCodec :=
    rfl
  have input : RecoveryInput sampleCodec (sampleKeyframe []) := {
    spsType := rfl
    ppsType := rfl
    keyframe := .inl rfl
    beforeSlices := List.pairwise_singleton _ _
    ordered := List.pairwise_singleton _ _
  }
  have isAlive : (initial.run sampleOperations).alive 0 = true := rfl
  obtain ⟨handed, reaches, legal⟩ :=
    recoveryPoint_iff sampleOperations configured input 0 isAlive
  refine ⟨handed, reaches, legal.mpr (.inr ⟨rfl, ?_⟩)⟩
  rintro nal ⟨⟩
  rfl

/--
A keyframe with its own sequence parameter set gets the picture parameter set
in front of it, and a delimiter is pushed behind the inserted sets.
-/
theorem recoveryPoint_displaced :
    (RecoveryInput sampleCodec (sampleKeyframe [[0x67, 0x42, 0, 0x1e]]) ∧
      (((initial.run sampleOperations).step
        (.publish (sampleKeyframe [[0x67, 0x42, 0, 0x1e]])
          0)).recvTimeout 0).1 =
        some (sampleKeyframe [[0x68, 1], [0x67, 0x42, 0, 0x1e]]) ∧
      ¬ LegalRecoveryPoint sampleCodec
        (sampleKeyframe [[0x67, 0x42, 0, 0x1e]]).nalUnits
        (sampleKeyframe [[0x68, 1], [0x67, 0x42, 0, 0x1e]]).nalUnits) ∧
    RecoveryInput sampleCodec (sampleKeyframe [[0x09, 0xf0]]) ∧
      (((initial.run sampleOperations).step
        (.publish (sampleKeyframe [[0x09, 0xf0]]) 0)).recvTimeout 0).1 =
        some
          (sampleKeyframe
            [[0x67, 0x42, 0, 0x1e], [0x68, 1], [0x09, 0xf0]]) ∧
      ¬ LegalRecoveryPoint sampleCodec
        (sampleKeyframe [[0x09, 0xf0]]).nalUnits
        (sampleKeyframe
          [[0x67, 0x42, 0, 0x1e], [0x68, 1], [0x09, 0xf0]]).nalUnits := by
  refine ⟨⟨⟨rfl, rfl, .inl rfl, ?_, ?_⟩, ?_, ?_⟩,
    ⟨rfl, rfl, .inl rfl, ?_, ?_⟩, ?_, ?_⟩
  · decide
  · decide
  · decide
  · intro legal
    exact absurd legal.spsFirst (by decide)
  · decide
  · decide
  · decide
  · intro legal
    have kept := legal.delimiterFirst [0x09, 0xf0] rfl rfl
    exact absurd kept (by decide)

end Broadcaster

end CamRtsp
