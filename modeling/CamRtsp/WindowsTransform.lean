import CamRtsp.Foundation.CallContract
import CamRtsp.WindowsCapture

namespace CamRtsp.Windows

open RustText StepTrace

/-!
# How the worker uses the encoder

A stream is announced to the encoder by messages before the first call and
ended by messages behind the last.  In between a hardware encoder accepts an
input only behind a NeedInput event and an output call only behind a HaveOutput
event; a software encoder is drained before it gets an input.  The contracts
are step relations here, and the calls of every run of the worker are a trace
of the one that applies.
-/

/-! ## The contracts -/

/-- The call concerns the encoder. -/
def Call.concernsTransform : Call → Bool
  | .pumped _ => true
  | .input _ _ => true
  | .output _ => true
  | .message _ => true
  | _ => false

/-- The calls that concern the encoder. -/
def transformCalls (log : List Call) : List Call :=
  log.filter Call.concernsTransform

/-- How far the stream through an encoder has come. -/
inductive Stage where
  | created
  | begun
  | streaming
  | finishing
  | draining
  | over
  deriving Repr, DecidableEq

/-- Events are taken and outputs asked for at this stage. -/
def Stage.flows : Stage → Bool
  | .streaming => true
  | .draining => true
  | _ => false

/-- Which message comes at which stage; the drop may repeat the last ones. -/
inductive MessageContract : Stage → Message → Stage → Prop where
  | beginStreaming : MessageContract .created .beginStreaming .begun
  | startOfStream : MessageContract .begun .startOfStream .streaming
  | endOfStream : MessageContract .streaming .endOfStream .finishing
  | drain : MessageContract .finishing .drain .draining
  | endStreaming : MessageContract .draining .endStreaming .over
  | endOfStreamAgain : MessageContract .over .endOfStream .over
  | endStreamingAgain : MessageContract .over .endStreaming .over

/-- The stage, and what a hardware encoder has asked for and not yet got. -/
structure Owing where
  stage : Stage
  input : Bool
  output : Bool

/-- The contract of a hardware encoder. -/
inductive HardwareContract : Owing → Call → Owing → Prop where
  | message
      (asked : Bool)
      {stage next : Stage}
      {message : Message}
      (permitted : MessageContract stage message next) :
      HardwareContract ⟨stage, asked, false⟩ (.message message)
        ⟨next, asked, false⟩
  | needInput
      (asked : Bool)
      {stage : Stage}
      (flows : stage.flows = true) :
      HardwareContract ⟨stage, asked, false⟩ (.pumped .needInput)
        ⟨stage, true, false⟩
  | haveOutput
      (asked : Bool)
      {stage : Stage}
      (flows : stage.flows = true) :
      HardwareContract ⟨stage, asked, false⟩ (.pumped .haveOutput)
        ⟨stage, asked, true⟩
  | failure
      (asked : Bool)
      (message : Text)
      {stage : Stage}
      (flows : stage.flows = true) :
      HardwareContract ⟨stage, asked, false⟩ (.pumped (.failure message))
        ⟨stage, asked, false⟩
  | output
      (asked : Bool)
      (result : OutputResult)
      {stage : Stage}
      (flows : stage.flows = true) :
      HardwareContract ⟨stage, asked, true⟩ (.output result)
        ⟨stage, asked, false⟩
  | input (sample : CapturedSample) (result : InputResult) :
      HardwareContract ⟨.streaming, true, false⟩ (.input sample result)
        ⟨.streaming, false, false⟩

/-- The encoder asks for more input. -/
def OutputResult.isDry : OutputResult → Bool
  | .needMoreInput _ => true
  | _ => false

/-- The stage, and whether a software encoder is drained. -/
structure Drained where
  stage : Stage
  drained : Bool

/-- The contract of a software encoder. -/
inductive SoftwareContract : Drained → Call → Drained → Prop where
  | message
      (drained : Bool)
      {stage next : Stage}
      {message : Message}
      (permitted : MessageContract stage message next) :
      SoftwareContract ⟨stage, drained⟩ (.message message) ⟨next, drained⟩
  | output
      (drained : Bool)
      (result : OutputResult)
      {stage : Stage}
      (flows : stage.flows = true) :
      SoftwareContract ⟨stage, drained⟩ (.output result)
        ⟨stage, result.isDry⟩
  | input (sample : CapturedSample) (result : InputResult) :
      SoftwareContract ⟨.streaming, true⟩ (.input sample result)
        ⟨.streaming, false⟩

/-- `HaveOutput` has been taken, and `ProcessOutput` comes next. -/
def Position.isDue : Position → Bool
  | .produceOutput _ => true
  | _ => false

/-- Neither an input nor an output is about to be passed. -/
def Position.isPlain : Position → Bool
  | .produceOutput _ => false
  | .processInput _ _ => false
  | .drain _ => false
  | _ => true

/-- The loop has been left. -/
def Position.hasLeft : Position → Bool
  | .leave _ => true
  | .pump (.shutdown _) => true
  | .produceOutput (.shutdown _) => true
  | .drain (.shutdown _) => true
  | .send _ _ => true
  | .ended _ => true
  | _ => false

/-- The stage at which `pump_events` is called. -/
def Pumping.stage : Pumping → Stage
  | .shutdown _ => .draining
  | _ => .streaming

/-- The stage at which `drain` is called. -/
def Draining.stage : Draining → Stage
  | .shutdown _ => .draining
  | _ => .streaming

/-- The stage behind the messages. -/
def Closing.stage : Closing → Stage
  | .ended _ => .over
  | _ => .draining

/-- The worker knows the stage; messages still to come lead to the next one. -/
def Position.IsAt : Position → Stage → Prop
  | .pump next, stage => stage = next.stage
  | .produceOutput next, stage => stage = next.stage
  | .drain next, stage => stage = next.stage
  | .send messages next, stage =>
      Trace MessageContract stage messages next.stage
  | .ended _, stage => stage = .over
  | _, stage => stage = .streaming

/-- The position belongs to a hardware encoder. -/
def Position.isHardware : Position → Bool
  | .drain _ => false
  | .send _ (.drain _) => false
  | _ => true

/-- What the worker knows about a hardware encoder. -/
structure HardwareAt (capture : Capture) (owing : Owing) : Prop where
  stage : capture.position.IsAt owing.stage
  hardware : capture.position.isHardware = true
  output : owing.output = capture.position.isDue
  input :
    capture.position.hasLeft = false → owing.input = capture.needsInput
  submits :
    ∀ sample mayRetry,
      capture.position = .processInput sample mayRetry →
        capture.needsInput = true ∧ mayRetry = false

/-- The calls of a step for the encoder continue a contract. -/
abbrev Continues
    {σ : Type}
    (contract : σ → Call → σ → Prop)
    (knows : Capture → σ → Prop)
    (state : σ)
    (before after : Capture) : Prop :=
  CallContract.Continues (fun capture => transformCalls capture.log)
    contract knows state before after

/-- A call that does not concern the encoder. -/
theorem transformCalls_note
    {log : List Call}
    {call : Call}
    (silent : call.concernsTransform = false) :
    transformCalls (log ++ [call]) = transformCalls log := by
  simp [transformCalls, silent]

/-- A call that concerns the encoder. -/
theorem transformCalls_call
    (capture : Capture)
    (call : Call)
    (concerns : call.concernsTransform = true) :
    transformCalls (capture.log ++ [call]) =
      transformCalls capture.log ++ [call] := by
  simp [transformCalls, concerns]

/-- Taking an event is done in a stream. -/
theorem Pumping.flows_stage (next : Pumping) : next.stage.flows = true := by
  cases next <;> rfl

/-- Draining is done in a stream. -/
theorem Draining.flows_stage (next : Draining) :
    next.stage.flows = true := by
  cases next <;> rfl

/-- The messages that end a stream. -/
theorem trace_finish :
    Trace MessageContract .streaming [.endOfStream, .drain] .draining :=
  .cons .endOfStream (.single .drain)

/-- The messages of a hardware encoder's end and of its drop. -/
theorem trace_endHardware :
    Trace MessageContract .draining
      [.endStreaming, .endOfStream, .endStreaming] .over :=
  .cons .endStreaming (.cons .endOfStreamAgain (.single .endStreamingAgain))

section Hardware

variable {capture : Capture}
variable {owing : Owing}
variable {response : Response}

/-- Between the calls the worker knows what the encoder has asked for. -/
theorem HardwareAt.of_plain
    (plain : capture.position.isPlain = true)
    (stage : capture.position.IsAt owing.stage)
    (hardware : capture.position.isHardware = true)
    (output : owing.output = false)
    (input :
      capture.position.hasLeft = false →
        owing.input = capture.needsInput) :
    HardwareAt capture owing where
  stage := stage
  hardware := hardware
  output := by
    rw [output]
    cases here : capture.position <;> rw [here] at plain <;>
      first | rfl | cases plain
  input := input
  submits sample mayRetry here := by
    rw [here] at plain
    cases plain

/-- In its loop the worker works on a stream. -/
theorem HardwareAt.streaming
    (known : HardwareAt capture owing)
    (inside : capture.position.hasLeft = false) :
    owing.stage = .streaming := by
  have stage := known.stage
  cases here : capture.position with
  | pump next | produceOutput next | drain next =>
      rw [here] at stage inside
      cases next <;> first | exact stage | cases inside
  | send messages next =>
      rw [here] at inside
      cases inside
  | leave result | ended result =>
      rw [here] at inside
      cases inside
  | _ =>
      rw [here] at stage
      exact stage

/-- A failure behind a call leads out of the loop. -/
theorem continues_of_failure
    {last : Owing}
    {after : Capture}
    (call : Call)
    (called :
      transformCalls after.log = transformCalls capture.log ++ [call])
    (permitted : HardwareContract owing call last)
    (output : last.output = false)
    (next : Pumping)
    (stage : last.stage = next.stage)
    (message : Text) :
    Continues HardwareContract HardwareAt owing capture
      (Capture.failPumping next after message) := by
  cases next with
  | shutdown result =>
      refine .once call called permitted
        (.of_plain rfl ?_ rfl output nofun)
      rw [stage]
      exact trace_endHardware
  | input sample =>
      exact .once call called permitted
        (.of_plain rfl stage rfl output nofun)
  | consumed =>
      exact .once call called permitted
        (.of_plain rfl stage rfl output nofun)

/-- The worker moves on and leaves the encoder alone. -/
theorem HardwareAt.move
    (known : HardwareAt capture owing)
    {after : Capture}
    (plain : capture.position.isPlain = true)
    (silent : transformCalls after.log = transformCalls capture.log)
    (plainAfter : after.position.isPlain = true)
    (stage : after.position.IsAt owing.stage)
    (hardware : after.position.isHardware = true)
    (sameNeeds :
      after.position.hasLeft = false →
        capture.position.hasLeft = false ∧
          after.needsInput = capture.needsInput) :
    Continues HardwareContract HardwareAt owing capture after := by
  refine .silent silent (.of_plain plainAfter stage hardware ?_ ?_)
  · rw [known.output]
    cases here : capture.position <;> rw [here] at plain <;>
      first | rfl | cases plain
  · intro inside
    rw [known.input (sameNeeds inside).1, (sameNeeds inside).2]

/-- `pump_events` keeps the contract of a hardware encoder. -/
theorem HardwareAt.pump
    (known : HardwareAt capture owing)
    {next : Pumping}
    (here : capture.position = .pump next) :
    Continues HardwareContract HardwareAt owing capture
      (capture.pump next) := by
  have plain : capture.position.isPlain = true := by
    rw [here]
    rfl
  have stage : owing.stage = next.stage := by
    have isAt := known.stage
    rw [here] at isAt
    exact isAt
  unfold Capture.pump
  cases waiting : capture.events with
  | nil =>
      cases next with
      | input sample =>
          have inside : capture.position.hasLeft = false := by
            rw [here]
            rfl
          have same := known.input inside
          simp only
          split
          · rename_i needed
            refine .silent rfl ⟨stage, rfl, ?_, fun _ => same, ?_⟩
            · rw [known.output, here]
              rfl
            · intro other mayRetry isHere
              cases isHere
              exact ⟨needed, rfl⟩
          · exact known.move plain (transformCalls_note rfl) rfl stage rfl
              fun _ => ⟨inside, rfl⟩
      | consumed =>
          exact known.move plain rfl rfl stage rfl
            fun _ => ⟨by rw [here]; rfl, rfl⟩
      | shutdown result =>
          refine known.move plain rfl rfl ?_ rfl nofun
          rw [stage]
          exact trace_endHardware
  | cons event later =>
      have flows := next.flows_stage
      rw [← stage] at flows
      obtain ⟨current, wantsInput, wantsOutput⟩ := owing
      obtain ⟨isAt, hardware, output, input, submits⟩ := known
      rw [here] at output input
      simp only [Position.isDue] at output
      subst output
      have called := transformCalls_call capture (.pumped event) rfl
      cases event with
      | needInput =>
          exact .once _ called (.needInput wantsInput flows)
            (.of_plain plain isAt hardware rfl fun _ => rfl)
      | haveOutput =>
          refine .once _ called (.haveOutput wantsInput flows)
            ⟨stage, rfl, rfl, ?_, nofun⟩
          intro inside
          apply input
          cases next <;> exact inside
      | failure message =>
          exact continues_of_failure _ called
            (.failure wantsInput message flows) rfl next stage message

/-- `produce_output` keeps the contract of a hardware encoder. -/
theorem HardwareAt.produceOutput
    (known : HardwareAt capture owing)
    {next : Pumping}
    (here : capture.position = .produceOutput next)
    (result : OutputResult) :
    Continues HardwareContract HardwareAt owing capture
      (capture.produceOutput next result) := by
  obtain ⟨current, wantsInput, wantsOutput⟩ := owing
  obtain ⟨stage, hardware, output, input, submits⟩ := known
  rw [here] at stage output input
  have flows : current.flows = true := by
    rw [show current = next.stage from stage]
    exact next.flows_stage
  simp only [Position.isDue] at output
  subst output
  have called := transformCalls_call capture (.output result) rfl
  have inside (notLeft : (Position.pump next).hasLeft = false) :
      wantsInput = capture.needsInput := by
    apply input
    cases next <;> exact notLeft
  cases result with
  | produced header sample =>
      unfold Capture.produceOutput Capture.publishSample
      simp only
      split
      · exact .once _ called (.output wantsInput _ flows)
          (.of_plain rfl stage rfl rfl inside)
      · exact continues_of_failure _ called (.output wantsInput _ flows) rfl
          next stage _
  | nothing =>
      exact .once _ called (.output wantsInput _ flows)
        (.of_plain rfl stage rfl rfl inside)
  | needMoreInput message =>
      exact continues_of_failure _ called (.output wantsInput _ flows) rfl
        next stage message
  | failed message =>
      exact continues_of_failure _ called (.output wantsInput _ flows) rfl
        next stage message

/-- `ProcessInput` keeps the contract of a hardware encoder. -/
theorem HardwareAt.processInput
    (known : HardwareAt capture owing)
    (isHardware : capture.mode = .encoder .asynchronous)
    {sample : CapturedSample}
    {mayRetry : Bool}
    (here : capture.position = .processInput sample mayRetry)
    (result : InputResult) :
    Continues HardwareContract HardwareAt owing capture
      (capture.processInput sample mayRetry result) := by
  obtain ⟨current, wantsInput, wantsOutput⟩ := owing
  obtain ⟨stage, hardware, output, input, submits⟩ := known
  obtain ⟨needed, rfl⟩ := submits sample mayRetry here
  rw [here] at stage output input
  have asked : wantsInput = true := (input rfl).trans needed
  have isStreaming : current = .streaming := stage
  simp only [Position.isDue] at output
  subst output asked isStreaming
  have called := transformCalls_call capture (.input sample result) rfl
  cases result with
  | accepted =>
      unfold Capture.processInput
      simp only [Capture.note, isHardware]
      exact .once _ called (.input sample _)
        (.of_plain rfl rfl rfl rfl fun _ => rfl)
  | notAccepting message =>
      exact .once _ called (.input sample _)
        (.of_plain rfl rfl rfl rfl nofun)
  | failed message =>
      exact .once _ called (.input sample _)
        (.of_plain rfl rfl rfl rfl nofun)

/-- `ProcessMessage` keeps the contract of a hardware encoder. -/
theorem HardwareAt.send
    (known : HardwareAt capture owing)
    {messages : List Message}
    {next : Closing}
    (here : capture.position = .send messages next) :
    Continues HardwareContract HardwareAt owing capture
      (capture.send messages next) := by
  obtain ⟨current, wantsInput, wantsOutput⟩ := owing
  obtain ⟨trace, hardware, output, input, submits⟩ := known
  rw [here] at trace hardware output
  simp only [Position.isDue] at output
  subst output
  cases messages with
  | nil =>
      cases trace
      cases next with
      | drain result =>
          cases hardware
      | pump result | ended result =>
          exact .silent rfl (.of_plain rfl rfl rfl rfl nofun)
  | cons message later =>
      cases trace with
      | cons permitted rest =>
          refine .once _ (transformCalls_call capture (.message message) rfl)
            (.message wantsInput permitted)
            (.of_plain rfl rest ?_ rfl nofun)
          cases next <;> first | rfl | cases hardware

/-- The worker keeps the contract of a hardware encoder. -/
theorem HardwareAt.work
    (known : HardwareAt capture owing)
    (isHardware : capture.mode = .encoder .asynchronous)
    (response : Response) :
    Continues HardwareContract HardwareAt owing capture
      (capture.work response) := by
  cases here : capture.position with
  | pump next =>
      rw [Capture.work, here]
      exact known.pump here
  | produceOutput next =>
      rw [Capture.work, here]
      exact known.produceOutput here response.output
  | drain next =>
      have hardware := known.hardware
      rw [here] at hardware
      cases hardware
  | processInput sample mayRetry =>
      rw [Capture.work, here]
      exact known.processInput isHardware here response.input
  | send messages next =>
      rw [Capture.work, here]
      exact known.send here
  | ended result =>
      rw [Capture.work, here]
      exact .silent rfl known
  | leave result =>
      have stage := known.stage
      rw [here] at stage
      have isStreaming : owing.stage = .streaming := stage
      rw [Capture.work, here, isHardware]
      refine known.move (by rw [here]; rfl) rfl rfl ?_ rfl nofun
      rw [isStreaming]
      exact trace_finish
  | failureCheck =>
      have plain : capture.position.isPlain = true := by rw [here]; rfl
      have streaming := known.streaming (by rw [here]; rfl)
      rw [Capture.work, here]
      simp only
      split
      · exact known.move plain rfl rfl streaming rfl nofun
      · exact known.move plain rfl rfl streaming rfl
          fun _ => ⟨by rw [here]; rfl, rfl⟩
  | discontinuityCheck =>
      have plain : capture.position.isPlain = true := by rw [here]; rfl
      have inside : capture.position.hasLeft = false := by rw [here]; rfl
      have streaming := known.streaming inside
      rw [Capture.work, here]
      simp only
      split
      · exact known.move plain (transformCalls_note rfl) rfl streaming rfl
          fun _ => ⟨inside, rfl⟩
      · exact known.move plain rfl rfl streaming rfl
          fun _ => ⟨inside, rfl⟩
  | commandCheck =>
      have plain : capture.position.isPlain = true := by rw [here]; rfl
      have inside : capture.position.hasLeft = false := by rw [here]; rfl
      have streaming := known.streaming inside
      rw [Capture.work, here]
      simp only
      split
      · exact known.move plain rfl rfl streaming rfl
          fun _ => ⟨inside, rfl⟩
      · exact known.move plain rfl rfl streaming rfl nofun
      · exact known.move plain (transformCalls_note rfl) rfl streaming rfl
          fun _ => ⟨inside, rfl⟩
  | receive =>
      have plain : capture.position.isPlain = true := by rw [here]; rfl
      have inside : capture.position.hasLeft = false := by rw [here]; rfl
      have streaming := known.streaming inside
      rw [Capture.work, here]
      simp only
      split
      · exact known.move plain rfl rfl streaming rfl
          fun _ => ⟨inside, rfl⟩
      · exact known.move plain (transformCalls_note rfl) rfl streaming rfl
          fun _ => ⟨inside, rfl⟩
  | consume sample =>
      have streaming := known.streaming (by rw [here]; rfl)
      rw [Capture.work, here, isHardware]
      exact known.move (by rw [here]; rfl) rfl rfl streaming rfl
        fun _ => ⟨by rw [here]; rfl, rfl⟩

end Hardware

section Software

variable {capture : Capture}
variable {drained : Drained}

/-- The position belongs to a software encoder. -/
def Position.isSoftware : Position → Bool
  | .pump _ => false
  | .produceOutput _ => false
  | .send _ (.pump _) => false
  | _ => true

/-- What the worker knows about a software encoder. -/
structure SoftwareAt (capture : Capture) (drained : Drained) : Prop where
  stage : capture.position.IsAt drained.stage
  software : capture.position.isSoftware = true
  submits :
    ∀ sample mayRetry,
      capture.position = .processInput sample mayRetry →
        drained.drained = true

/-- The worker moves on and leaves the encoder alone. -/
theorem software_move
    {after : Capture}
    (silent : transformCalls after.log = transformCalls capture.log)
    (stage : after.position.IsAt drained.stage)
    (software : after.position.isSoftware = true)
    (plain :
      ∀ sample mayRetry, after.position ≠ .processInput sample mayRetry) :
    Continues SoftwareContract SoftwareAt drained capture after :=
  .silent silent
    ⟨stage, software, fun sample mayRetry here =>
      (plain sample mayRetry here).elim⟩

/-- The worker goes on behind a call of the encoder. -/
theorem software_call
    {after : Capture}
    {last : Drained}
    (call : Call)
    (called :
      transformCalls after.log = transformCalls capture.log ++ [call])
    (permitted : SoftwareContract drained call last)
    (stage : after.position.IsAt last.stage)
    (software : after.position.isSoftware = true)
    (plain :
      ∀ sample mayRetry, after.position ≠ .processInput sample mayRetry) :
    Continues SoftwareContract SoftwareAt drained capture after :=
  .once call called permitted
    ⟨stage, software, fun sample mayRetry here =>
      (plain sample mayRetry here).elim⟩

/-- A failure leads out of the loop. -/
theorem position_failDraining
    (next : Draining)
    (capture : Capture)
    (message : Text) :
    (Capture.failDraining next capture message).position.IsAt next.stage ∧
      (Capture.failDraining next capture message).position.isSoftware =
        true ∧
      ∀ sample mayRetry,
        (Capture.failDraining next capture message).position ≠
          .processInput sample mayRetry := by
  cases next with
  | shutdown result =>
      exact ⟨.single .endStreaming, rfl, nofun⟩
  | input sample | retry sample | consumed =>
      exact ⟨rfl, rfl, nofun⟩

/-- A failure makes no call. -/
theorem log_failDraining
    (next : Draining)
    (capture : Capture)
    (message : Text) :
    (Capture.failDraining next capture message).log = capture.log := by
  cases next <;> rfl

/-- `drain` keeps the contract of a software encoder. -/
theorem SoftwareAt.drain
    (known : SoftwareAt capture drained)
    {next : Draining}
    (here : capture.position = .drain next)
    (result : OutputResult) :
    Continues SoftwareContract SoftwareAt drained capture
      (capture.drain next result) := by
  obtain ⟨current, wasDrained⟩ := drained
  have stage := known.stage
  rw [here] at stage
  obtain rfl : current = next.stage := stage
  have called := transformCalls_call capture (.output result) rfl
  have permitted :=
    SoftwareContract.output wasDrained result next.flows_stage
  cases result with
  | produced header sample =>
      unfold Capture.drain Capture.publishSample
      simp only
      split
      · exact software_call _ called permitted rfl rfl nofun
      · obtain ⟨stage, software, plain⟩ := position_failDraining next _ _
        refine software_call _ ?_ permitted stage software plain
        rw [log_failDraining]
        exact called
  | nothing =>
      have same : (capture.drain next .nothing).position = .drain next :=
        here
      refine software_call _ called permitted ?_ ?_ ?_
      · rw [same]
        rfl
      · rw [same]
        rfl
      · rw [same]
        exact nofun
  | needMoreInput message =>
      cases next with
      | input sample =>
          exact .once _ called permitted ⟨rfl, rfl, fun _ _ _ => rfl⟩
      | retry sample =>
          exact .once _ called permitted ⟨rfl, rfl, fun _ _ _ => rfl⟩
      | consumed =>
          exact software_call _ called permitted rfl rfl nofun
      | shutdown result =>
          exact software_call _ called permitted
            (.cons .endStreaming (.single .endStreamingAgain)) rfl nofun
  | failed message =>
      obtain ⟨stage, software, plain⟩ := position_failDraining next _ _
      refine software_call (.output (.failed message)) ?_ permitted stage
        software plain
      rw [Capture.drain, log_failDraining]
      exact called

/-- `ProcessMessage` keeps the contract of a software encoder. -/
theorem SoftwareAt.send
    (known : SoftwareAt capture drained)
    {messages : List Message}
    {next : Closing}
    (here : capture.position = .send messages next) :
    Continues SoftwareContract SoftwareAt drained capture
      (capture.send messages next) := by
  obtain ⟨current, wasDrained⟩ := drained
  obtain ⟨trace, software, submits⟩ := known
  rw [here] at trace software
  cases messages with
  | nil =>
      cases trace
      cases next with
      | pump result =>
          cases software
      | drain result | ended result =>
          exact software_move rfl rfl rfl nofun
  | cons message later =>
      cases trace with
      | cons permitted rest =>
          refine software_call _
            (transformCalls_call capture (.message message) rfl)
            (.message wasDrained permitted) rest ?_ nofun
          cases next <;> first | rfl | cases software

/-- The worker keeps the contract of a software encoder. -/
theorem SoftwareAt.work
    (known : SoftwareAt capture drained)
    (isSoftware : capture.mode = .encoder .synchronous)
    (response : Response) :
    Continues SoftwareContract SoftwareAt drained capture
      (capture.work response) := by
  have stage := known.stage
  cases here : capture.position with
  | pump next | produceOutput next =>
      have software := known.software
      rw [here] at software
      cases software
  | drain next =>
      rw [Capture.work, here]
      exact known.drain here response.output
  | send messages next =>
      rw [Capture.work, here]
      exact known.send here
  | processInput sample mayRetry =>
      obtain ⟨current, wasDrained⟩ := drained
      rw [here] at stage
      obtain rfl : current = .streaming := stage
      obtain rfl : wasDrained = true := known.submits sample mayRetry here
      have called :=
        transformCalls_call capture (.input sample response.input) rfl
      have permitted := SoftwareContract.input sample response.input
      rw [Capture.work, here]
      simp only [Capture.processInput, Capture.note, isSoftware]
      split
      · exact software_call _ called permitted rfl rfl nofun
      · split <;> exact software_call _ called permitted rfl rfl nofun
      · exact software_call _ called permitted rfl rfl nofun
  | ended result =>
      rw [Capture.work, here]
      exact .silent rfl known
  | leave result =>
      rw [here] at stage
      have isStreaming : drained.stage = .streaming := stage
      rw [Capture.work, here, isSoftware]
      refine software_move rfl ?_ rfl nofun
      rw [isStreaming]
      exact trace_finish
  | failureCheck =>
      rw [here] at stage
      rw [Capture.work, here]
      simp only
      split <;> exact software_move rfl stage rfl nofun
  | discontinuityCheck =>
      rw [here] at stage
      rw [Capture.work, here]
      simp only
      split
      · exact software_move (transformCalls_note rfl) stage rfl nofun
      · exact software_move rfl stage rfl nofun
  | commandCheck =>
      rw [here] at stage
      rw [Capture.work, here]
      simp only
      split
      · exact software_move rfl stage rfl nofun
      · exact software_move rfl stage rfl nofun
      · exact software_move (transformCalls_note rfl) stage rfl nofun
  | receive =>
      rw [here] at stage
      rw [Capture.work, here]
      simp only
      split
      · exact software_move rfl stage rfl nofun
      · exact software_move (transformCalls_note rfl) stage rfl nofun
  | consume sample =>
      rw [here] at stage
      rw [Capture.work, here, isSoftware]
      exact software_move rfl stage rfl nofun

end Software

section Passthrough

end Passthrough

/-! ## Every run -/

section Runs

variable {capture : Capture}

/-- The worker works in the mode it started in. -/
theorem mode_work (capture : Capture) (response : Response) :
    (capture.work response).mode = capture.mode := by
  have mode_failPumping (next : Pumping) (after : Capture) (message : Text) :
      (Capture.failPumping next after message).mode = after.mode := by
    cases next <;> rfl
  have mode_failDraining
      (next : Draining) (after : Capture) (message : Text) :
      (Capture.failDraining next after message).mode = after.mode := by
    cases next <;> rfl
  cases here : capture.position with
  | pump next =>
      rw [Capture.work, here]
      simp only [Capture.pump]
      split
      · split <;> first | rfl | (split <;> rfl)
      · split <;> first | rfl | exact mode_failPumping _ _ _
  | produceOutput next =>
      rw [Capture.work, here]
      simp only [Capture.produceOutput, Capture.publishSample]
      split
      · split <;> first | rfl | exact mode_failPumping _ _ _
      · rfl
      · exact mode_failPumping _ _ _
      · exact mode_failPumping _ _ _
  | drain next =>
      rw [Capture.work, here]
      simp only [Capture.drain, Capture.publishSample]
      split
      · split <;> first | rfl | exact mode_failDraining _ _ _
      · rfl
      · split <;> rfl
      · exact mode_failDraining _ _ _
  | processInput sample mayRetry =>
      rw [Capture.work, here]
      simp only [Capture.processInput]
      split
      · split <;> rfl
      · split <;> rfl
      · rfl
  | consume sample =>
      rw [Capture.work, here]
      simp only
      split
      · split <;> rfl
      · rfl
      · rfl
  | failureCheck | discontinuityCheck | commandCheck | receive =>
      rw [Capture.work, here]
      simp only
      split <;> rfl
  | leave result =>
      rw [Capture.work, here]
      rfl
  | send messages next =>
      rw [Capture.work, here]
      cases messages <;> rfl
  | ended result =>
      rw [Capture.work, here]

/-- What other threads leave to the worker. -/
structure Apart (before after : Capture) : Prop where
  mode : after.mode = before.mode
  position : after.position = before.position
  needsInput : after.needsInput = before.needsInput
  calls : transformCalls after.log = transformCalls before.log

/-- Only the worker moves the worker. -/
theorem work_or_apart (event : Event) :
    (∃ response, event = .work response) ∨
      ∀ capture, Apart capture (capture.step event) := by
  cases event with
  | work response =>
      exact .inl ⟨response, rfl⟩
  | outside operation =>
      refine .inr fun capture => ?_
      simp only [Capture.step]
      split <;> exact ⟨rfl, rfl, rfl, rfl⟩
  | poll =>
      refine .inr fun capture => ?_
      simp only [Capture.step]
      split <;> exact ⟨rfl, rfl, rfl, rfl⟩
  | requestKeyframe =>
      refine .inr fun capture => ?_
      simp only [Capture.step, Capture.requestKeyframe]
      split <;> exact ⟨rfl, rfl, rfl, rfl⟩
  | stop =>
      refine .inr fun capture => ?_
      simp only [Capture.step, Capture.stop]
      split <;> exact ⟨rfl, rfl, rfl, rfl⟩
  | readFailed message =>
      refine .inr fun capture => ?_
      simp only [Capture.step]
      split <;> exact ⟨rfl, rfl, rfl, rfl⟩
  | readSample outcome =>
      refine .inr fun capture => ?_
      simp only [Capture.step, Capture.onReadSample]
      split
      · split
        · exact ⟨rfl, rfl, rfl, rfl⟩
        · exact ⟨rfl, rfl, rfl, rfl⟩
        · exact ⟨rfl, rfl, rfl, rfl⟩
        · split <;> exact ⟨rfl, rfl, rfl, transformCalls_note rfl⟩
      · exact ⟨rfl, rfl, rfl, rfl⟩
  | invoke event =>
      refine .inr fun capture => ?_
      simp only [Capture.step, Capture.invoke, Capture.trySend]
      split
      · split
        · refine ⟨rfl, rfl, rfl, ?_⟩
          exact (transformCalls_note rfl).trans (transformCalls_note rfl)
        · exact ⟨rfl, rfl, rfl, transformCalls_note rfl⟩
      · exact ⟨rfl, rfl, rfl, rfl⟩
  | reportOverflow =>
      refine .inr fun capture => ?_
      simp only [Capture.step, Capture.reportOverflow, Capture.trySend]
      split
      · split
        · exact ⟨rfl, rfl, rfl, transformCalls_note rfl⟩
        · exact ⟨rfl, rfl, rfl, rfl⟩
      · exact ⟨rfl, rfl, rfl, rfl⟩

end Runs

end CamRtsp.Windows
