import CamRtsp.CameraEncoder

namespace CamRtsp.CameraEncoder

open RustText
open Broadcaster (Operation)
open NativeBridge (PushRequest)

/-!
# What the encoder's thread can do in a step

Everything that is proved about the thread goes back to one list of the things
it can do, with what each of them presupposes.
-/

/-- The thread has read `stopped` and may go on to a call outside. -/
def Position.mayCall : Position → Bool
  | .createCodec => true
  | .negotiate => true
  | .setFrameRate _ _ => true
  | .push _ => true
  | .announce _ => true
  | .setRepeatingRequest => true
  | .setParameters => true
  | .onError _ _ => true
  | _ => false

/-- The thread has read `stopped` and not yet finished the message. -/
def Position.isPastCheck : Position → Bool
  | .createInputSurface => true
  | .openCamera => true
  | .createCaptureSession => true
  | position => position.mayCall

/-- What may call is behind the check. -/
theorem isPastCheck_of_mayCall
    {position : Position}
    (mayCall : position.mayCall = true) :
    position.isPastCheck = true := by
  cases position <;> first | rfl | cases mayCall

/-- The output buffer of a message. -/
def Message.buffer? : Message → Option OutputBuffer
  | .outputBufferAvailable buffer => some buffer
  | _ => none

/-- The output buffer that the thread has not released yet. -/
def Position.buffer? : Position → Option OutputBuffer
  | .check message => message.buffer?
  | .push buffer => some buffer
  | .fail _ buffer => buffer
  | .onError _ buffer => buffer
  | .release buffer => some buffer
  | _ => none

/-- The buffer can still be pushed. -/
def Position.canPush : Position → Bool
  | .check (.outputBufferAvailable _) => true
  | .push _ => true
  | _ => false

/-- The field that a message assigns. -/
def Message.assigns? : Message → Option Resource
  | .cameraOpened => some .camera
  | .sessionConfigured => some .session
  | _ => none

/-- The field that the thread is about to assign. -/
def Position.assigns? : Position → Option Resource
  | .check message => message.assigns?
  | _ => none

/-- The message may go on to be checked, or it is an error. -/
def Message.goesTo (message : Message) (position : Position) : Prop :=
  position = .check message ∨
    ∃ text, message = .codecError text ∧
      position = .fail ("MediaCodec: ".toList ++ text) none

/-- A call for the service, the codec or the library. -/
def Call.isActive : Call → Bool
  | .native _ _ _ => true
  | .setParameters => true
  | .onConfigured => true
  | .onError _ => true
  | _ => false

/-- The thread keeps its buffer and assigns no field. -/
structure Onward (before after : Position) : Prop where
  buffer : after.buffer? = before.buffer?
  canPush : after.canPush = true → before.canPush = true
  unassigned : before.assigns? = none ∧ after.assigns? = none

/-- The thread goes to a position where it cannot push. -/
theorem Onward.of_spent
    {before after : Position}
    (buffer : after.buffer? = before.buffer?)
    (spent : after.canPush = false)
    (unassigned : before.assigns? = none ∧ after.assigns? = none) :
    Onward before after where
  buffer := buffer
  canPush canPush := by
    rw [spent] at canPush
    cases canPush
  unassigned := unassigned

/-- The thread has no buffer, neither before nor after. -/
theorem Onward.of_quiet
    {before after : Position}
    (quiet : before.buffer? = none ∧ before.assigns? = none)
    (quietAfter :
      after.buffer? = none ∧ after.canPush = false ∧
        after.assigns? = none) :
    Onward before after :=
  .of_spent (quietAfter.1.trans quiet.1.symm) quietAfter.2.1
    ⟨quiet.2, quietAfter.2.2⟩

/-- The request has the data of the buffer. -/
structure PushOf (request : PushRequest) (buffer : OutputBuffer) : Prop where
  offset : request.offset = buffer.offset
  size : request.size = buffer.size
  ptsUs : request.ptsUs = buffer.presentationTimeUs
  flags : request.flags = buffer.flags

/-- What the thread can do in a step. -/
inductive Worked (before : Encoder) : Encoder → Prop where
  | moved
      (position : Position)
      (opening configuring : Bool)
      (onward : Onward before.position position)
      (notQuit : before.position ≠ .quit ∧ position ≠ .quit)
      (mayCall :
        position.mayCall = true →
          before.position.mayCall = true ∨ before.stopped = false)
      (pastCheck :
        position.isPastCheck = true →
          before.position.isPastCheck = true ∨ before.stopped = false)
      (keyframe :
        before.position = .check .requestKeyframe →
          before.stopped = true ∨ position = .setParameters) :
      Worked before
        { before with
          position := position
          opening := opening
          configuring := configuring }
  | took
      (message : Message)
      (later : List Message)
      (position : Position)
      (here : before.position = .idle)
      (isNext : before.queue = message :: later)
      (notCleanup : message ≠ .cleanup)
      (goes : message.goesTo position) :
      Worked before
        { before with
          queue := later
          position := position
          log := before.log ++ [.handled message] }
  | tookClosed
      (message : Message)
      (later : List Message)
      (resource : Resource)
      (text : Text)
      (here : before.position = .idle)
      (isNext : before.queue = message :: later)
      (isCallback :
        message = .cameraDisconnected ∨
          (∃ error, message = .cameraError error) ∨
            message = .sessionFailed) :
      Worked before
        { before with
          queue := later
          position := .fail text none
          opened := before.opened.filter (· ≠ resource)
          log := before.log ++ [.handled message] ++ [.closed resource] }
  | cleaned
      (later : List Message)
      (here : before.position = .idle)
      (isNext : before.queue = .cleanup :: later) :
      Worked before
        ({ before with queue := later }.note
          (.handled .cleanup)).cleanup
  | assigned
      (resource : Resource)
      (position : Position)
      (assigns : before.position.assigns? = some resource)
      (running : before.stopped = false)
      (next :
        position = .createCaptureSession ∨
          position = .setRepeatingRequest) :
      Worked before ((before.hold resource).goto position)
  | refused
      (resource : Resource)
      (assigns : before.position.assigns? = some resource)
      (stopped : before.stopped = true) :
      Worked before ((before.close resource).goto .idle)
  | acquired
      (resource : Resource)
      (position : Position)
      (onward : Onward before.position position)
      (between :
        before.position = .createCodec ∧ position = .negotiate ∨
          before.position = .createInputSurface ∧
            position = .openCamera) :
      Worked before
        (((before.acquire resource).hold resource).goto position)
  | called
      (call : NativeCall)
      (known : Bool)
      (result : Except Text Unit)
      (broadcaster : Broadcaster)
      (position : Position)
      (onward : Onward before.position position)
      (mayCall : before.position.mayCall = true)
      (quiet :
        position.mayCall = false ∧ position.canPush = false ∧
          position ≠ .quit)
      (notKeyframe : before.position ≠ .setParameters)
      (isKnown : before.known = known)
      (pushes :
        ∀ request, call = .pushAccessUnit request →
          ∃ buffer,
            before.position = .push buffer ∧ PushOf request buffer)
      (heard :
        broadcaster = before.broadcaster ∨
          ∃ operation now,
            call.operation now = .ok operation ∧
              broadcaster = before.broadcaster.step operation) :
      Worked before
        { before with
          broadcaster := broadcaster
          position := position
          log := before.log ++ [.native call known result] }
  | acted
      (call : Call)
      (position : Position)
      (onward : Onward before.position position)
      (active :
        call = .setParameters ∨ call = .onConfigured ∨
          ∃ message, call = .onError message)
      (mayCall : before.position.mayCall = true)
      (quiet : position.mayCall = false ∧ position ≠ .quit) :
      Worked before ((before.note call).goto position)
  | released
      (buffer : OutputBuffer)
      (here : before.position = .release buffer) :
      Worked before
        ((before.note (.releaseOutputBuffer buffer.index)).goto .idle)
  | quit
      (here : before.position = .quit) :
      Worked before ({ before with quitting := true }.goto .idle)

namespace Worked

variable {encoder : Encoder}

/-- The thread moves on without a call and keeps to what it may do. -/
theorem of_goto
    {position : Position}
    (onward : Onward encoder.position position)
    (notQuit : encoder.position ≠ .quit ∧ position ≠ .quit)
    (mayCall :
      position.isPastCheck = true →
        encoder.position.mayCall = true ∨ encoder.stopped = false)
    (keyframe :
      encoder.position = .check .requestKeyframe →
        encoder.stopped = true ∨ position = .setParameters) :
    Worked encoder (encoder.goto position) :=
  .moved position encoder.opening encoder.configuring onward notQuit
    (fun may => mayCall (isPastCheck_of_mayCall may))
    (fun past => (mayCall past).imp_left isPastCheck_of_mayCall) keyframe

/-- A native call, and where the thread goes behind it. -/
theorem of_native
    {call : NativeCall}
    {now : Instant}
    {after : Encoder}
    {result : Except Text Unit}
    {position : Position}
    (native : encoder.native call now = (after, result))
    (onward : Onward encoder.position position)
    (mayCall : encoder.position.mayCall = true)
    (quiet :
      position.mayCall = false ∧ position.canPush = false ∧
        position ≠ .quit)
    (notKeyframe : encoder.position ≠ .setParameters)
    (pushes :
      ∀ request, call = .pushAccessUnit request →
        ∃ buffer,
          encoder.position = .push buffer ∧ PushOf request buffer) :
    Worked encoder (after.goto position) := by
  unfold Encoder.native at native
  cases isOperation : call.operation now with
  | error message =>
      rw [isOperation] at native
      cases native
      exact .called call _ _ encoder.broadcaster _ onward mayCall quiet
        notKeyframe rfl pushes (.inl rfl)
  | ok operation =>
      rw [isOperation] at native
      simp only at native
      split at native
      · rename_i known
        cases native
        exact .called call true _ _ _ onward mayCall quiet notKeyframe known
          pushes (.inr ⟨operation, now, isOperation, rfl⟩)
      · rename_i unknown
        cases native
        exact .called call false _ _ _ onward mayCall quiet notKeyframe
          (Bool.eq_false_of_not_eq_true unknown) pushes (.inl rfl)

end Worked

namespace Worked

variable {encoder : Encoder}

/-- The thread takes a message. -/
theorem of_takeMessage (here : encoder.position = .idle) :
    Worked encoder encoder.takeMessage := by
  unfold Encoder.takeMessage
  split
  · refine .moved encoder.position encoder.opening encoder.configuring
      ⟨rfl, id, ?_⟩ ?_ .inl .inl ?_ <;> simp [here, Position.assigns?]
  · rename_i message later isNext
    cases message with
    | cleanup =>
        exact .cleaned later here isNext
    | codecError text =>
        exact .took _ later _ here isNext (by simp) (.inr ⟨text, rfl, rfl⟩)
    | cameraDisconnected =>
        exact .tookClosed _ later _ _ here isNext (.inl rfl)
    | cameraError error =>
        exact .tookClosed _ later _ _ here isNext
          (.inr (.inl ⟨error, rfl⟩))
    | sessionFailed =>
        exact .tookClosed _ later _ _ here isNext (.inr (.inr rfl))
    | configure | outputBufferAvailable | outputFormatChanged
    | cameraOpened | sessionConfigured | requestKeyframe =>
        exact .took _ later _ here isNext (by simp) (.inl rfl)

/-- The thread reads `stopped`. -/
theorem of_check
    {message : Message}
    (here : encoder.position = .check message) :
    Worked encoder (encoder.check message) := by
  unfold Encoder.check
  cases message with
  | outputBufferAvailable buffer =>
      simp only
      split
      · rename_i permitted
        refine .of_goto ⟨?_, ?_, ?_⟩ ?_ (fun _ => .inr permitted.1) ?_ <;>
          simp [here, Position.buffer?, Message.buffer?, Position.canPush,
            Position.assigns?, Message.assigns?]
      · refine .of_goto ⟨?_, ?_, ?_⟩ ?_ nofun ?_ <;>
          simp [here, Position.buffer?, Message.buffer?, Position.canPush,
            Position.assigns?, Message.assigns?]
  | cameraOpened | sessionConfigured =>
      simp only
      split
      · rename_i stopped
        exact .refused _ (by rw [here]; rfl) stopped
      · rename_i running
        exact .assigned _ _ (by rw [here]; rfl)
          (Bool.eq_false_of_not_eq_true running) (by simp)
  | configure | outputFormatChanged | requestKeyframe =>
      cases stopped : encoder.stopped
      · refine .of_goto ⟨?_, ?_, ?_⟩ ?_ (fun _ => .inr stopped) ?_ <;>
          simp [here, stopped, Position.buffer?, Message.buffer?,
            Position.canPush, Position.assigns?, Message.assigns?]
      · refine .of_goto ⟨?_, ?_, ?_⟩ ?_ nofun ?_ <;>
          simp [here, stopped, Position.buffer?, Message.buffer?,
            Position.canPush, Position.assigns?, Message.assigns?]
  | _ =>
      refine .of_goto ⟨?_, ?_, ?_⟩ ?_ nofun ?_ <;>
        simp [here, Position.buffer?, Message.buffer?, Position.canPush,
          Position.assigns?, Message.assigns?]

/-- The thread pushes a buffer. -/
theorem of_push
    {buffer : OutputBuffer}
    (here : encoder.position = .push buffer)
    (response : Response) :
    Worked encoder (encoder.push buffer response) := by
  have onward (position : Position)
      (same : position.buffer? = some buffer)
      (spent : position.canPush = false)
      (unassigned : position.assigns? = none) :
      Onward encoder.position position := by
    rw [here]
    exact .of_spent same spent ⟨rfl, unassigned⟩
  have mayCall : encoder.position.mayCall = true := by
    rw [here]
    rfl
  unfold Encoder.push
  split
  · exact .of_goto (onward _ rfl rfl rfl) (by simp [here]) nofun
      (by simp [here])
  · exact .of_goto (onward _ rfl rfl rfl) (by simp [here]) nofun
      (by simp [here])
  · rename_i direct _
    have pushes (request : PushRequest)
        (isPush :
          NativeCall.pushAccessUnit {
              buffer := direct
              offset := buffer.offset
              size := buffer.size
              ptsUs := buffer.presentationTimeUs
              flags := buffer.flags } =
            .pushAccessUnit request) :
        ∃ buffer,
          encoder.position = .push buffer ∧ PushOf request buffer := by
      cases isPush
      exact ⟨buffer, here, rfl, rfl, rfl, rfl⟩
    rcases native : encoder.native _ response.now with ⟨after, result⟩
    cases result with
    | ok =>
        exact .of_native native (onward _ rfl rfl rfl) mayCall
          ⟨rfl, rfl, nofun⟩ (by simp [here]) pushes
    | error message =>
        exact .of_native native (onward _ rfl rfl rfl) mayCall
          ⟨rfl, rfl, nofun⟩ (by simp [here]) pushes

/-- The thread announces the parameter sets. -/
theorem of_announce
    {format : OutputFormat}
    (here : encoder.position = .announce format)
    (response : Response) :
    Worked encoder (encoder.announce format response) := by
  have quiet :
      encoder.position.buffer? = none ∧
        encoder.position.assigns? = none := by
    rw [here]
    exact ⟨rfl, rfl⟩
  have mayCall : encoder.position.mayCall = true := by
    rw [here]
    rfl
  unfold Encoder.announce
  simp only
  split
  · exact .of_goto (.of_quiet quiet ⟨rfl, rfl, rfl⟩) (by simp [here]) nofun
      (by simp [here])
  · split
    · rcases native : encoder.native _ response.now with ⟨after, result⟩
      cases result with
      | ok =>
          exact .of_native native (.of_quiet quiet ⟨rfl, rfl, rfl⟩) mayCall
            ⟨rfl, rfl, nofun⟩ (by simp [here]) nofun
      | error message =>
          exact .of_native native (.of_quiet quiet ⟨rfl, rfl, rfl⟩) mayCall
            ⟨rfl, rfl, nofun⟩ (by simp [here]) nofun
    · exact .of_goto (.of_quiet quiet ⟨rfl, rfl, rfl⟩) (by simp [here])
        nofun (by simp [here])

/-- A step of `configure`, which may throw. -/
theorem of_configured
    (quiet :
      encoder.position.buffer? = none ∧ encoder.position.assigns? = none)
    (here :
      encoder.position ≠ .quit ∧
        encoder.position ≠ .check .requestKeyframe)
    (response : Response)
    {next : Encoder → Encoder}
    (goesOn : Worked encoder (next encoder)) :
    Worked encoder (encoder.configured response next) := by
  unfold Encoder.configured
  split
  · exact .of_goto (.of_quiet quiet ⟨rfl, rfl, rfl⟩) ⟨here.1, by simp⟩
      nofun fun isCheck => (here.2 isCheck).elim
  · exact goesOn

/-- The thread sets the frame rate. -/
theorem of_setFrameRate
    {lower upper : Int32}
    (here : encoder.position = .setFrameRate lower upper)
    (response : Response) :
    Worked encoder (encoder.work response) := by
  have quiet :
      encoder.position.buffer? = none ∧
        encoder.position.assigns? = none := by
    rw [here]
    exact ⟨rfl, rfl⟩
  have mayCall : encoder.position.mayCall = true := by
    rw [here]
    rfl
  simp only [Encoder.work, here]
  rcases native : encoder.native _ response.now with ⟨after, result⟩
  cases result with
  | ok =>
      exact .of_native native (.of_quiet quiet ⟨rfl, rfl, rfl⟩) mayCall
        ⟨rfl, rfl, nofun⟩ (by simp [here]) nofun
  | error message =>
      exact .of_native native (.of_quiet quiet ⟨rfl, rfl, rfl⟩) mayCall
        ⟨rfl, rfl, nofun⟩ (by simp [here]) nofun

end Worked

/-- The thread does one of these things in every step. -/
theorem worked (encoder : Encoder) (response : Response) :
    Worked encoder (encoder.work response) := by
  have quiet
      (plain : Position)
      (none : plain.buffer? = .none ∧ plain.assigns? = .none)
      (here : encoder.position = plain) :
      encoder.position.buffer? = .none ∧
        encoder.position.assigns? = .none := by
    rw [here]
    exact none
  cases here : encoder.position with
  | idle =>
      simp only [Encoder.work, here]
      exact .of_takeMessage here
  | check message =>
      simp only [Encoder.work, here]
      exact .of_check here
  | createCodec =>
      have quiet := quiet _ ⟨rfl, rfl⟩ here
      simp only [Encoder.work, here]
      exact .of_configured quiet (by simp [here]) response
        (.acquired .codec .negotiate (.of_quiet quiet ⟨rfl, rfl, rfl⟩)
          (.inl ⟨here, rfl⟩))
  | negotiate =>
      have quiet := quiet _ ⟨rfl, rfl⟩ here
      simp only [Encoder.work, here]
      exact .of_configured quiet (by simp [here]) response
        (.of_goto (.of_quiet quiet ⟨rfl, rfl, rfl⟩) (by simp [here])
          (fun _ => .inl (by rw [here]; rfl)) (by simp [here]))
  | setFrameRate lower upper =>
      exact .of_setFrameRate here response
  | createInputSurface =>
      have quiet := quiet _ ⟨rfl, rfl⟩ here
      simp only [Encoder.work, here]
      exact .of_configured quiet (by simp [here]) response
        (.acquired .surface .openCamera (.of_quiet quiet ⟨rfl, rfl, rfl⟩)
          (.inr ⟨here, rfl⟩))
  | openCamera =>
      have quiet := quiet _ ⟨rfl, rfl⟩ here
      simp only [Encoder.work, here]
      exact .of_configured quiet (by simp [here]) response
        (.moved .idle true encoder.configuring
          (.of_quiet quiet ⟨rfl, rfl, rfl⟩) (by simp [here]) nofun nofun
          (by simp [here]))
  | push buffer =>
      simp only [Encoder.work, here]
      exact .of_push here response
  | announce format =>
      simp only [Encoder.work, here]
      exact .of_announce here response
  | createCaptureSession =>
      have quiet := quiet _ ⟨rfl, rfl⟩ here
      simp only [Encoder.work, here]
      split
      · exact .of_goto (.of_quiet quiet ⟨rfl, rfl, rfl⟩) (by simp [here])
          nofun (by simp [here])
      · exact .moved .idle encoder.opening true
          (.of_quiet quiet ⟨rfl, rfl, rfl⟩) (by simp [here]) nofun nofun
          (by simp [here])
  | setRepeatingRequest =>
      have quiet := quiet _ ⟨rfl, rfl⟩ here
      simp only [Encoder.work, here]
      split
      · exact .of_goto (.of_quiet quiet ⟨rfl, rfl, rfl⟩) (by simp [here])
          nofun (by simp [here])
      · exact .acted .onConfigured .idle (.of_quiet quiet ⟨rfl, rfl, rfl⟩)
          (by simp) (by rw [here]; rfl) ⟨rfl, nofun⟩
  | setParameters =>
      have quiet := quiet _ ⟨rfl, rfl⟩ here
      simp only [Encoder.work, here]
      split
      · exact .acted .setParameters .idle (.of_quiet quiet ⟨rfl, rfl, rfl⟩)
          (by simp) (by rw [here]; rfl) ⟨rfl, nofun⟩
      · exact .of_goto (.of_quiet quiet ⟨rfl, rfl, rfl⟩) (by simp [here])
          nofun (by simp [here])
  | fail message buffer =>
      simp only [Encoder.work, here]
      split
      · cases buffer <;> refine .of_goto (.of_spent ?_ rfl ?_) ?_ nofun ?_ <;>
          simp [here, Position.buffer?, Position.assigns?]
      · rename_i running
        refine .of_goto (.of_spent ?_ rfl ?_) ?_
          (fun _ => .inr (Bool.eq_false_of_not_eq_true running)) ?_ <;>
          simp [here, Position.buffer?, Position.assigns?]
  | onError message buffer =>
      simp only [Encoder.work, here]
      cases buffer <;>
        refine .acted (.onError message) _ (.of_spent ?_ rfl ?_) (by simp)
          (by rw [here]; rfl) ⟨rfl, nofun⟩ <;>
        simp [here, Position.buffer?, Position.assigns?]
  | release buffer =>
      simp only [Encoder.work, here]
      exact .released buffer here
  | quit =>
      simp only [Encoder.work, here]
      exact .quit here

end CamRtsp.CameraEncoder
