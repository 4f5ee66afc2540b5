import CamRtsp.EncoderThread

namespace CamRtsp.CameraEncoder

/-!
# What the other threads do to the encoder

The service and the framework post messages, acquire the camera and set flags.
They neither move the encoder's thread nor touch its fields.
-/

/-! ## Posting and closing -/

/-- The message that was posted. -/
def posted? : Call → Option Message
  | .posted message => some message
  | _ => none

/-- The message that was taken. -/
def handled? : Call → Option Message
  | .handled message => some message
  | _ => none

namespace Encoder

section Fields

variable (encoder : Encoder)
variable (message : Message)
variable (resource : Resource)

@[simp] theorem position_post :
    (encoder.post message).position = encoder.position := by
  unfold post
  split <;> rfl

@[simp] theorem stopped_post :
    (encoder.post message).stopped = encoder.stopped := by
  unfold post
  split <;> rfl

@[simp] theorem complete_post :
    (encoder.post message).complete = encoder.complete := by
  unfold post
  split <;> rfl

@[simp] theorem owner_post :
    (encoder.post message).owner = encoder.owner := by
  unfold post
  split <;> rfl

@[simp] theorem known_post :
    (encoder.post message).known = encoder.known := by
  unfold post
  split <;> rfl

@[simp] theorem quitting_post :
    (encoder.post message).quitting = encoder.quitting := by
  unfold post
  split <;> rfl

@[simp] theorem held_post :
    (encoder.post message).held = encoder.held := by
  unfold post
  split <;> rfl

@[simp] theorem opened_post :
    (encoder.post message).opened = encoder.opened := by
  unfold post
  split <;> rfl

/-- The message is posted, or it is lost. -/
theorem log_post :
    ∃ call,
      (encoder.post message).log = encoder.log ++ [call] ∧
        (call = .posted message ∧ encoder.quitting = false ∧
            (encoder.post message).queue = encoder.queue ++ [message] ∨
          call = .lost message ∧ encoder.quitting = true ∧
            (encoder.post message).queue = encoder.queue) := by
  unfold post
  split
  · rename_i quitting
    exact ⟨_, rfl, .inr ⟨rfl, quitting, rfl⟩⟩
  · rename_i running
    exact ⟨_, rfl,
      .inl ⟨rfl, Bool.eq_false_of_not_eq_true running, rfl⟩⟩

/-- A field that is not null is closed. -/
theorem drop_eq :
    encoder.drop resource =
      { encoder with
        held := encoder.held.filter (· ≠ resource)
        opened :=
          if resource ∈ encoder.held then
            encoder.opened.filter (· ≠ resource)
          else
            encoder.opened
        log :=
          encoder.log ++
            if resource ∈ encoder.held then [.closed resource] else [] } := by
  unfold drop
  split
  · rfl
  · rename_i isNull
    have same : encoder.held.filter (· ≠ resource) = encoder.held := by
      rw [List.filter_eq_self]
      intro other member
      simp only [ne_eq, decide_eq_true_eq]
      rintro rfl
      exact isNull member
    rw [same, List.append_nil]

end Fields

/-- Some fields are closed and null now. -/
structure Dropped
    (gone : List Resource)
    (before after : Encoder)
    (opened : List Resource)
    (closes : List Call) : Prop where
  eq :
    after =
      { before with
        held := before.held.filter (· ∉ gone)
        opened := opened
        log := before.log ++ closes }
  isOpen :
    ∀ resource ∈ opened,
      resource ∈ before.opened ∧ (resource ∈ gone → resource ∉ before.held)
  isClose : ∀ call ∈ closes, ∃ resource, call = .closed resource

/-- One more field is closed. -/
theorem Dropped.drop
    {gone : List Resource}
    {before after : Encoder}
    {opened : List Resource}
    {closes : List Call}
    (dropped : Dropped gone before after opened closes)
    (resource : Resource) :
    ∃ openedAfter closesAfter,
      Dropped (resource :: gone) before (after.drop resource) openedAfter
        closesAfter := by
  obtain ⟨rfl, isOpen, isClose⟩ := dropped
  let held := before.held.filter (· ∉ gone)
  refine
    ⟨if resource ∈ held then opened.filter (· ≠ resource) else opened,
      closes ++ if resource ∈ held then [.closed resource] else [],
      ?_, ?_, ?_⟩
  · rw [drop_eq, List.filter_filter, List.append_assoc]
    simp [held, and_comm]
  · intro other member
    split at member
    · obtain ⟨inOpened, different⟩ := List.mem_filter.mp member
      refine ⟨(isOpen other inOpened).1, fun isGone => ?_⟩
      rcases List.mem_cons.mp isGone with rfl | earlier
      · simp at different
      · exact (isOpen other inOpened).2 earlier
    · rename_i isNull
      refine ⟨(isOpen other member).1, fun isGone isHeld => ?_⟩
      by_cases earlier : other ∈ gone
      · exact (isOpen other member).2 earlier isHeld
      · rcases List.mem_cons.mp isGone with rfl | isEarlier
        · exact isNull
            (List.mem_filter.mpr ⟨isHeld, decide_eq_true earlier⟩)
        · exact earlier isEarlier
  · intro call member
    rcases List.mem_append.mp member with early | late
    · exact isClose call early
    · split at late
      · exact ⟨resource, List.mem_singleton.mp late⟩
      · cases late

/-- The clean-up closes all fields. -/
theorem cleanup_spec (encoder : Encoder) :
    ∃ opened closes,
      encoder.cleanup =
          { encoder with
            held := []
            opened := opened
            complete := true
            position := .quit
            log := encoder.log ++ closes ++ [.cleaned] } ∧
        (∀ resource ∈ opened,
          resource ∈ encoder.opened ∧ resource ∉ encoder.held) ∧
          ∀ call ∈ closes, ∃ resource, call = .closed resource := by
  have none : Dropped [] encoder encoder encoder.opened [] := by
    refine ⟨?_, by simp, by simp⟩
    simp
  obtain ⟨_, _, noSession⟩ := none.drop .session
  obtain ⟨_, _, noCamera⟩ := noSession.drop .camera
  obtain ⟨_, _, noCodec⟩ := noCamera.drop .codec
  obtain ⟨opened, closes, eq, isOpen, isClose⟩ := noCodec.drop .surface
  have all (resource : Resource) :
      resource ∈ [Resource.surface, .codec, .camera, .session] := by
    cases resource <;> simp
  refine ⟨opened, closes, ?_, fun resource member => ?_, isClose⟩
  · have nothing :
        encoder.held.filter
            (· ∉ [Resource.surface, .codec, .camera, .session]) =
          [] := by
      rw [List.filter_eq_nil_iff]
      intro resource _ outside
      exact of_decide_eq_true outside (all resource)
    simp only [cleanup, eq, nothing]
    rfl
  · exact ⟨(isOpen resource member).1,
      (isOpen resource member).2 (all resource)⟩

end Encoder

/-! ## Steps of other threads -/

/-- A call that is neither the thread's nor the codec's. -/
def Call.isForeign : Call → Bool
  | .posted _ => true
  | .lost _ => true
  | .acquired _ => true
  | .timedOut => true
  | .stop => true
  | _ => false

/-- The service does not wait for the clean-up any more. -/
def Owner.hasReturned : Owner → Bool
  | .returned => true
  | .released => true
  | _ => false

/-- The server has gone, or nothing keeps it. -/
def Encoder.IsForsaken (encoder : Encoder) : Prop :=
  encoder.known = false ∨ encoder.owner.hasReturned = true

/-- What a step of another thread leaves alone, and what it adds. -/
structure Elsewhere
    (before : Encoder)
    (event : Event)
    (calls : List Call) : Prop where
  log : (before.step event).log = before.log ++ calls
  position : (before.step event).position = before.position
  held : (before.step event).held = before.held
  complete : (before.step event).complete = before.complete
  queue :
    (before.step event).queue = before.queue ++ calls.filterMap posted?
  opened :
    ∀ resource ∈ (before.step event).opened,
      resource ∈ before.opened ∨
        ∃ message,
          message.assigns? = some resource ∧
            (.posted message ∈ calls ∨ .lost message ∈ calls)
  foreign : ∀ call ∈ calls, call.isForeign = true
  forsaken :
    (before.step event).IsForsaken →
      before.IsForsaken ∨ before.complete = true ∨ .timedOut ∈ calls
  stops :
    (before.step event).stopped = before.stopped ∧ .stop ∉ calls ∨
      calls = [.stop] ∧ before.owner = .free ∧
        (before.step event).stopped = true

namespace Elsewhere

variable {before : Encoder}
variable {event : Event}

/-- A step that makes one call at most and posts nothing. -/
theorem of_plain
    (calls : List Call)
    (log : (before.step event).log = before.log ++ calls)
    (same :
      (before.step event).position = before.position ∧
        (before.step event).held = before.held ∧
          (before.step event).complete = before.complete ∧
            (before.step event).opened = before.opened ∧
              (before.step event).queue = before.queue)
    (calm :
      calls.filterMap posted? = [] ∧
        ∀ call ∈ calls, call.isForeign = true)
    (forsaken :
      (before.step event).IsForsaken →
        before.IsForsaken ∨ before.complete = true ∨ .timedOut ∈ calls)
    (stops :
      (before.step event).stopped = before.stopped ∧ .stop ∉ calls ∨
        calls = [.stop] ∧ before.owner = .free ∧
          (before.step event).stopped = true) :
    ∃ calls, Elsewhere before event calls := by
  obtain ⟨position, held, complete, opened, queue⟩ := same
  refine
    ⟨calls, log, position, held, complete, ?_, ?_, calm.2, forsaken, stops⟩
  · rw [queue, calm.1, List.append_nil]
  · rw [opened]
    exact fun resource member => .inl member

/-- A step that does nothing. -/
theorem of_same (same : before.step event = before) :
    ∃ calls, Elsewhere before event calls :=
  of_plain [] (by rw [same, List.append_nil])
    (by rw [same]; exact ⟨rfl, rfl, rfl, rfl, rfl⟩) ⟨rfl, nofun⟩
    (by rw [same]; exact .inl) (.inl (by rw [same]; exact ⟨rfl, nofun⟩))

/-- A step that posts a message. -/
theorem of_post
    (between : Encoder)
    (message : Message)
    (calls : List Call)
    (stepped : before.step event = between.post message)
    (log : between.log = before.log ++ calls)
    (same :
      between.position = before.position ∧ between.held = before.held ∧
        between.complete = before.complete ∧
          between.queue = before.queue ∧
            between.stopped = before.stopped)
    (calm :
      calls.filterMap posted? = [] ∧
        ∀ call ∈ calls, call.isForeign = true ∧ call ≠ .stop)
    (opened :
      ∀ resource ∈ between.opened,
        resource ∈ before.opened ∨ message.assigns? = some resource)
    (forsaken : between.IsForsaken → before.IsForsaken) :
    ∃ calls, Elsewhere before event calls := by
  obtain ⟨position, held, complete, queue, stopped⟩ := same
  obtain ⟨call, posted, kind⟩ := between.log_post message
  have isCall : call = .posted message ∨ call = .lost message :=
    kind.imp And.left And.left
  refine ⟨calls ++ [call], ?_, ?_, ?_, ?_, ?_, ?_, ?_, ?_, .inl ⟨?_, ?_⟩⟩
  · rw [stepped, posted, log, List.append_assoc]
  · rw [stepped, Encoder.position_post, position]
  · rw [stepped, Encoder.held_post, held]
  · rw [stepped, Encoder.complete_post, complete]
  · rw [stepped, List.filterMap_append, calm.1, List.nil_append, ← queue]
    rcases kind with ⟨rfl, _, queued⟩ | ⟨rfl, _, queued⟩
    · exact queued
    · rw [queued]
      exact (List.append_nil _).symm
  · rw [stepped, Encoder.opened_post]
    intro resource member
    refine (opened resource member).imp id fun assigns => ?_
    refine ⟨message, assigns, ?_⟩
    rcases isCall with rfl | rfl <;> simp
  · intro other member
    rcases List.mem_append.mp member with early | last
    · exact (calm.2 other early).1
    · rw [List.mem_singleton.mp last]
      rcases isCall with rfl | rfl <;> rfl
  · rw [stepped, Encoder.IsForsaken, Encoder.known_post,
      Encoder.owner_post]
    exact fun gone => .inl (forsaken gone)
  · rw [stepped, Encoder.stopped_post, stopped]
  · intro member
    rcases List.mem_append.mp member with early | last
    · exact (calm.2 _ early).2 rfl
    · rw [← List.mem_singleton.mp last] at isCall
      rcases isCall with isPosted | isLost
      · cases isPosted
      · cases isLost

end Elsewhere

/-- Only the thread itself makes its calls. -/
theorem work_or_elsewhere (before : Encoder) (event : Event) :
    (∃ response, event = .work response) ∨
      ∃ calls, Elsewhere before event calls := by
  cases event with
  | work response =>
      exact .inl ⟨response, rfl⟩
  | outside operation =>
      right
      by_cases permitted : NativeBridge.isConnections operation = true
      · have stepped :
            before.step (.outside operation) =
              { before with
                broadcaster := before.broadcaster.step operation } := by
          simp [Encoder.step, permitted]
        exact Elsewhere.of_plain [] (by simp [stepped]) (by simp [stepped])
          ⟨rfl, nofun⟩ (by rw [stepped]; exact .inl)
          (.inl ⟨by simp [stepped], nofun⟩)
      · exact Elsewhere.of_same (by simp [Encoder.step, permitted])
  | start =>
      right
      by_cases starts : before.owner = .free ∧ before.started = false
      · exact Elsewhere.of_post { before with started := true } .configure []
          (by simp only [Encoder.step, if_pos starts]) (by simp)
          ⟨rfl, rfl, rfl, rfl, rfl⟩ ⟨rfl, nofun⟩
          (fun resource member => .inl member) id
      · exact Elsewhere.of_same (by simp only [Encoder.step, if_neg starts])
  | poll =>
      right
      by_cases polls : before.owner = .free ∧ before.started
      · have stepped :
            before.step .poll =
              { before with
                broadcaster := before.broadcaster.takeKeyframeRequest.2
                owner :=
                  if before.broadcaster.takeKeyframeRequest.1 then
                    .taken
                  else
                    .free } := by
          simp only [Encoder.step, Encoder.poll, if_pos polls]
        refine Elsewhere.of_plain [] (by simp [stepped]) (by simp [stepped])
          ⟨rfl, nofun⟩ ?_ (.inl ⟨by simp [stepped], nofun⟩)
        rw [stepped]
        rintro (unknown | returned)
        · exact .inl (.inl unknown)
        · simp only at returned
          split at returned <;> cases returned
      · exact Elsewhere.of_same
          (by simp only [Encoder.step, Encoder.poll, if_neg polls])
  | requestKeyframe =>
      right
      by_cases taken : before.owner = .taken
      · exact Elsewhere.of_post { before with owner := .free }
          .requestKeyframe [] (by simp only [Encoder.step, if_pos taken])
          (by simp) ⟨rfl, rfl, rfl, rfl, rfl⟩ ⟨rfl, nofun⟩
          (fun resource member => .inl member)
          fun gone => gone.imp_right nofun
      · exact Elsewhere.of_same (by simp only [Encoder.step, if_neg taken])
  | stop =>
      right
      by_cases free : before.owner = .free
      · have stepped :
            before.step .stop =
              { before.note .stop with
                stopped := true, owner := .posting } := by
          simp only [Encoder.step, if_pos free]
        refine Elsewhere.of_plain [.stop] (by rw [stepped]; rfl)
          (by rw [stepped]; exact ⟨rfl, rfl, rfl, rfl, rfl⟩)
          ⟨rfl, by simp [Call.isForeign]⟩ ?_
          (.inr ⟨rfl, free, by rw [stepped]⟩)
        rw [stepped]
        exact fun gone => .inl (gone.imp_right nofun)
      · exact Elsewhere.of_same (by simp only [Encoder.step, if_neg free])
  | postCleanup =>
      right
      by_cases posting : before.owner = .posting
      · exact Elsewhere.of_post { before with owner := .awaiting } .cleanup []
          (by simp only [Encoder.step, if_pos posting]) (by simp)
          ⟨rfl, rfl, rfl, rfl, rfl⟩ ⟨rfl, nofun⟩
          (fun resource member => .inl member)
          fun gone => gone.imp_right nofun
      · exact Elsewhere.of_same
          (by simp only [Encoder.step, if_neg posting])
  | await timeout =>
      right
      by_cases awaiting : before.owner = .awaiting
      · cases complete : before.complete with
        | true =>
            have stepped :
                before.step (.await timeout) =
                  { before with owner := .returned } := by
              simp [Encoder.step, Encoder.await, awaiting, complete]
            exact Elsewhere.of_plain [] (by simp [stepped])
              (by simp [stepped]) ⟨rfl, nofun⟩
              (fun _ => .inr (.inl complete))
              (.inl ⟨by simp [stepped], nofun⟩)
        | false =>
            cases timeout with
            | true =>
                have stepped :
                    before.step (.await true) =
                      { before.note .timedOut with owner := .returned } := by
                  simp [Encoder.step, Encoder.await, awaiting, complete]
                exact Elsewhere.of_plain [.timedOut] (by rw [stepped]; rfl)
                  (by rw [stepped]; exact ⟨rfl, rfl, rfl, rfl, rfl⟩)
                  ⟨rfl, by simp [Call.isForeign]⟩
                  (fun _ => .inr (.inr (by simp)))
                  (.inl ⟨by rw [stepped]; rfl, by simp⟩)
            | false =>
                exact Elsewhere.of_same
                  (by simp [Encoder.step, Encoder.await, complete])
      · exact Elsewhere.of_same
          (by simp only [Encoder.step, Encoder.await, if_neg awaiting])
  | stopServer =>
      right
      by_cases returned : before.owner = .returned
      · have stepped :
            before.step .stopServer =
              { before with known := false, owner := .released } := by
          simp only [Encoder.step, if_pos returned]
        exact Elsewhere.of_plain [] (by simp [stepped]) (by simp [stepped])
          ⟨rfl, nofun⟩ (fun _ => .inl (.inr (by rw [returned]; rfl)))
          (.inl ⟨by simp [stepped], nofun⟩)
      · exact Elsewhere.of_same
          (by simp only [Encoder.step, if_neg returned])
  | callback message =>
      right
      by_cases isCallback : message.isCallback = true
      · exact Elsewhere.of_post before message []
          (by simp only [Encoder.step, if_pos isCallback]) (by simp)
          ⟨rfl, rfl, rfl, rfl, rfl⟩ ⟨rfl, nofun⟩
          (fun resource member => .inl member) id
      · exact Elsewhere.of_same
          (by simp only [Encoder.step, if_neg isCallback])
  | cameraOpened =>
      right
      by_cases opening : before.opening = true
      · exact Elsewhere.of_post
          { before.acquire .camera with opening := false } .cameraOpened
          [.acquired .camera] (by simp only [Encoder.step, if_pos opening])
          rfl ⟨rfl, rfl, rfl, rfl, rfl⟩ ⟨rfl, by simp [Call.isForeign]⟩
          (fun resource member => (List.mem_append.mp member).imp_right
            fun last => by rw [List.mem_singleton.mp last]; rfl) id
      · exact Elsewhere.of_same
          (by simp only [Encoder.step, if_neg opening])
  | sessionConfigured =>
      right
      by_cases configuring : before.configuring = true
      · exact Elsewhere.of_post
          { before.acquire .session with configuring := false }
          .sessionConfigured [.acquired .session]
          (by simp only [Encoder.step, if_pos configuring]) rfl
          ⟨rfl, rfl, rfl, rfl, rfl⟩ ⟨rfl, by simp [Call.isForeign]⟩
          (fun resource member => (List.mem_append.mp member).imp_right
            fun last => by rw [List.mem_singleton.mp last]; rfl) id
      · exact Elsewhere.of_same
          (by simp only [Encoder.step, if_neg configuring])
  | sessionFailed =>
      right
      by_cases configuring : before.configuring = true
      · exact Elsewhere.of_post { before with configuring := false }
          .sessionFailed []
          (by simp only [Encoder.step, if_pos configuring]) (by simp)
          ⟨rfl, rfl, rfl, rfl, rfl⟩ ⟨rfl, nofun⟩
          (fun resource member => .inl member) id
      · exact Elsewhere.of_same
          (by simp only [Encoder.step, if_neg configuring])

end CamRtsp.CameraEncoder
