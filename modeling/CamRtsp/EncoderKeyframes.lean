import CamRtsp.EncoderShutdown
import CamRtsp.KeyframeObligation

namespace CamRtsp.CameraEncoder

open Broadcaster (Operation)

/-!
# Keyframe requests on Android

The service takes a request from the server and posts a message, and the
encoder's thread asks the codec when its turn comes.  As long as the service
has not stopped the encoder no request gets lost on this way.
-/

namespace Encoder

/-- The request is at one of its places. -/
def Pending (encoder : Encoder) : Prop :=
  encoder.broadcaster.state.keyframeRequested = true ∨
    encoder.owner = .taken ∨ .requestKeyframe ∈ encoder.queue ∨
      encoder.position = .check .requestKeyframe ∨
        encoder.position = .setParameters

/-- The thread asks its codec for a keyframe. -/
def Asks (encoder : Encoder) (event : Event) : Prop :=
  (encoder.step event).log = encoder.log ++ [.setParameters]

/-- The thread comes to ask, but it holds no codec. -/
def LacksCodec (encoder : Encoder) (event : Event) : Prop :=
  ∃ response,
    event = .work response ∧ encoder.position = .setParameters ∧
      .codec ∉ encoder.held

/-- Behind the check the thread asks the codec, if it holds one. -/
theorem asks_or_lacksCodec
    {encoder : Encoder}
    (here : encoder.position = .setParameters)
    (response : Response) :
    encoder.Asks (.work response) ∨ encoder.LacksCodec (.work response) := by
  by_cases held : .codec ∈ encoder.held
  · left
    simp only [Asks, step, work, here, if_pos held]
    rfl
  · exact .inr ⟨response, rfl, here, held⟩

end Encoder

/-! ## The broadcaster -/

/-- The native calls of the encoder take no request. -/
theorem NativeCall.operation_ne_take
    {call : NativeCall}
    {now : Instant}
    {operation : Operation}
    (isOperation : call.operation now = .ok operation) :
    operation ≠ .takeKeyframeRequest := by
  rintro rfl
  cases call with
  | setFrameRate numerator denominator =>
      simp only [NativeCall.operation] at isOperation
      cases checked : NativeBridge.checkFrameRate numerator denominator <;>
        rw [checked] at isOperation <;> cases isOperation
  | pushAccessUnit request =>
      simp only [NativeCall.operation] at isOperation
      cases read : request.accessUnit <;> rw [read] at isOperation <;>
        cases isOperation
  | setCodecConfig sps pps =>
      simp only [NativeCall.operation] at isOperation
      cases read : NativeBridge.codecConfig (.ok sps) (.ok pps) <;>
        rw [read] at isOperation <;> cases isOperation

section Steps

variable {encoder before after : Encoder}
variable {event : Event}
variable {id : SubscriptionId}

/-- A message is posted without the broadcaster. -/
theorem broadcaster_post (encoder : Encoder) (message : Message) :
    (encoder.post message).broadcaster = encoder.broadcaster := by
  unfold Encoder.post
  split <;> rfl

/-- The thread does one operation, or none, and takes no request. -/
theorem exists_operations_of_worked (worked : Worked before after) :
    ∃ operations,
      after.broadcaster = before.broadcaster.run operations ∧
        .takeKeyframeRequest ∉ operations := by
  cases worked with
  | called call known result broadcaster position onward mayCall quiet
      notKeyframe isKnown pushes heard =>
      rcases heard with rfl | ⟨operation, now, isOperation, rfl⟩
      · exact ⟨[], rfl, by simp⟩
      · refine ⟨[operation], rfl, ?_⟩
        intro member
        exact NativeCall.operation_ne_take isOperation
          (List.mem_singleton.mp member).symm
  | cleaned later here isNext =>
      obtain ⟨opened, closes, eq, _⟩ :=
        Encoder.cleanup_spec
          ({ before with queue := later }.note (.handled .cleanup))
      rw [eq]
      exact ⟨[], rfl, by simp⟩
  | _ =>
      exact ⟨[], rfl, by simp⟩

/-- What an event but `poll` does with the broadcaster. -/
theorem exists_operations
    (encoder : Encoder)
    (notPoll : event ≠ .poll) :
    ∃ operations,
      (encoder.step event).broadcaster =
          encoder.broadcaster.run operations ∧
        .takeKeyframeRequest ∉ operations := by
  have nothing (same : (encoder.step event).broadcaster =
      encoder.broadcaster) :
      ∃ operations,
        (encoder.step event).broadcaster =
            encoder.broadcaster.run operations ∧
          .takeKeyframeRequest ∉ operations :=
    ⟨[], same, by simp⟩
  cases event with
  | poll =>
      exact (notPoll rfl).elim
  | work response =>
      exact exists_operations_of_worked (worked encoder response)
  | outside operation =>
      simp only [Encoder.step]
      split
      · rename_i permitted
        refine ⟨[operation], rfl, ?_⟩
        intro member
        rw [← List.mem_singleton.mp member] at permitted
        cases permitted
      · exact ⟨[], rfl, by simp⟩
  | await timeout =>
      apply nothing
      simp only [Encoder.step, Encoder.await]
      repeat' split
      all_goals rfl
  | start | requestKeyframe | postCleanup | callback | cameraOpened
  | sessionConfigured | sessionFailed =>
      apply nothing
      simp only [Encoder.step]
      split
      · exact broadcaster_post _ _
      · rfl
  | stop | stopServer =>
      apply nothing
      simp only [Encoder.step]
      split <;> rfl

/-! ## The request on its way -/

/-- The thread leaves the service and the flag alone. -/
theorem same_of_worked (worked : Worked before after) :
    after.owner = before.owner ∧ after.stopped = before.stopped := by
  cases worked with
  | cleaned later here isNext =>
      obtain ⟨opened, closes, eq, _⟩ :=
        Encoder.cleanup_spec
          ({ before with queue := later }.note (.handled .cleanup))
      rw [eq]
      exact ⟨rfl, rfl⟩
  | _ =>
      exact ⟨rfl, rfl⟩

/-- A posted request moves on, unless the codec is asked. -/
theorem pending_of_worked
    (worked : Worked before after)
    (running : before.stopped = false)
    (posted :
      .requestKeyframe ∈ before.queue ∨
        before.position = .check .requestKeyframe) :
    .requestKeyframe ∈ after.queue ∨
      after.position = .check .requestKeyframe ∨
        after.position = .setParameters := by
  cases worked with
  | moved position opening configuring onward notQuit mayCall pastCheck
      keyframe =>
      rcases posted with waiting | checked
      · exact .inl waiting
      · rcases keyframe checked with stopped | asks
        · rw [running] at stopped
          cases stopped
        · exact .inr (.inr asks)
  | took message later position here isNext notCleanup goes =>
      rcases posted with waiting | checked
      · rw [isNext] at waiting
        rcases List.mem_cons.mp waiting with rfl | isLater
        · rcases goes with rfl | ⟨text, isError, _⟩
          · exact .inr (.inl rfl)
          · cases isError
        · exact .inl isLater
      · rw [here] at checked
        cases checked
  | tookClosed message later resource text here isNext isCallback =>
      rcases posted with waiting | checked
      · rw [isNext] at waiting
        rcases List.mem_cons.mp waiting with rfl | isLater
        · rcases isCallback with isIt | ⟨error, isIt⟩ | isIt <;> cases isIt
        · exact .inl isLater
      · rw [here] at checked
        cases checked
  | cleaned later here isNext =>
      obtain ⟨opened, closes, eq, _⟩ :=
        Encoder.cleanup_spec
          ({ before with queue := later }.note (.handled .cleanup))
      rcases posted with waiting | checked
      · rw [isNext] at waiting
        rcases List.mem_cons.mp waiting with isIt | isLater
        · cases isIt
        · rw [eq]
          exact .inl isLater
      · rw [here] at checked
        cases checked
  | assigned resource position assigns running next =>
      refine .inl (posted.resolve_right fun checked => ?_)
      rw [checked] at assigns
      cases assigns
  | refused resource assigns stopped =>
      refine .inl (posted.resolve_right fun checked => ?_)
      rw [checked] at assigns
      cases assigns
  | acquired resource position onward between =>
      refine .inl (posted.resolve_right fun checked => ?_)
      rw [checked] at between
      rcases between with ⟨isIt, _⟩ | ⟨isIt, _⟩ <;> cases isIt
  | called call known result broadcaster position onward mayCall =>
      refine .inl (posted.resolve_right fun checked => ?_)
      rw [checked] at mayCall
      cases mayCall
  | acted call position onward active mayCall =>
      refine .inl (posted.resolve_right fun checked => ?_)
      rw [checked] at mayCall
      cases mayCall
  | released buffer here =>
      refine .inl (posted.resolve_right fun checked => ?_)
      rw [here] at checked
      cases checked
  | quit here =>
      refine .inl (posted.resolve_right fun checked => ?_)
      rw [here] at checked
      cases checked

/-- The service and its encoder are in order. -/
structure Sound (encoder : Encoder) : Prop where
  valid : Valid encoder
  wellFormed : encoder.broadcaster.WellFormed

/-- Every step keeps them in order. -/
theorem Sound.step (sound : Sound encoder) (event : Event) :
    Sound (encoder.step event) where
  valid := sound.valid.step event
  wellFormed := by
    by_cases isPoll : event = .poll
    · subst isPoll
      simp only [Encoder.step, Encoder.poll]
      split
      · exact sound.wellFormed.step .takeKeyframeRequest
      · exact sound.wellFormed
    · obtain ⟨operations, broadcaster, _⟩ :=
        exists_operations encoder isPoll
      rw [broadcaster]
      exact sound.wellFormed.run operations

/-- A stopped encoder stays stopped. -/
theorem stopped_step
    (stopped : encoder.stopped = true)
    (event : Event) :
    (encoder.step event).stopped = true := by
  rcases work_or_elsewhere encoder event with
    ⟨response, rfl⟩ | ⟨calls, others⟩
  · simp only [Encoder.step]
    exact (same_of_worked (worked encoder response)).2.trans stopped
  · rcases others.stops with ⟨same, _⟩ | ⟨_, _, isStopped⟩
    · exact same.trans stopped
    · exact isStopped

/-- A viewer that starts to wait sets the request. -/
theorem requested_of_waiting_step
    (sound : Sound encoder)
    (none : ¬ Broadcaster.Waiting id encoder.broadcaster)
    (waiting : Broadcaster.Waiting id (encoder.step event).broadcaster) :
    (encoder.step event).broadcaster.state.keyframeRequested = true := by
  by_cases isPoll : event = .poll
  · subst isPoll
    refine (none ?_).elim
    simp only [Encoder.step, Encoder.poll] at waiting
    split at waiting
    · have stepped :
          Broadcaster.Waiting id
            (encoder.broadcaster.step .takeKeyframeRequest) :=
        waiting
      exact Broadcaster.waiting_of_waiting_step sound.wellFormed stepped
        not_false
    · exact waiting
  · obtain ⟨operations, broadcaster, notTaken⟩ :=
      exists_operations encoder isPoll
    rw [broadcaster] at waiting ⊢
    exact Broadcaster.requested_of_waiting_run sound.wellFormed none
      notTaken waiting

/-- A request that was taken stays so until it is posted. -/
theorem taken_step
    (taken : encoder.owner = .taken)
    (notWork : ∀ response, event ≠ .work response)
    (notPosted : event ≠ .requestKeyframe) :
    (encoder.step event).owner = .taken := by
  cases event with
  | requestKeyframe =>
      exact (notPosted rfl).elim
  | work response =>
      exact (notWork response rfl).elim
  | outside | callback | cameraOpened | sessionConfigured
  | sessionFailed =>
      simp only [Encoder.step]
      split <;> simp [Encoder.acquire, Encoder.note, taken]
  | start | stop | postCleanup | stopServer =>
      simp [Encoder.step, taken]
  | poll =>
      simp [Encoder.step, Encoder.poll, taken]
  | await timeout =>
      simp [Encoder.step, Encoder.await, taken]

/-- The service posts the request that it has taken. -/
theorem posted_of_taken
    (valid : Valid encoder)
    (taken : encoder.owner = .taken) :
    .requestKeyframe ∈ (encoder.step .requestKeyframe).queue := by
  simp only [Encoder.step, if_pos taken]
  obtain ⟨call, _, ⟨_, _, queue⟩ | ⟨_, quits, _⟩⟩ :=
    Encoder.log_post { encoder with owner := .free } .requestKeyframe
  · rw [queue]
    exact List.mem_append_right _ (List.mem_singleton_self _)
  · have posted := valid.complete (valid.quitting (.inl quits))
    rw [taken] at posted
    cases posted

/-- The service takes the request, or leaves it where it is. -/
theorem pending_poll
    (requested : encoder.broadcaster.state.keyframeRequested = true) :
    (encoder.step .poll).Pending := by
  simp only [Encoder.step, Encoder.poll]
  split
  · right; left
    exact if_pos requested
  · exact .inl requested

/-- A request moves on to the next place, if a step moves it at all. -/
theorem pending_step
    (sound : Sound encoder)
    (pending : encoder.Pending)
    (notAsked : ¬ (encoder.Asks event ∨ encoder.LacksCodec event))
    (running : (encoder.step event).stopped = false) :
    (encoder.step event).Pending := by
  -- Every step but `poll` leaves a request at the broadcaster there.
  have atBroadcaster
      (requested : encoder.broadcaster.state.keyframeRequested = true) :
      (encoder.step event).Pending := by
    by_cases isPoll : event = .poll
    · subst isPoll
      exact pending_poll requested
    · obtain ⟨operations, broadcaster, notTaken⟩ :=
        exists_operations encoder isPoll
      left
      rw [broadcaster]
      exact Broadcaster.requested_run requested notTaken
  rcases work_or_elsewhere encoder event with
    ⟨response, rfl⟩ | ⟨calls, others⟩
  · have does := worked encoder response
    have wasRunning : encoder.stopped = false :=
      (same_of_worked does).2.symm.trans running
    rcases pending with requested | taken | waiting | checked | asks
    · exact atBroadcaster requested
    · exact .inr (.inl ((same_of_worked does).1.trans taken))
    · exact .inr (.inr (pending_of_worked does wasRunning (.inl waiting)))
    · exact .inr (.inr (pending_of_worked does wasRunning (.inr checked)))
    · exact (notAsked (Encoder.asks_or_lacksCodec asks response)).elim
  · rcases pending with requested | taken | waiting | checked | asks
    · exact atBroadcaster requested
    · by_cases isPosted : event = .requestKeyframe
      · subst isPosted
        exact .inr (.inr (.inl (posted_of_taken sound.valid taken)))
      · by_cases isWork : ∃ response, event = .work response
        · obtain ⟨response, rfl⟩ := isWork
          exact .inr (.inl
            ((same_of_worked (worked encoder response)).1.trans taken))
        · exact .inr (.inl
            (taken_step taken (not_exists.mp isWork) isPosted))
    · right; right; left
      rw [others.queue]
      exact List.mem_append_left _ waiting
    · exact .inr (.inr (.inr (.inl (others.position.trans checked))))
    · exact .inr (.inr (.inr (.inr (others.position.trans asks))))

/-- A waiting viewer is owed a request until the codec is asked, if any. -/
theorem kept_pending (id : SubscriptionId) :
    Obligation.Kept Encoder.step Sound
      (fun encoder =>
        Broadcaster.Waiting id encoder.broadcaster ∧ encoder.stopped = false)
      Encoder.Pending
      (fun encoder event =>
        encoder.Asks event ∨ encoder.LacksCodec event) where
  validStep _ event sound := sound.step event
  arises encoder event sound none need := by
    refine .inl (requested_of_waiting_step sound ?_ need.1)
    intro waiting
    refine none ⟨waiting, ?_⟩
    by_contra stopped
    have still :=
      stopped_step (Bool.eq_true_of_not_eq_false stopped) event
    rw [need.2] at still
    cases still
  stays _ _ sound pending notAsked need :=
    pending_step sound pending notAsked need.2

end Steps

/--
What a viewer can rely on.  As long as the encoder is not stopped, a viewer
that waits has its request at one of the places, or since the viewer started to
wait the thread has asked the codec, or has come to ask when it held none.
-/
def RequestRules (events : List Event) : Prop :=
  (Encoder.initial.run events).stopped = false →
    ∀ id, Broadcaster.Waiting id (Encoder.initial.run events).broadcaster →
      ∃ earlier event later,
        events = earlier ++ event :: later ∧
          ¬ Broadcaster.Waiting id (Encoder.initial.run earlier).broadcaster ∧
          (∀ before after, later = before ++ after →
            Broadcaster.Waiting id
              (Encoder.initial.run
                (earlier ++ event :: before)).broadcaster) ∧
          ((Encoder.initial.run events).Pending ∨
            ∃ before asked after,
              later = before ++ asked :: after ∧
                ((Encoder.initial.run
                    (earlier ++ event :: before)).Asks asked ∨
                  (Encoder.initial.run
                    (earlier ++ event :: before)).LacksCodec asked))

/-- The rule holds in every run. -/
theorem keyframe_requests_on_android (events : List Event) :
    RequestRules events := by
  intro running id waiting
  have none : ¬ Broadcaster.Waiting id Encoder.initial.broadcaster := by
    simp [Broadcaster.Waiting, Encoder.initial, Broadcaster.initial,
      Broadcaster.alive]
  refine (kept_pending id).since_arising_while ?_
    ⟨.initial, Broadcaster.wellFormed_initial⟩ none events waiting running
  intro encoder event stopped
  rw [Bool.not_eq_false] at stopped ⊢
  exact stopped_step stopped event

end CamRtsp.CameraEncoder
