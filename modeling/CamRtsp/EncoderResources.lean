import CamRtsp.EncoderShutdown

namespace CamRtsp.CameraEncoder

open RustText StepTrace CallContract
open NativeBridge (PushRequest)

/-!
# What the encoder does with buffers and resources

Output buffers go back to the codec in their order, each pushed once at most.
Whatever was opened is closed in the end, except what the framework reports to
a thread that has quit.
-/

/-! ## Output buffers -/

/-- The output buffer in the hands of the thread. -/
inductive Holding where
  | none
  | held (buffer : OutputBuffer) (pushed : Bool)

/-- The buffer of a message that was taken. -/
def Holding.of : Option OutputBuffer → Holding
  | some buffer => .held buffer false
  | .none => .none

/-- The call has nothing to do with output buffers. -/
def Call.isCalm : Call → Bool
  | .handled _ => false
  | .native (.pushAccessUnit _) _ _ => false
  | .releaseOutputBuffer _ => false
  | _ => true

/-- What becomes of output buffers. -/
inductive BufferContract : Holding → Call → Holding → Prop where
  | took (message : Message) :
      BufferContract .none (.handled message) (.of message.buffer?)
  | pushed
      (buffer : OutputBuffer)
      (request : PushRequest)
      (known : Bool)
      (result : Except Text Unit)
      (isPush : PushOf request buffer) :
      BufferContract (.held buffer false)
        (.native (.pushAccessUnit request) known result)
        (.held buffer true)
  | released (buffer : OutputBuffer) (pushed : Bool) :
      BufferContract (.held buffer pushed)
        (.releaseOutputBuffer buffer.index) .none
  | calm (holding : Holding) (call : Call) (calm : call.isCalm = true) :
      BufferContract holding call holding

/-- What is known of the buffer in hand. -/
inductive BufferAt (encoder : Encoder) : Holding → Prop where
  | none (nothing : encoder.position.buffer? = .none) :
      BufferAt encoder .none
  | held
      (buffer : OutputBuffer)
      (pushed : Bool)
      (isBuffer : encoder.position.buffer? = some buffer)
      (spent : pushed = true → encoder.position.canPush = false) :
      BufferAt encoder (.held buffer pushed)

/-- A step continues the contract of the buffers. -/
abbrev Buffers (holding : Holding) (before after : Encoder) : Prop :=
  Continues Encoder.log BufferContract BufferAt holding before after

namespace BufferAt

variable {before after : Encoder}
variable {holding : Holding}

/-- The thread goes on with the same buffer. -/
theorem onward
    (known : BufferAt before holding)
    (goes : Onward before.position after.position) :
    BufferAt after holding := by
  cases known with
  | none nothing =>
      exact .none (goes.buffer.trans nothing)
  | held buffer pushed isBuffer spent =>
      refine .held buffer pushed (goes.buffer.trans isBuffer) fun used => ?_
      by_contra can
      have could := goes.canPush (Bool.eq_true_of_not_eq_false can)
      rw [spent used] at could
      cases could

/-- Without a buffer the thread holds none. -/
theorem eq_none
    (known : BufferAt before holding)
    (nothing : before.position.buffer? = .none) :
    holding = .none := by
  cases known with
  | none =>
      rfl
  | held buffer pushed isBuffer spent =>
      rw [nothing] at isBuffer
      cases isBuffer

/-- Calm calls keep the buffer. -/
theorem calmly
    (known : BufferAt after holding)
    (calls : List Call)
    (called : after.log = before.log ++ calls)
    (calm : ∀ call ∈ calls, call.isCalm = true) :
    Buffers holding before after :=
  ⟨calls, holding, called,
    .of_forall_stays fun call member =>
      .calm holding call (calm call member),
    known⟩

/-- A message that assigns a field has no buffer. -/
theorem buffer?_of_assigns
    {position : Position}
    {resource : Resource}
    (assigns : position.assigns? = some resource) :
    position.buffer? = .none := by
  cases position with
  | check message =>
      cases message <;> first | rfl | cases assigns
  | _ =>
      cases assigns

/-- The buffer of a message that is taken comes into the hands. -/
theorem took
    (known : BufferAt before holding)
    (here : before.position = .idle)
    (message : Message)
    (calls : List Call)
    (called : after.log = before.log ++ .handled message :: calls)
    (calm : ∀ call ∈ calls, call.isCalm = true)
    (buffer : after.position.buffer? = message.buffer?) :
    Buffers holding before after := by
  have free : holding = .none := known.eq_none (by rw [here]; rfl)
  subst free
  refine ⟨.handled message :: calls, .of message.buffer?, called,
    .cons (.took message) ?_, ?_⟩
  · exact .of_forall_stays fun call member =>
      .calm _ call (calm call member)
  · cases isBuffer : message.buffer? with
    | none =>
        exact .none (buffer.trans isBuffer)
    | some value =>
        exact .held value false (buffer.trans isBuffer) nofun

/-- A native call pushes the buffer in hand or leaves it alone. -/
theorem called
    (known : BufferAt before holding)
    (call : NativeCall)
    (found : Bool)
    (result : Except Text Unit)
    (called : after.log = before.log ++ [.native call found result])
    (goes : Onward before.position after.position)
    (spent : after.position.canPush = false)
    (pushes :
      ∀ request, call = .pushAccessUnit request →
        ∃ buffer,
          before.position = .push buffer ∧ PushOf request buffer) :
    Buffers holding before after := by
  cases call with
  | pushAccessUnit request =>
      obtain ⟨buffer, here, isPush⟩ := pushes request rfl
      have inHand : before.position.buffer? = some buffer := by
        rw [here]
        rfl
      cases known with
      | none nothing =>
          rw [nothing] at inHand
          cases inHand
      | held other pushed isBuffer used =>
          have same : buffer = other :=
            Option.some_inj.mp (inHand.symm.trans isBuffer)
          subst same
          cases pushed with
          | true =>
              have never := used rfl
              rw [here] at never
              cases never
          | false =>
              exact .once _ called (.pushed buffer request found result isPush)
                (.held buffer true (goes.buffer.trans inHand)
                  fun _ => spent)
  | setFrameRate | setCodecConfig =>
      exact (known.onward goes).calmly _ called
        (by simp [Call.isCalm])

/-- Every step of the thread continues the contract. -/
theorem of_worked
    (known : BufferAt before holding)
    (worked : Worked before after) :
    Buffers holding before after := by
  cases worked with
  | moved position opening configuring onward notQuit mayCall pastCheck
      keyframe =>
      exact calmly (known.onward onward) [] (by simp) nofun
  | took message later position here isNext notCleanup goes =>
      refine known.took here message [] rfl nofun ?_
      rcases goes with rfl | ⟨text, rfl, rfl⟩ <;> rfl
  | tookClosed message later resource text here isNext isCallback =>
      refine known.took here message [.closed resource]
        (by simp) (by simp [Call.isCalm]) ?_
      rcases isCallback with rfl | ⟨error, rfl⟩ | rfl <;> rfl
  | cleaned later here isNext =>
      obtain ⟨opened, closes, eq, _, areCloses⟩ :=
        Encoder.cleanup_spec
          ({ before with queue := later }.note (.handled .cleanup))
      refine known.took here .cleanup (closes ++ [.cleaned]) ?_ ?_ ?_
      · rw [eq]
        simp [Encoder.note]
      · intro call member
        rcases List.mem_append.mp member with isClose | isLast
        · obtain ⟨resource, rfl⟩ := areCloses call isClose
          rfl
        · rw [List.mem_singleton.mp isLast]
          rfl
      · rw [eq]
        rfl
  | assigned resource position assigns running next =>
      have free := known.eq_none (buffer?_of_assigns assigns)
      subst free
      refine calmly (.none ?_) [] (by simp [Encoder.hold, Encoder.goto])
        nofun
      rcases next with rfl | rfl <;> rfl
  | refused resource assigns stopped =>
      have free := known.eq_none (buffer?_of_assigns assigns)
      subst free
      exact calmly (.none rfl) [.closed resource] rfl (by simp [Call.isCalm])
  | acquired resource position onward between =>
      exact calmly (known.onward onward) [.acquired resource] rfl
        (by simp [Call.isCalm])
  | called call found result broadcaster position onward mayCall quiet
      notKeyframe isKnown pushes =>
      exact known.called call found result rfl onward quiet.2.1 pushes
  | acted call position onward active mayCall quiet =>
      refine calmly (known.onward onward) [call] rfl ?_
      rcases active with rfl | rfl | ⟨message, rfl⟩ <;> simp [Call.isCalm]
  | released buffer here =>
      cases known with
      | none nothing =>
          rw [here] at nothing
          cases nothing
      | held other pushed isBuffer spent =>
          rw [here] at isBuffer
          cases isBuffer
          exact .once _ rfl (.released buffer pushed) (.none rfl)
  | quit here =>
      have free := known.eq_none (by rw [here]; rfl)
      subst free
      exact calmly (.none rfl) [] (by simp [Encoder.goto]) nofun

/-- Every step continues the contract. -/
theorem step (known : BufferAt before holding) (event : Event) :
    Buffers holding before (before.step event) := by
  rcases work_or_elsewhere before event with
    ⟨response, rfl⟩ | ⟨calls, others⟩
  · exact known.of_worked (worked before response)
  · have same : BufferAt (before.step event) holding := by
      cases known with
      | none nothing =>
          exact .none (by rw [others.position]; exact nothing)
      | held buffer pushed isBuffer spent =>
          exact .held buffer pushed (by rw [others.position]; exact isBuffer)
            (by rw [others.position]; exact spent)
    refine same.calmly calls others.log fun call member => ?_
    have foreign := others.foreign call member
    cases call <;> first | rfl | cases foreign

end BufferAt

/-! ## Messages and resources -/

/-- The resource is on its way to its field, or it has got lost. -/
def Encoder.Reports (encoder : Encoder) (resource : Resource) : Prop :=
  encoder.position.assigns? = some resource ∨
    ∃ message,
      message.assigns? = some resource ∧
        (message ∈ encoder.queue ∨ .lost message ∈ encoder.log)

/-- What is known of the messages and the resources. -/
structure Accounts (encoder : Encoder) : Prop where
  valid : Valid encoder
  order :
    encoder.log.filterMap posted? =
      encoder.log.filterMap handled? ++ encoder.queue
  forsaken :
    encoder.IsForsaken → encoder.complete = true ∨ .timedOut ∈ encoder.log
  late :
    ∀ call result, .native call false result ∈ encoder.log →
      .timedOut ∈ encoder.log
  opened :
    ∀ resource ∈ encoder.opened,
      resource ∈ encoder.held ∨ encoder.Reports resource
  held : encoder.complete = true → encoder.held = []

namespace Accounts

variable {before after : Encoder}

/-- A step of the thread between two messages. -/
theorem within
    (known : Accounts before)
    (validAfter : Valid after)
    (calls : List Call)
    (called : after.log = before.log ++ calls)
    (inside :
      calls.filterMap posted? = [] ∧ calls.filterMap handled? = [])
    (same :
      after.queue = before.queue ∧ after.complete = before.complete ∧
        after.known = before.known ∧ after.owner = before.owner)
    (late :
      ∀ call result, .native call false result ∈ calls →
        .timedOut ∈ before.log)
    (opened :
      ∀ resource ∈ after.opened,
        resource ∈ after.held ∨
          resource ∈ before.opened ∧
            (resource ∈ before.held → resource ∈ after.held) ∧
              (before.position.assigns? = some resource →
                resource ∈ after.held))
    (held : before.complete = true → after.held = before.held) :
    Accounts after := by
  obtain ⟨queue, complete, isKnown, owner⟩ := same
  refine ⟨validAfter, ?_, ?_, ?_, ?_, ?_⟩
  · rw [called, List.filterMap_append, List.filterMap_append, inside.1,
      inside.2, List.append_nil, List.append_nil, queue]
    exact known.order
  · rw [Encoder.IsForsaken, isKnown, owner, complete, called]
    exact fun gone => (known.forsaken gone).imp_right
      (List.mem_append_left _)
  · rw [called]
    intro call result member
    refine List.mem_append_left _ ?_
    rcases List.mem_append.mp member with early | now
    · exact known.late call result early
    · exact late call result now
  · intro resource member
    rcases opened resource member with
      isHeld | ⟨wasOpen, keeps, assigned⟩
    · exact .inl isHeld
    · rcases known.opened resource wasOpen with
        wasHeld | assigns | ⟨message, assigns, place⟩
      · exact .inl (keeps wasHeld)
      · exact .inl (assigned assigns)
      · refine .inr (.inr ⟨message, assigns, ?_⟩)
        rw [queue, called]
        exact place.imp_right (List.mem_append_left _)
  · rw [complete]
    intro isComplete
    rw [held isComplete]
    exact known.held isComplete

/-- A step of the thread that takes a message. -/
theorem taking
    (known : Accounts before)
    (validAfter : Valid after)
    {message : Message}
    {later : List Message}
    (isNext : before.queue = message :: later)
    (calls : List Call)
    (called : after.log = before.log ++ .handled message :: calls)
    (inside :
      calls.filterMap posted? = [] ∧ calls.filterMap handled? = [] ∧
        ∀ call result, .native call false result ∉ calls)
    (same :
      after.queue = later ∧
        (after.complete = true →
          before.complete = true ∨ after.held = []) ∧
          (before.complete = true → after.complete = true) ∧
            after.known = before.known ∧ after.owner = before.owner)
    (opened :
      ∀ resource ∈ after.opened,
        resource ∈ before.opened ∧
          (resource ∈ before.held → resource ∈ after.held))
    (held : before.complete = true → after.held = before.held)
    (position :
      before.position = .idle ∧
        after.position.assigns? = message.assigns?) :
    Accounts after := by
  obtain ⟨queue, complete, stays, isKnown, owner⟩ := same
  refine ⟨validAfter, ?_, ?_, ?_, ?_, ?_⟩
  · have order := known.order
    rw [isNext] at order
    have posts : (Call.handled message :: calls).filterMap posted? = [] :=
      inside.1
    have takes :
        (Call.handled message :: calls).filterMap handled? = [message] :=
      congrArg (message :: ·) inside.2.1
    rw [called, queue, List.filterMap_append, List.filterMap_append, posts,
      takes, order]
    simp
  · rw [Encoder.IsForsaken, isKnown, owner, called]
    exact fun gone => (known.forsaken gone).imp stays
      (List.mem_append_left _)
  · rw [called]
    intro call result member
    refine List.mem_append_left _ ?_
    rcases List.mem_append.mp member with early | now
    · exact known.late call result early
    · rcases List.mem_cons.mp now with isTaken | inside'
      · cases isTaken
      · exact (inside.2.2 call result inside').elim
  · intro resource member
    obtain ⟨wasOpen, keeps⟩ := opened resource member
    rcases known.opened resource wasOpen with
      wasHeld | assigns | ⟨other, assigns, place⟩
    · exact .inl (keeps wasHeld)
    · rw [position.1] at assigns
      cases assigns
    · rw [isNext] at place
      rcases place with waiting | lost
      · rcases List.mem_cons.mp waiting with rfl | isLater
        · exact .inr (.inl (position.2.trans assigns))
        · exact .inr (.inr ⟨other, assigns, .inl (queue ▸ isLater)⟩)
      · refine .inr (.inr ⟨other, assigns, .inr ?_⟩)
        rw [called]
        exact List.mem_append_left _ lost
  · intro isComplete
    rcases complete isComplete with was | isEmpty
    · rw [held was]
      exact known.held was
    · exact isEmpty

/-- Every step of the thread keeps the accounts. -/
theorem of_worked
    (known : Accounts before)
    (worked : Worked before after) :
    Accounts after := by
  have validAfter := known.valid.of_worked worked
  cases worked with
  | moved position opening configuring onward notQuit mayCall pastCheck
      keyframe =>
      refine known.within validAfter [] (by simp) ⟨rfl, rfl⟩
        ⟨rfl, rfl, rfl, rfl⟩ (by simp) (fun resource member => .inr ?_)
        fun _ => rfl
      refine ⟨member, id, fun assigns => ?_⟩
      rw [onward.unassigned.1] at assigns
      cases assigns
  | took message later position here isNext notCleanup goes =>
      refine known.taking validAfter isNext [] rfl ⟨rfl, rfl, by simp⟩
        ⟨rfl, .inl, id, rfl, rfl⟩ (fun resource member => ⟨member, id⟩)
        (fun _ => rfl) ⟨here, ?_⟩
      rcases goes with rfl | ⟨text, rfl, rfl⟩ <;> rfl
  | tookClosed message later resource text here isNext isCallback =>
      refine known.taking validAfter isNext [.closed resource] (by simp)
        ⟨rfl, rfl, by simp⟩ ⟨rfl, .inl, id, rfl, rfl⟩
        (fun other member => ⟨List.mem_of_mem_filter member, id⟩)
        (fun _ => rfl) ⟨here, ?_⟩
      rcases isCallback with rfl | ⟨error, rfl⟩ | rfl <;> rfl
  | cleaned later here isNext =>
      obtain ⟨opened, closes, eq, isOpen, areCloses⟩ :=
        Encoder.cleanup_spec
          ({ before with queue := later }.note (.handled .cleanup))
      have closesOnly (pick : Call → Option Message)
          (passes : ∀ resource, pick (.closed resource) = none)
          (passesLast : pick .cleaned = none) :
          (closes ++ [Call.cleaned]).filterMap pick = [] := by
        rw [List.filterMap_eq_nil_iff]
        intro call member
        rcases List.mem_append.mp member with isClose | isLast
        · obtain ⟨resource, rfl⟩ := areCloses call isClose
          exact passes resource
        · rw [List.mem_singleton.mp isLast]
          exact passesLast
      rw [eq] at validAfter ⊢
      refine known.taking validAfter isNext (closes ++ [.cleaned])
        (by simp [Encoder.note])
        ⟨closesOnly _ (fun _ => rfl) rfl, closesOnly _ (fun _ => rfl) rfl,
          ?_⟩
        ⟨rfl, fun _ => .inr rfl, fun _ => rfl, rfl, rfl⟩ ?_ ?_ ⟨here, rfl⟩
      · intro call result member
        rcases List.mem_append.mp member with isClose | isLast
        · obtain ⟨resource, isClosed⟩ := areCloses _ isClose
          cases isClosed
        · cases List.mem_singleton.mp isLast
      · intro resource member
        obtain ⟨wasOpen, notHeld⟩ := isOpen resource member
        exact ⟨wasOpen, fun wasHeld => (notHeld wasHeld).elim⟩
      · exact fun complete => (known.held complete).symm
  | assigned resource position assigns running next =>
      refine known.within validAfter []
        (by simp [Encoder.hold, Encoder.goto]) ⟨rfl, rfl⟩
        ⟨rfl, rfl, rfl, rfl⟩ (by simp) (fun other member => .inr ?_) ?_
      · refine ⟨member, List.mem_append_left _, fun assignsOther => ?_⟩
        have same : resource = other :=
          Option.some_inj.mp (assigns.symm.trans assignsOther)
        rw [same]
        exact List.mem_append_right _ (List.mem_singleton_self _)
      · intro complete
        rw [known.valid.stopped_of_complete complete] at running
        cases running
  | refused resource assigns stopped =>
      refine known.within validAfter [.closed resource] rfl ⟨rfl, rfl⟩
        ⟨rfl, rfl, rfl, rfl⟩ (by simp) (fun other member => .inr ?_)
        fun _ => rfl
      obtain ⟨wasOpen, different⟩ := List.mem_filter.mp member
      refine ⟨wasOpen, id, fun assignsOther => ?_⟩
      have same : resource = other :=
        Option.some_inj.mp (assigns.symm.trans assignsOther)
      simp [same] at different
  | acquired resource position onward between =>
      refine known.within validAfter [.acquired resource] rfl ⟨rfl, rfl⟩
        ⟨rfl, rfl, rfl, rfl⟩ (by simp) ?_ ?_
      · intro other member
        rcases List.mem_append.mp member with wasOpen | isNew
        · refine .inr ⟨wasOpen, List.mem_append_left _, fun assigns => ?_⟩
          rw [onward.unassigned.1] at assigns
          cases assigns
        · exact .inl (List.mem_append_right _ isNew)
      · intro complete
        have past := known.valid.pastCheck complete
        rcases between with ⟨here, _⟩ | ⟨here, _⟩ <;> rw [here] at past <;>
          cases past
  | called call found result broadcaster position onward mayCall quiet
      notKeyframe isKnown pushes heard =>
      refine known.within validAfter [.native call found result] rfl
        ⟨rfl, rfl⟩ ⟨rfl, rfl, rfl, rfl⟩ ?_
        (fun resource member => .inr ?_) fun _ => rfl
      · intro other outcome member
        cases List.mem_singleton.mp member
        rcases known.forsaken (.inl isKnown) with complete | timedOut
        · rw [known.valid.mayCall_of_complete complete] at mayCall
          cases mayCall
        · exact timedOut
      · refine ⟨member, id, fun assigns => ?_⟩
        rw [onward.unassigned.1] at assigns
        cases assigns
  | acted call position onward active mayCall quiet =>
      refine known.within validAfter [call] rfl ?_ ⟨rfl, rfl, rfl, rfl⟩ ?_
        (fun resource member => .inr ?_) fun _ => rfl
      · rcases active with rfl | rfl | ⟨message, rfl⟩ <;> exact ⟨rfl, rfl⟩
      · rcases active with rfl | rfl | ⟨message, rfl⟩ <;> simp
      · refine ⟨member, id, fun assigns => ?_⟩
        rw [onward.unassigned.1] at assigns
        cases assigns
  | released buffer here =>
      refine known.within validAfter [.releaseOutputBuffer buffer.index] rfl
        ⟨rfl, rfl⟩ ⟨rfl, rfl, rfl, rfl⟩ (by simp)
        (fun resource member => .inr ?_) fun _ => rfl
      refine ⟨member, id, fun assigns => ?_⟩
      rw [here] at assigns
      cases assigns
  | quit here =>
      refine known.within validAfter [] (by simp [Encoder.goto])
        ⟨rfl, rfl⟩ ⟨rfl, rfl, rfl, rfl⟩ (by simp)
        (fun resource member => .inr ?_) fun _ => rfl
      refine ⟨member, id, fun assigns => ?_⟩
      rw [here] at assigns
      cases assigns

/-- Every step of another thread keeps the accounts. -/
theorem of_elsewhere
    (known : Accounts before)
    {event : Event}
    {calls : List Call}
    (others : Elsewhere before event calls) :
    Accounts (before.step event) := by
  have handlesNothing : calls.filterMap handled? = [] := by
    rw [List.filterMap_eq_nil_iff]
    intro call member
    have foreign := others.foreign call member
    cases call <;> first | rfl | cases foreign
  refine ⟨known.valid.step event, ?_, ?_, ?_, ?_, ?_⟩
  · rw [others.log, List.filterMap_append, List.filterMap_append,
      handlesNothing, others.queue, known.order]
    simp
  · intro gone
    rw [others.complete, others.log]
    rcases others.forsaken gone with before | complete | timedOut
    · exact (known.forsaken before).imp_right (List.mem_append_left _)
    · exact .inl complete
    · exact .inr (List.mem_append_right _ timedOut)
  · rw [others.log]
    intro call result member
    refine List.mem_append_left _ ?_
    rcases List.mem_append.mp member with early | now
    · exact known.late call result early
    · cases others.foreign _ now
  · intro resource member
    rw [others.held, Encoder.Reports, others.position, others.queue,
      others.log]
    rcases others.opened resource member with
      wasOpen | ⟨message, assigns, posted⟩
    · refine (known.opened resource wasOpen).imp_right ?_
      refine Or.imp_right fun ⟨message, assigns, place⟩ => ?_
      exact ⟨message, assigns,
        place.imp (List.mem_append_left _) (List.mem_append_left _)⟩
    · refine .inr (.inr ⟨message, assigns, ?_⟩)
      refine posted.imp (fun isPosted => List.mem_append_right _ ?_)
        (List.mem_append_right _)
      exact List.mem_filterMap.mpr ⟨_, isPosted, rfl⟩
  · rw [others.complete, others.held]
    exact known.held

/-- Every run keeps the accounts. -/
theorem run (events : List Event) :
    Accounts (Encoder.initial.run events) := by
  induction events using List.reverseRecOn with
  | nil =>
      exact ⟨.initial, rfl, by simp [Encoder.IsForsaken, Encoder.run,
        Encoder.initial, Owner.hasReturned], nofun, nofun, fun _ => rfl⟩
  | append_singleton events event inductionHypothesis =>
      rw [Encoder.run, List.foldl_append]
      rcases work_or_elsewhere (Encoder.initial.run events) event with
        ⟨response, rfl⟩ | ⟨calls, others⟩
      · exact inductionHypothesis.of_worked (worked _ response)
      · exact inductionHypothesis.of_elsewhere others

end Accounts

/-! ## Every run -/

/--
What the service can rely on.  The messages are handled in their order; a
native call misses the server only when the clean-up took too long; and when
the thread has ended, only what was reported to it too late is still open.
-/
structure EncoderRules (encoder : Encoder) : Prop where
  shutdown :
    ∃ phase, Trace ShutdownContract .running encoder.log phase
  buffers :
    ∃ holding, Trace BufferContract .none encoder.log holding
  order :
    encoder.log.filterMap posted? =
      encoder.log.filterMap handled? ++ encoder.queue
  late :
    ∀ call result, .native call false result ∈ encoder.log →
      .timedOut ∈ encoder.log
  closed :
    encoder.quitting = true → encoder.position = .idle →
      encoder.queue = [] →
        ∀ resource ∈ encoder.opened,
          ∃ message,
            message.assigns? = some resource ∧ .lost message ∈ encoder.log

/-- The rules hold in every run. -/
theorem camera_encoder_on_android (events : List Event) :
    EncoderRules (Encoder.initial.run events) := by
  have accounts := Accounts.run events
  have shuts : Shuts .running .initial (Encoder.initial.run events) :=
    .run (fun known event => known.step event)
      ⟨.initial, rfl, rfl, nofun⟩ events
  have buffers : Buffers .none .initial (Encoder.initial.run events) :=
    .run (fun known event => known.step event) (.none rfl) events
  obtain ⟨phase, trace, _⟩ := shuts.trace rfl
  obtain ⟨holding, bufferTrace, _⟩ := buffers.trace rfl
  refine ⟨⟨phase, trace⟩, ⟨holding, bufferTrace⟩, accounts.order,
    accounts.late, ?_⟩
  intro quitting idle isEmpty resource member
  have complete := accounts.valid.quitting (.inl quitting)
  rcases accounts.opened resource member with
    isHeld | assigns | ⟨message, assigns, waiting | lost⟩
  · rw [accounts.held complete] at isHeld
    cases isHeld
  · rw [idle] at assigns
    cases assigns
  · rw [isEmpty] at waiting
    cases waiting
  · exact ⟨message, assigns, lost⟩

end CamRtsp.CameraEncoder
