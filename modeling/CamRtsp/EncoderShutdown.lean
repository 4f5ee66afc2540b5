import CamRtsp.EncoderSteps
import CamRtsp.Foundation.CallContract

namespace CamRtsp.CameraEncoder

open StepTrace CallContract

/-!
# How the encoder comes to its end

Behind `stop` the thread makes one more call at most for the service, the codec
or the library, and none behind the clean-up, which comes once.
-/

/-! ## The contract -/

/-- A call for no one outside. -/
def Call.isSilent : Call → Bool
  | .posted _ => true
  | .lost _ => true
  | .handled _ => true
  | .releaseOutputBuffer _ => true
  | .acquired _ => true
  | .closed _ => true
  | .timedOut => true
  | _ => false

/-- How far the end of the encoder has come. -/
inductive Phase where
  | running
  | stopping (called : Bool)
  | cleaned

/-- Which calls the encoder makes on its way to the end. -/
inductive ShutdownContract : Phase → Call → Phase → Prop where
  | running
      (call : Call)
      (plain : call.isActive = true ∨ call.isSilent = true) :
      ShutdownContract .running call .running
  | stop :
      ShutdownContract .running .stop (.stopping false)
  | last (call : Call) (active : call.isActive = true) :
      ShutdownContract (.stopping false) call (.stopping true)
  | silent (called : Bool) (call : Call) (silent : call.isSilent = true) :
      ShutdownContract (.stopping called) call (.stopping called)
  | cleaned (called : Bool) :
      ShutdownContract (.stopping called) .cleaned .cleaned
  | behind (call : Call) (silent : call.isSilent = true) :
      ShutdownContract .cleaned call .cleaned

/-! ## What is known of the threads -/

/-- The service has set `stopped`. -/
def Owner.hasStopped : Owner → Bool
  | .free => false
  | .taken => false
  | _ => true

/-- The service has posted the clean-up. -/
def Owner.hasPosted : Owner → Bool
  | .awaiting => true
  | .returned => true
  | .released => true
  | _ => false

/-- What holds between the service and the encoder's thread. -/
structure Valid (encoder : Encoder) : Prop where
  stopped : encoder.stopped = encoder.owner.hasStopped
  cleanups :
    encoder.queue.count .cleanup =
      if encoder.owner.hasPosted = true ∧ encoder.complete = false then
        1
      else
        0
  complete : encoder.complete = true → encoder.owner.hasPosted = true
  quitting :
    encoder.quitting = true ∨ encoder.position = .quit →
      encoder.complete = true
  pastCheck :
    encoder.complete = true → encoder.position.isPastCheck = false

namespace Valid

variable {before after : Encoder}

/-- Behind the clean-up the flag is set. -/
theorem stopped_of_complete
    (valid : Valid before)
    (complete : before.complete = true) :
    before.stopped = true := by
  rw [valid.stopped]
  have posted := valid.complete complete
  cases owner : before.owner <;> rw [owner] at posted <;>
    first | rfl | cases posted

/-- Behind the clean-up nothing is called. -/
theorem mayCall_of_complete
    (valid : Valid before)
    (complete : before.complete = true) :
    before.position.mayCall = false := by
  by_contra may
  have past := isPastCheck_of_mayCall (Bool.eq_true_of_not_eq_false may)
  rw [valid.pastCheck complete] at past
  cases past

/-- A step that leaves the flags alone. -/
theorem of_same
    (valid : Valid before)
    (same :
      after.stopped = before.stopped ∧
        after.owner.hasStopped = before.owner.hasStopped ∧
          after.owner.hasPosted = before.owner.hasPosted ∧
            after.complete = before.complete ∧
              after.quitting = before.quitting)
    (cleanups :
      after.queue.count .cleanup = before.queue.count .cleanup)
    (notQuit : after.position = .quit → before.position = .quit)
    (pastCheck :
      after.position.isPastCheck = true →
        before.position.isPastCheck = true ∨ before.stopped = false) :
    Valid after := by
  obtain ⟨stopped, hasStopped, hasPosted, complete, quitting⟩ := same
  refine ⟨?_, ?_, ?_, ?_, ?_⟩
  · rw [stopped, hasStopped]
    exact valid.stopped
  · rw [cleanups, hasPosted, complete]
    exact valid.cleanups
  · rw [complete, hasPosted]
    exact valid.complete
  · rw [quitting, complete]
    rintro (isQuitting | atQuit)
    · exact valid.quitting (.inl isQuitting)
    · exact valid.quitting (.inr (notQuit atQuit))
  · intro isComplete
    rw [complete] at isComplete
    by_contra past
    rcases pastCheck (Bool.eq_true_of_not_eq_false past) with
      wasPast | running
    · rw [valid.pastCheck isComplete] at wasPast
      cases wasPast
    · rw [valid.stopped_of_complete isComplete] at running
      cases running

/-- Every step of the thread keeps what is known. -/
theorem of_worked (valid : Valid before) (worked : Worked before after) :
    Valid after := by
  cases worked with
  | moved position opening configuring onward notQuit mayCall pastCheck
      keyframe =>
      exact valid.of_same ⟨rfl, rfl, rfl, rfl, rfl⟩ rfl
        (fun atQuit => (notQuit.2 atQuit).elim) pastCheck
  | took message later position here isNext notCleanup goes =>
      refine valid.of_same ⟨rfl, rfl, rfl, rfl, rfl⟩ ?_ ?_ ?_
      · rw [isNext, List.count_cons_of_ne notCleanup]
      · rcases goes with rfl | ⟨text, rfl, rfl⟩ <;> nofun
      · rcases goes with rfl | ⟨text, rfl, rfl⟩ <;> nofun
  | tookClosed message later resource text here isNext isCallback =>
      refine valid.of_same ⟨rfl, rfl, rfl, rfl, rfl⟩ ?_ nofun nofun
      rw [isNext, List.count_cons_of_ne]
      rcases isCallback with rfl | ⟨error, rfl⟩ | rfl <;> simp
  | cleaned later here isNext =>
      obtain ⟨opened, closes, eq, _⟩ :=
        Encoder.cleanup_spec
          ({ before with queue := later }.note (.handled .cleanup))
      have cleanups := valid.cleanups
      rw [isNext, List.count_cons_self] at cleanups
      rw [eq]
      split at cleanups
      · rename_i waiting
        exact ⟨valid.stopped, by simpa [Encoder.note] using cleanups,
          fun _ => waiting.1, fun _ => rfl, fun _ => rfl⟩
      · cases cleanups
  | assigned resource position assigns running next =>
      refine valid.of_same ⟨rfl, rfl, rfl, rfl, rfl⟩ rfl ?_
        fun _ => .inr running
      rcases next with rfl | rfl <;> nofun
  | refused resource assigns stopped =>
      exact valid.of_same ⟨rfl, rfl, rfl, rfl, rfl⟩ rfl nofun nofun
  | acquired resource position onward between =>
      refine valid.of_same ⟨rfl, rfl, rfl, rfl, rfl⟩ rfl ?_ fun _ => .inl ?_
      · rcases between with ⟨_, rfl⟩ | ⟨_, rfl⟩ <;> nofun
      · rcases between with ⟨here, _⟩ | ⟨here, _⟩ <;> rw [here] <;> rfl
  | called call known result broadcaster position onward mayCall quiet
      notKeyframe isKnown pushes heard =>
      exact valid.of_same ⟨rfl, rfl, rfl, rfl, rfl⟩ rfl
        (fun atQuit => (quiet.2.2 atQuit).elim)
        fun _ => .inl (isPastCheck_of_mayCall mayCall)
  | acted call position onward active mayCall quiet =>
      exact valid.of_same ⟨rfl, rfl, rfl, rfl, rfl⟩ rfl
        (fun atQuit => (quiet.2 atQuit).elim)
        fun _ => .inl (isPastCheck_of_mayCall mayCall)
  | released buffer here =>
      exact valid.of_same ⟨rfl, rfl, rfl, rfl, rfl⟩ rfl nofun nofun
  | quit here =>
      exact ⟨valid.stopped, valid.cleanups, valid.complete,
        fun _ => valid.quitting (.inr here), fun _ => rfl⟩

/-- A message of any kind but the clean-up is posted. -/
theorem post
    (valid : Valid before)
    (message : Message)
    (notCleanup : message ≠ .cleanup) :
    Valid (before.post message) := by
  refine valid.of_same (by simp) ?_ (by simp) (by simp_all)
  obtain ⟨call, _, ⟨_, _, queue⟩ | ⟨_, _, queue⟩⟩ :=
    before.log_post message
  · rw [queue, List.count_append, List.count_singleton]
    simp [notCleanup]
  · rw [queue]

/-- The service goes on without stopping or posting. -/
theorem of_owner
    (valid : Valid before)
    (same :
      after.stopped = before.stopped ∧
        after.owner.hasStopped = before.owner.hasStopped ∧
          after.owner.hasPosted = before.owner.hasPosted ∧
            after.complete = before.complete ∧
              after.quitting = before.quitting)
    (thread :
      after.queue = before.queue ∧ after.position = before.position) :
    Valid after :=
  valid.of_same same (by rw [thread.1]) (by rw [thread.2]; exact id)
    (by rw [thread.2]; exact .inl)

/-- The service posts the clean-up once. -/
theorem postCleanup
    (valid : Valid before)
    (here : before.owner = .posting) :
    Valid ({ before with owner := .awaiting }.post .cleanup) := by
  have running : before.complete = false := by
    by_contra complete
    have posted := valid.complete (Bool.eq_true_of_not_eq_false complete)
    rw [here] at posted
    cases posted
  have cleanups := valid.cleanups
  have stopped := valid.stopped
  rw [here] at cleanups stopped
  refine ⟨?_, ?_, by simp [Owner.hasPosted], ?_, ?_⟩
  · rw [Encoder.stopped_post, Encoder.owner_post]
    exact stopped
  · obtain ⟨call, _, ⟨_, _, queue⟩ | ⟨_, quits, _⟩⟩ :=
      Encoder.log_post { before with owner := .awaiting } .cleanup
    · rw [queue, List.count_append, cleanups]
      simp [Owner.hasPosted, running]
    · rw [valid.quitting (.inl quits)] at running
      cases running
  · simpa using valid.quitting
  · simpa using valid.pastCheck

/-- Every step keeps what is known. -/
theorem step (valid : Valid before) (event : Event) :
    Valid (before.step event) := by
  cases event with
  | outside operation =>
      simp only [Encoder.step]
      split
      · exact valid.of_owner ⟨rfl, rfl, rfl, rfl, rfl⟩ ⟨rfl, rfl⟩
      · exact valid
  | start =>
      simp only [Encoder.step]
      split
      · refine Valid.post ?_ .configure (by simp)
        exact valid.of_owner ⟨rfl, rfl, rfl, rfl, rfl⟩ ⟨rfl, rfl⟩
      · exact valid
  | poll =>
      simp only [Encoder.step, Encoder.poll]
      split
      · rename_i polls
        refine valid.of_owner ⟨rfl, ?_, ?_, rfl, rfl⟩ ⟨rfl, rfl⟩ <;>
          rw [polls.1] <;> simp only <;> split <;> rfl
      · exact valid
  | requestKeyframe =>
      simp only [Encoder.step]
      split
      · rename_i taken
        refine Valid.post ?_ .requestKeyframe (by simp)
        exact valid.of_owner
          ⟨rfl, by rw [taken]; rfl, by rw [taken]; rfl, rfl, rfl⟩
          ⟨rfl, rfl⟩
      · exact valid
  | stop =>
      simp only [Encoder.step]
      split
      · rename_i free
        have cleanups := valid.cleanups
        have complete := valid.complete
        rw [free] at cleanups complete
        exact ⟨rfl, cleanups, complete, valid.quitting, valid.pastCheck⟩
      · exact valid
  | postCleanup =>
      simp only [Encoder.step]
      split
      · rename_i here
        exact valid.postCleanup here
      · exact valid
  | await timeout =>
      simp only [Encoder.step, Encoder.await]
      split
      · rename_i awaiting
        split
        · exact valid.of_owner
            ⟨rfl, by rw [awaiting]; rfl, by rw [awaiting]; rfl, rfl, rfl⟩
            ⟨rfl, rfl⟩
        · split
          · exact valid.of_owner
              ⟨rfl, by rw [awaiting]; rfl, by rw [awaiting]; rfl, rfl, rfl⟩
              ⟨rfl, rfl⟩
          · exact valid
      · exact valid
  | stopServer =>
      simp only [Encoder.step]
      split
      · rename_i returned
        exact valid.of_owner
          ⟨rfl, by rw [returned]; rfl, by rw [returned]; rfl, rfl, rfl⟩
          ⟨rfl, rfl⟩
      · exact valid
  | callback message =>
      simp only [Encoder.step]
      split
      · rename_i isCallback
        refine valid.post message ?_
        rintro rfl
        cases isCallback
      · exact valid
  | cameraOpened | sessionConfigured | sessionFailed =>
      simp only [Encoder.step]
      split
      · refine Valid.post ?_ _ (by simp)
        exact valid.of_owner ⟨rfl, rfl, rfl, rfl, rfl⟩ ⟨rfl, rfl⟩
      · exact valid
  | work response =>
      exact valid.of_worked (worked before response)

/-- The encoder begins like this. -/
theorem initial : Valid .initial where
  stopped := rfl
  cleanups := rfl
  complete := nofun
  quitting := by simp [Encoder.initial]
  pastCheck := nofun

end Valid

/-! ## The way to the end -/

/-- The flag is set. -/
def Phase.isStopped : Phase → Bool
  | .running => false
  | _ => true

/-- The clean-up is through. -/
def Phase.isCleaned : Phase → Bool
  | .cleaned => true
  | _ => false

/-- What is known in a phase. -/
structure ShutdownAt (encoder : Encoder) (phase : Phase) : Prop where
  valid : Valid encoder
  stopped : encoder.stopped = phase.isStopped
  complete : encoder.complete = phase.isCleaned
  spent : phase = .stopping true → encoder.position.mayCall = false

/-- A step continues the contract. -/
abbrev Shuts (phase : Phase) (before after : Encoder) : Prop :=
  Continues Encoder.log ShutdownContract ShutdownAt phase before after

namespace ShutdownAt

variable {before after : Encoder}
variable {phase : Phase}

/-- Silent calls are permitted in every phase. -/
theorem trace_of_silent
    {calls : List Call}
    (silent : ∀ call ∈ calls, call.isSilent = true) :
    Trace ShutdownContract phase calls phase := by
  refine .of_forall_stays fun call member => ?_
  cases phase with
  | running =>
      exact .running call (.inr (silent call member))
  | stopping called =>
      exact .silent called call (silent call member)
  | cleaned =>
      exact .behind call (silent call member)

/-- A step with silent calls only. -/
theorem silently
    (known : ShutdownAt before phase)
    (validAfter : Valid after)
    (calls : List Call)
    (called : after.log = before.log ++ calls)
    (silent : ∀ call ∈ calls, call.isSilent = true)
    (same :
      after.stopped = before.stopped ∧ after.complete = before.complete)
    (mayCall :
      after.position.mayCall = true →
        before.position.mayCall = true ∨ before.stopped = false) :
    Shuts phase before after := by
  refine ⟨calls, phase, called, trace_of_silent silent, validAfter,
    same.1.trans known.stopped, same.2.trans known.complete, ?_⟩
  rintro rfl
  by_contra may
  rcases mayCall (Bool.eq_true_of_not_eq_false may) with was | running
  · rw [known.spent rfl] at was
    cases was
  · rw [known.stopped] at running
    cases running

/-- A step with a call for someone outside. -/
theorem actively
    (known : ShutdownAt before phase)
    (validAfter : Valid after)
    (call : Call)
    (called : after.log = before.log ++ [call])
    (active : call.isActive = true)
    (same :
      after.stopped = before.stopped ∧ after.complete = before.complete)
    (mayCall : before.position.mayCall = true)
    (quiet : after.position.mayCall = false) :
    Shuts phase before after := by
  have next (last : Phase)
      (flags :
        last.isStopped = phase.isStopped ∧
          last.isCleaned = phase.isCleaned) :
      ShutdownAt after last :=
    ⟨validAfter, (same.1.trans known.stopped).trans flags.1.symm,
      (same.2.trans known.complete).trans flags.2.symm, fun _ => quiet⟩
  cases phase with
  | running =>
      exact .once call called (.running call (.inl active))
        (next _ ⟨rfl, rfl⟩)
  | stopping called' =>
      cases called' with
      | false =>
          exact .once call called (.last call active) (next _ ⟨rfl, rfl⟩)
      | true =>
          rw [known.spent rfl] at mayCall
          cases mayCall
  | cleaned =>
      rw [known.valid.mayCall_of_complete known.complete] at mayCall
      cases mayCall

/-- The clean-up comes once, behind the flag. -/
theorem cleanup
    (known : ShutdownAt before phase)
    {later : List Message}
    (isNext : before.queue = .cleanup :: later)
    (validAfter :
      Valid
        ({ before with queue := later }.note
          (.handled .cleanup)).cleanup) :
    Shuts phase before
      ({ before with queue := later }.note (.handled .cleanup)).cleanup := by
  have cleanups := known.valid.cleanups
  rw [isNext, List.count_cons_self] at cleanups
  split at cleanups
  · rename_i waiting
    have complete := waiting.2
    rw [known.complete] at complete
    have stopped : before.stopped = true := by
      rw [known.valid.stopped]
      cases owner : before.owner <;> rw [owner] at waiting <;>
        first | rfl | cases waiting.1
    rw [known.stopped] at stopped
    obtain ⟨opened, closes, eq, _, areCloses⟩ :=
      Encoder.cleanup_spec
        ({ before with queue := later }.note (.handled .cleanup))
    have silent (call : Call)
        (member : call ∈ .handled .cleanup :: closes) :
        call.isSilent = true := by
      rcases List.mem_cons.mp member with rfl | isClose
      · rfl
      · obtain ⟨resource, rfl⟩ := areCloses call isClose
        rfl
    cases phase with
    | running =>
        cases stopped
    | cleaned =>
        cases complete
    | stopping called =>
        refine ⟨(.handled .cleanup :: closes) ++ [.cleaned], .cleaned, ?_,
          (trace_of_silent silent).append (.single (.cleaned called)),
          validAfter, ?_, ?_, nofun⟩
        · rw [eq]
          simp [Encoder.note]
        · rw [eq]
          exact known.stopped
        · rw [eq]
          rfl
  · cases cleanups

/-- Every step of the thread continues the contract. -/
theorem of_worked
    (known : ShutdownAt before phase)
    (worked : Worked before after) :
    Shuts phase before after := by
  have validAfter := known.valid.of_worked worked
  cases worked with
  | moved position opening configuring onward notQuit mayCall pastCheck
      keyframe =>
      exact known.silently validAfter [] (by simp) nofun ⟨rfl, rfl⟩ mayCall
  | took message later position here isNext notCleanup goes =>
      refine known.silently validAfter [.handled message] rfl
        (by simp [Call.isSilent]) ⟨rfl, rfl⟩ ?_
      rcases goes with rfl | ⟨text, rfl, rfl⟩ <;> nofun
  | tookClosed message later resource text here isNext isCallback =>
      exact known.silently validAfter [.handled message, .closed resource]
        (by simp) (by simp [Call.isSilent]) ⟨rfl, rfl⟩ nofun
  | cleaned later here isNext =>
      exact known.cleanup isNext validAfter
  | assigned resource position assigns running next =>
      exact known.silently validAfter [] (by simp [Encoder.hold, Encoder.goto])
        nofun ⟨rfl, rfl⟩ fun _ => .inr running
  | refused resource assigns stopped =>
      exact known.silently validAfter [.closed resource] rfl
        (by simp [Call.isSilent]) ⟨rfl, rfl⟩ nofun
  | acquired resource position onward between =>
      refine known.silently validAfter [.acquired resource] rfl
        (by simp [Call.isSilent]) ⟨rfl, rfl⟩ ?_
      rcases between with ⟨here, rfl⟩ | ⟨here, rfl⟩
      · rw [here]
        exact fun _ => .inl rfl
      · nofun
  | called call isKnown result broadcaster position onward mayCall quiet
      notKeyframe =>
      exact known.actively validAfter _ rfl rfl ⟨rfl, rfl⟩ mayCall quiet.1
  | acted call position onward active mayCall quiet =>
      refine known.actively validAfter call rfl ?_ ⟨rfl, rfl⟩ mayCall
        quiet.1
      rcases active with rfl | rfl | ⟨message, rfl⟩ <;> rfl
  | released buffer here =>
      exact known.silently validAfter [.releaseOutputBuffer buffer.index]
        rfl (by simp [Call.isSilent]) ⟨rfl, rfl⟩ nofun
  | quit here =>
      exact known.silently validAfter [] (by simp [Encoder.goto]) nofun
        ⟨rfl, rfl⟩ nofun

/-- What others do is silent, but for `stop`. -/
theorem of_elsewhere
    (known : ShutdownAt before phase)
    {event : Event}
    {calls : List Call}
    (others : Elsewhere before event calls) :
    Shuts phase before (before.step event) := by
  have validAfter := known.valid.step event
  have mayCall
      (may : (before.step event).position.mayCall = true) :
      before.position.mayCall = true ∨ before.stopped = false := by
    rw [others.position] at may
    exact .inl may
  rcases others.stops with ⟨stopped, noStop⟩ | ⟨isStop, free, stopped⟩
  · refine known.silently validAfter calls others.log ?_
      ⟨stopped, others.complete⟩ mayCall
    intro call member
    have foreign := others.foreign call member
    cases call with
    | stop =>
        exact (noStop member).elim
    | _ =>
        first | rfl | cases foreign
  · have running : before.stopped = false := by
      rw [known.valid.stopped, free]
      rfl
    rw [known.stopped] at running
    cases phase with
    | running =>
        refine .once .stop (by rw [others.log, isStop]) .stop
          ⟨validAfter, stopped, ?_, nofun⟩
        rw [others.complete, known.complete]
        rfl
    | stopping called =>
        cases running
    | cleaned =>
        cases running

/-- Every step continues the contract. -/
theorem step (known : ShutdownAt before phase) (event : Event) :
    Shuts phase before (before.step event) := by
  rcases work_or_elsewhere before event with ⟨response, rfl⟩ | ⟨_, others⟩
  · exact known.of_worked (worked before response)
  · exact known.of_elsewhere others

end ShutdownAt

end CamRtsp.CameraEncoder
