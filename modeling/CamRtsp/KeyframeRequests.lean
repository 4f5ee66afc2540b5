import CamRtsp.BroadcasterDelivery

namespace CamRtsp

/-!
# No keyframe request is lost

All subscribers share one request bit, which the capture thread takes.  Whenever
a subscriber starts to wait for a keyframe the bit is set, and only a call that
returns it clears it.
-/

namespace Broadcaster

/-- A live subscriber waits for a keyframe. -/
def Waiting (id : SubscriptionId) (broadcaster : Broadcaster) : Prop :=
  broadcaster.alive id = true ∧
    ∃ queue ∈ broadcaster.queue id, queue.waitingForKeyframe = true

/--
The operation makes the subscriber wait: it subscribes, its queue overflows
without a keyframe at hand, or the parameter sets change.
-/
def StartsWaiting (id : SubscriptionId) (broadcaster : Broadcaster) :
    Operation → Prop
  | .subscribe => id = broadcaster.shared.length
  | .publish accessUnit _ =>
      broadcaster.alive id = true ∧
        (∃ queue ∈ broadcaster.queue id,
          queue.frames.length = maxQueuedAccessUnits) ∧
        ¬ IsKeyframe accessUnit
  | .setCodecConfig codec =>
      broadcaster.alive id = true ∧ broadcaster.replacesCodec codec = true
  | _ => False

/-- Some `take_keyframe_request` of the run returns true. -/
def Requested
    (broadcaster : Broadcaster)
    (operations : List Operation) : Prop :=
  ∃ earlier later,
    operations = earlier ++ .takeKeyframeRequest :: later ∧
      (broadcaster.run earlier).takeKeyframeRequest.1 = true

section Step

variable {broadcaster : Broadcaster}
variable {id : SubscriptionId}
variable {operation : Operation}

theorem run_concat
    (broadcaster : Broadcaster)
    (operations : List Operation)
    (operation : Operation) :
    broadcaster.run (operations ++ [operation]) =
      (broadcaster.run operations).step operation := by
  simp [run]

theorem length_subscribe :
    (broadcaster.step .subscribe).shared.length =
      broadcaster.shared.length + 1 := by
  simp [step, subscribe]

/-- Waiting in terms of the queue of the viewer. -/
theorem waiting_iff :
    Waiting id broadcaster ↔
      broadcaster.alive id = true ∧
        (viewerQueue id broadcaster).waiting = true := by
  refine and_congr_right fun isAlive => ?_
  have found := List.getElem?_eq_getElem (known_of_alive isAlive)
  simp [viewerQueue, queue, found]

/-- The publishing loop asks for a keyframe when some queue overflows. -/
theorem requestKeyframe_deliver_foldl
    (accessUnit : EncodedAccessUnit)
    {clients : List SubscriptionId}
    (nodup : clients.Nodup)
    (delivery : Delivery) :
    (clients.foldl (deliver accessUnit) delivery).requestKeyframe =
      (delivery.requestKeyframe ||
        clients.any fun id =>
          (delivery.shared[id]?).any fun pair =>
            pair.alive && pair.queue.relieve.2) := by
  induction clients generalizing delivery with
  | nil =>
      simp
  | cons client clients inductionHypothesis =>
      obtain ⟨absent, laterNodup⟩ := List.nodup_cons.mp nodup
      have here :
          (deliver accessUnit delivery client).requestKeyframe =
            (delivery.requestKeyframe ||
              (delivery.shared[client]?).any fun pair =>
                pair.alive && pair.queue.relieve.2) := by
        cases found : delivery.shared[client]? with
        | none =>
            simp [deliver, found]
        | some pair =>
            cases isAlive : pair.alive <;> simp [deliver, found, isAlive]
      have others :
          (clients.any fun id =>
            ((deliver accessUnit delivery client).shared[id]?).any
              fun pair => pair.alive && pair.queue.relieve.2) =
            clients.any fun id =>
              (delivery.shared[id]?).any fun pair =>
                pair.alive && pair.queue.relieve.2 := by
        rw [Bool.eq_iff_iff, List.any_eq_true, List.any_eq_true]
        refine exists_congr fun id => and_congr_right fun member => ?_
        have different : client ≠ id := fun same => absent (same ▸ member)
        simp [getElem?_deliver, different]
      rw [List.foldl_cons, inductionHypothesis laterNodup, here, others,
        List.any_cons, Bool.or_assoc]

/-- A publication that finds a queue full asks for a keyframe. -/
theorem requested_of_overflow
    (wellFormed : broadcaster.WellFormed)
    (isAlive : broadcaster.alive id = true)
    {queue : FrameQueue}
    (found : queue ∈ broadcaster.queue id)
    (full : queue.frames.length = maxQueuedAccessUnits)
    (accessUnit : EncodedAccessUnit)
    (now : Instant) :
    (broadcaster.publish accessUnit now).state.keyframeRequested = true := by
  have overflows :
      (broadcaster.state.clients.any fun id =>
        (broadcaster.shared[id]?).any fun pair =>
          pair.alive && pair.queue.relieve.2) = true := by
    rw [List.any_eq_true]
    refine ⟨id, wellFormed.served id isAlive, ?_⟩
    have present :=
      List.getElem?_eq_getElem (known_of_alive isAlive)
    simp only [Broadcaster.queue, present, Option.map_some,
      Option.mem_some_iff] at found
    simp only [alive, present, Option.any_some] at isAlive
    simp [present, isAlive, found, FrameQueue.relieve, full]
  simp [publish, requestKeyframe_deliver_foldl _ wellFormed.nodup,
    overflows]

/-- An operation that starts the waiting sets the request. -/
theorem requested_of_startsWaiting
    (wellFormed : broadcaster.WellFormed)
    (starts : StartsWaiting id broadcaster operation) :
    (broadcaster.step operation).state.keyframeRequested = true := by
  cases operation with
  | subscribe =>
      rfl
  | setCodecConfig codec =>
      simp [state_setCodecConfig, starts.2]
  | publish accessUnit now =>
      obtain ⟨isAlive, ⟨queue, found, full⟩, _⟩ := starts
      exact requested_of_overflow wellFormed isAlive found full
        accessUnit now
  | _ =>
      exact starts.elim

/-- Only a call that returns the request clears it. -/
theorem requested_step
    (requested : broadcaster.state.keyframeRequested = true)
    (notTaken : operation ≠ .takeKeyframeRequest) :
    (broadcaster.step operation).state.keyframeRequested = true := by
  cases operation with
  | takeKeyframeRequest =>
      exact (notTaken rfl).elim
  | publish accessUnit now =>
      simp [step, publish, requested]
  | setCodecConfig codec =>
      simp [state_setCodecConfig, requested]
  | recvTimeout other =>
      rw [state_recvTimeout]
      exact requested
  | subscribe =>
      rfl
  | setFrameRate numerator denominator =>
      exact requested
  | drop other =>
      exact requested

/-- A cut of the viewer's queue without a keyframe starts the waiting. -/
theorem startsWaiting_of_cut
    (isAlive : broadcaster.alive id = true)
    (cut :
      (viewerQueue id broadcaster).Cut maxQueuedAccessUnits
        (viewerInput id broadcaster operation))
    (noKey :
      ∀ accessUnit ∈ (viewerInput id broadcaster operation).offered,
        decide (IsKeyframe accessUnit) = false) :
    StartsWaiting id broadcaster operation := by
  have found := List.getElem?_eq_getElem (known_of_alive isAlive)
  cases operation with
  | publish accessUnit now =>
      simp only [viewerInput, isAlive, if_true] at cut noKey
      have notKey :
          ¬ IsKeyframe (completed broadcaster.state.codec accessUnit) :=
        of_decide_eq_false
          (noKey _ (by simp [ResyncQueue.Input.offered]))
      refine ⟨isAlive, ?_, fun key => notKey (isKeyframe_completed.mpr key)⟩
      simpa [ResyncQueue.Queue.Cut, viewerQueue, queue, found,
        FrameQueue.toResync] using cut
  | setCodecConfig codec =>
      simp only [viewerInput] at cut
      split at cut
      · rename_i cleared
        exact ⟨isAlive, cleared.1⟩
      · exact cut.elim
  | recvTimeout other =>
      simp only [viewerInput] at cut
      split at cut <;> exact cut.elim
  | _ =>
      exact cut.elim

/-- Only a new subscription was not alive before the operation. -/
theorem alive_of_alive_step
    (wellFormed : broadcaster.WellFormed)
    (isAlive : (broadcaster.step operation).alive id = true) :
    broadcaster.alive id = true ∨
      operation = .subscribe ∧ id = broadcaster.shared.length := by
  by_cases known : id < broadcaster.shared.length
  · rw [alive_step wellFormed known, Bool.and_eq_true] at isAlive
    exact .inl isAlive.1
  · by_cases isSubscribe : operation = .subscribe
    · subst operation
      have present := known_of_alive isAlive
      rw [length_subscribe, Nat.lt_succ_iff] at present
      exact .inr ⟨rfl, Nat.le_antisymm present (Nat.le_of_not_lt known)⟩
    · exact .inl
        (wellFormed.served_of_alive_step isSubscribe isAlive).2

/-- Nothing else starts the waiting. -/
theorem waiting_of_waiting_step
    (wellFormed : broadcaster.WellFormed)
    (waiting : Waiting id (broadcaster.step operation))
    (notStarting : ¬ StartsWaiting id broadcaster operation) :
    Waiting id broadcaster := by
  rcases alive_of_alive_step wellFormed waiting.1 with
    isAlive | ⟨rfl, isNew⟩
  · have known := known_of_alive isAlive
    have waits := (waiting_iff.mp waiting).2
    rw [viewerQueue_step wellFormed known] at waits
    rcases ResyncQueue.Queue.waiting_of_waiting_apply waits with
      earlier | ⟨cut, noKey⟩
    · exact waiting_iff.mpr ⟨isAlive, earlier⟩
    · exact (notStarting
        (startsWaiting_of_cut isAlive cut noKey)).elim
  · exact (notStarting isNew).elim

end Step

/-! ## The request since a viewer started to wait -/

/--
A run split at the last operation that made the viewer wait; the viewer has
been waiting ever since.
-/
structure WaitingSince
    (id : SubscriptionId)
    (earlier : List Operation)
    (operation : Operation)
    (later : List Operation) : Prop where
  starts : StartsWaiting id (initial.run earlier) operation
  last :
    ∀ before next after, later = before ++ next :: after →
      ¬ StartsWaiting id
        (initial.run (earlier ++ operation :: before)) next
  waits :
    ∀ before after, later = before ++ after →
      Waiting id (initial.run (earlier ++ operation :: before))

/-- The request is set, or was handed out since the viewer waits. -/
def RequestedSince
    (earlier : List Operation)
    (operation : Operation)
    (later : List Operation) : Prop :=
  (initial.run
      (earlier ++ operation :: later)).state.keyframeRequested = true ∨
    Requested (initial.run (earlier ++ [operation])) later

theorem wellFormed_run (operations : List Operation) :
    (initial.run operations).WellFormed :=
  wellFormed_initial.run operations

/-- The viewer starts to wait with the last operation of the run. -/
theorem WaitingSince.of_starts
    {id : SubscriptionId}
    {earlier : List Operation}
    {operation : Operation}
    (starts : StartsWaiting id (initial.run earlier) operation)
    (waiting : Waiting id (initial.run (earlier ++ [operation]))) :
    WaitingSince id earlier operation [] where
  starts := starts
  last := by simp
  waits := by
    intro before after split
    obtain ⟨rfl, _⟩ := List.append_eq_nil_iff.mp split.symm
    exact waiting

/-- The viewer goes on waiting through one more operation. -/
theorem WaitingSince.concat
    {id : SubscriptionId}
    {earlier later : List Operation}
    {operation next : Operation}
    (since : WaitingSince id earlier operation later)
    (notStarting :
      ¬ StartsWaiting id
        (initial.run (earlier ++ operation :: later)) next)
    (waiting :
      Waiting id
        (initial.run (earlier ++ operation :: (later ++ [next])))) :
    WaitingSince id earlier operation (later ++ [next]) where
  starts := since.starts
  last := by
    intro before other after split
    rcases List.eq_nil_or_concat after with rfl | ⟨middle, end_, rfl⟩
    · obtain ⟨rfl, lastEq⟩ := List.append_inj' split rfl
      obtain rfl := List.singleton_inj.mp lastEq
      exact notStarting
    · have regrouped :
          later ++ [next] = (before ++ other :: middle) ++ [end_] := by
        simpa using split
      exact since.last before other middle
        (List.append_inj' regrouped rfl).1
  waits := by
    intro before after split
    rcases List.eq_nil_or_concat after with rfl | ⟨middle, end_, rfl⟩
    · rw [List.append_nil] at split
      exact split ▸ waiting
    · have regrouped :
          later ++ [next] = (before ++ middle) ++ [end_] := by
        simpa using split
      exact since.waits before middle (List.append_inj' regrouped rfl).1

/-- A request handed out earlier stays handed out. -/
theorem Requested.concat
    {broadcaster : Broadcaster}
    {operations : List Operation}
    (requested : Requested broadcaster operations)
    (next : Operation) :
    Requested broadcaster (operations ++ [next]) := by
  obtain ⟨earlier, later, split, taken⟩ := requested
  exact ⟨earlier, later ++ [next], by simp [split], taken⟩

/-- One more operation keeps the request, or hands it out. -/
theorem RequestedSince.concat
    {earlier later : List Operation}
    {operation next : Operation}
    (since : RequestedSince earlier operation later) :
    RequestedSince earlier operation (later ++ [next]) := by
  rcases since with pending | taken
  · by_cases takes : next = .takeKeyframeRequest
    · subst takes
      refine .inr ⟨later, [], rfl, ?_⟩
      simpa [run, takeKeyframeRequest] using pending
    · have kept := requested_step pending takes
      rw [← run_concat] at kept
      exact .inl (by simpa using kept)
  · exact .inr (taken.concat next)

/-- The request of every waiting viewer, by induction on the run. -/
theorem exists_waitingSince
    {operations : List Operation}
    {id : SubscriptionId}
    (waiting : Waiting id (initial.run operations)) :
    ∃ earlier operation later,
      operations = earlier ++ operation :: later ∧
        WaitingSince id earlier operation later ∧
        RequestedSince earlier operation later := by
  induction operations using List.reverseRecOn with
  | nil =>
      simp [Waiting, run, initial, alive] at waiting
  | append_singleton operations next inductionHypothesis =>
      have wellFormed := wellFormed_run operations
      by_cases starts : StartsWaiting id (initial.run operations) next
      · refine ⟨operations, next, [], rfl, .of_starts starts waiting,
          .inl ?_⟩
        rw [run_concat]
        exact requested_of_startsWaiting wellFormed starts
      · rw [run_concat] at waiting
        have before := waiting_of_waiting_step wellFormed waiting starts
        obtain ⟨earlier, operation, later, rfl, since, requested⟩ :=
          inductionHypothesis before
        rw [← run_concat] at waiting
        refine ⟨earlier, operation, later ++ [next], by simp,
          since.concat starts ?_, requested.concat⟩
        simpa using waiting

/-! ## The next keyframe -/

/-- A waiting viewer has nothing to read. -/
theorem settled_run (id : SubscriptionId) (operations : List Operation) :
    (viewerQueue id (initial.run operations)).Settled := by
  induction operations using List.reverseRecOn with
  | nil =>
      exact ResyncQueue.Queue.settled_fresh
  | append_singleton operations operation inductionHypothesis =>
      have wellFormed := wellFormed_run operations
      rw [run_concat]
      by_cases known : id < (initial.run operations).shared.length
      · rw [viewerQueue_step wellFormed known]
        exact inductionHypothesis.apply _
      · by_cases isSubscribe : operation = .subscribe
        · subst operation
          rcases Nat.eq_or_lt_of_le (Nat.le_of_not_lt known) with
            isNew | beyond
          · subst isNew
            rw [viewerQueue, queue, shared_subscribe]
            exact ResyncQueue.Queue.settled_fresh
          · have absent :
                ((initial.run operations).step .subscribe).shared[id]? =
                  none := by
              rw [List.getElem?_eq_none_iff, length_subscribe]
              exact beyond
            rw [viewerQueue, queue, absent]
            exact ResyncQueue.Queue.settled_fresh
        · have absent :=
            shared_step_unknown wellFormed
              (List.getElem?_eq_none (Nat.le_of_not_lt known))
              isSubscribe
          rw [viewerQueue, queue, absent]
          exact ResyncQueue.Queue.settled_fresh

/-- Without a keyframe a viewer goes on waiting. -/
theorem waiting_step
    {broadcaster : Broadcaster}
    (wellFormed : broadcaster.WellFormed)
    {id : SubscriptionId}
    (waiting : Waiting id broadcaster)
    {operation : Operation}
    (notDropped : operation ≠ .drop id)
    (noKeyframe :
      ∀ accessUnit now, operation = .publish accessUnit now →
        ¬ IsKeyframe accessUnit) :
    Waiting id (broadcaster.step operation) := by
  have known := known_of_alive waiting.1
  rw [waiting_iff] at waiting ⊢
  constructor
  · rw [alive_step wellFormed known]
    simp [waiting.1, notDropped]
  · rw [viewerQueue_step wellFormed known]
    refine ResyncQueue.Queue.waiting_apply waiting.2 ?_
    cases operation with
    | publish accessUnit now =>
        have notKey :
            ¬ IsKeyframe (completed broadcaster.state.codec accessUnit) :=
          mt isKeyframe_completed.mp (noKeyframe accessUnit now rfl)
        simp [viewerInput, waiting.1, ResyncQueue.Input.offered, notKey]
    | setCodecConfig codec =>
        simp only [viewerInput]
        split <;> simp [ResyncQueue.Input.offered]
    | recvTimeout other =>
        simp only [viewerInput]
        split <;> simp [ResyncQueue.Input.offered]
    | _ =>
        simp [viewerInput, ResyncQueue.Input.offered]

/-- The operations publish no keyframe and keep the subscription. -/
structure WithoutKeyframe
    (id : SubscriptionId)
    (operations : List Operation) : Prop where
  notDropped : .drop id ∉ operations
  noKeyframe :
    ∀ accessUnit now, .publish accessUnit now ∈ operations →
      ¬ IsKeyframe accessUnit

/-- A viewer goes on waiting until the next published keyframe. -/
theorem waiting_run
    {broadcaster : Broadcaster}
    (wellFormed : broadcaster.WellFormed)
    {id : SubscriptionId}
    (waiting : Waiting id broadcaster)
    {operations : List Operation}
    (noKeyframe : WithoutKeyframe id operations) :
    Waiting id (broadcaster.run operations) := by
  induction operations generalizing broadcaster with
  | nil =>
      exact waiting
  | cons operation later inductionHypothesis =>
      refine inductionHypothesis (wellFormed.step operation) ?_ ?_
      · refine waiting_step wellFormed waiting ?_ ?_
        · rintro rfl
          exact noKeyframe.notDropped List.mem_cons_self
        · rintro accessUnit now rfl
          exact noKeyframe.noKeyframe accessUnit now List.mem_cons_self
      · exact {
          notDropped := fun member =>
            noKeyframe.notDropped (List.mem_cons_of_mem _ member)
          noKeyframe := fun accessUnit now member =>
            noKeyframe.noKeyframe accessUnit now
              (List.mem_cons_of_mem _ member)
        }

/-- The viewer's queue holds this access unit alone. -/
structure StartsReceiving
    (id : SubscriptionId)
    (broadcaster : Broadcaster)
    (accessUnit : EncodedAccessUnit) : Prop where
  alive : broadcaster.alive id = true
  queued :
    broadcaster.queue id =
      some { frames := [accessUnit], waitingForKeyframe := false }
  received : (broadcaster.recvTimeout id).1 = some accessUnit

/-- A keyframe is the first access unit a waiting viewer receives. -/
theorem startsReceiving_of_keyframe
    {operations : List Operation}
    {id : SubscriptionId}
    (waiting : Waiting id (initial.run operations))
    {accessUnit : EncodedAccessUnit}
    (isKeyframe : IsKeyframe accessUnit)
    (now : Instant) :
    StartsReceiving id
      ((initial.run operations).step (.publish accessUnit now))
      (completed (initial.run operations).state.codec accessUnit) := by
  have wellFormed := wellFormed_run operations
  have known := known_of_alive waiting.1
  have after := viewerQueue_step wellFormed known (.publish accessUnit now)
  have isKey :
      decide
        (IsKeyframe
          (completed (initial.run operations).state.codec accessUnit)) =
        true :=
    decide_eq_true (isKeyframe_completed.mpr isKeyframe)
  simp only [viewerInput, waiting.1, if_true] at after
  rw [ResyncQueue.Queue.apply_key (settled_run id operations)
    (waiting_iff.mp waiting).2 isKey] at after
  have found :=
    List.getElem?_eq_getElem
      (known_step wellFormed known (.publish accessUnit now))
  have queued :
      ((initial.run operations).step (.publish accessUnit now)).queue id =
        some {
          frames :=
            [completed (initial.run operations).state.codec accessUnit]
          waitingForKeyframe := false } := by
    simp only [viewerQueue, queue, found, Option.map_some,
      Option.elim_some, FrameQueue.toResync,
      ResyncQueue.Queue.mk.injEq] at after
    simp only [queue, found, Option.map_some, Option.some_inj]
    rw [← after.1, ← after.2]
  exact {
    alive := by
      rw [alive_step wellFormed known]
      simp [waiting.1]
    queued := queued
    received := by simp [recvTimeout, queued]
  }

/-- What a run guarantees to a viewer that waits for a keyframe. -/
structure KeyframeGuarantee
    (operations : List Operation)
    (id : SubscriptionId) : Prop where
  requested :
    Waiting id (initial.run operations) →
      ∃ earlier operation later,
        operations = earlier ++ operation :: later ∧
          WaitingSince id earlier operation later ∧
          RequestedSince earlier operation later
  servedNext :
    Waiting id (initial.run operations) →
      ∀ later, WithoutKeyframe id later →
        Waiting id (initial.run (operations ++ later)) ∧
          ∀ accessUnit now, IsKeyframe accessUnit →
            StartsReceiving id
              ((initial.run (operations ++ later)).step
                (.publish accessUnit now))
              (completed (initial.run (operations ++ later)).state.codec
                accessUnit)

/--
A viewer that waits for a keyframe has its request pending, or handed out since
it began to wait, and the next keyframe is the first access unit it receives.
-/
theorem keyframe_guarantee
    (operations : List Operation)
    (id : SubscriptionId) :
    KeyframeGuarantee operations id where
  requested := exists_waitingSince
  servedNext := by
    intro waiting later noKeyframe
    have stillWaiting :
        Waiting id (initial.run (operations ++ later)) := by
      rw [run, List.foldl_append]
      exact waiting_run (wellFormed_run operations) waiting noKeyframe
    exact ⟨stillWaiting, fun accessUnit now isKeyframe =>
      startsReceiving_of_keyframe stillWaiting isKeyframe now⟩

end Broadcaster

end CamRtsp
