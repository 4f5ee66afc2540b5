import CamRtsp.Broadcaster
import CamRtsp.Foundation.ResyncQueue

namespace CamRtsp

open RustText

/-!
# What a viewer receives

A viewer's queue inside the broadcaster is a resynchronising queue.  The
general result about such queues then says how any interleaving of operations
falls into segments that a decoder can use.
-/

/-- The configurations have the same parameter sets. -/
def SameSets (first second : CodecConfig) : Prop :=
  first.sps = second.sps ∧ first.pps = second.pps

instance (first second : CodecConfig) :
    Decidable (SameSets first second) :=
  inferInstanceAs (Decidable (_ ∧ _))

theorem SameSets.symm
    {first second : CodecConfig}
    (same : SameSets first second) :
    SameSets second first :=
  ⟨same.1.symm, same.2.symm⟩

/-- The keyframe test can be evaluated. -/
instance (accessUnit : EncodedAccessUnit) :
    Decidable (IsKeyframe accessUnit) :=
  inferInstanceAs (Decidable (_ ∨ _))

/-- Searching for a NAL unit type is existence. -/
theorem hasNalType_iff {nalUnits : List Bytes} {type : UInt8} :
    hasNalType nalUnits type = true ↔
      ∃ nal ∈ nalUnits, nalType nal = some type := by
  simp [hasNalType]

/-- The flag of a completed access unit tells whether it is a keyframe. -/
theorem keyframe_completed
    (codec : Option CodecConfig)
    (accessUnit : EncodedAccessUnit) :
    (completed codec accessUnit).keyframe =
      decide (IsKeyframe (completed codec accessUnit)) := by
  cases isKeyframe :
      accessUnit.keyframe || hasNalType accessUnit.nalUnits 5 with
  | true =>
      have flagged : (completed codec accessUnit).keyframe = true := by
        cases codec <;> simp [completed, isKeyframe]
      simp [IsKeyframe, flagged]
  | false =>
      have unflagged :
          completed codec accessUnit =
            { accessUnit with keyframe := false } := by
        simp [completed, isKeyframe]
      have absent : ¬ IsKeyframe { accessUnit with keyframe := false } := by
        rintro (flagged | contained)
        · simp at flagged
        · simp [hasNalType_iff.mpr contained] at isKeyframe
      simp [unflagged, absent]

/-- Parameter sets do not make a keyframe. -/
theorem isKeyframe_completed
    {codec : Option CodecConfig}
    {accessUnit : EncodedAccessUnit} :
    IsKeyframe (completed codec accessUnit) ↔ IsKeyframe accessUnit := by
  have flag :
      (completed codec accessUnit).keyframe = true ↔
        IsKeyframe accessUnit := by
    rw [IsKeyframe, ← hasNalType_iff, ← Bool.or_eq_true]
    cases isKeyframe :
        accessUnit.keyframe || hasNalType accessUnit.nalUnits 5 with
    | false =>
        simp [completed, isKeyframe]
    | true =>
        cases codec <;> simp [completed, isKeyframe]
  rw [← flag, keyframe_completed, decide_eq_true_eq]

/-- A frame queue as a resynchronising queue. -/
def FrameQueue.toResync (queue : FrameQueue) :
    ResyncQueue.Queue EncodedAccessUnit where
  items := queue.frames
  waiting := queue.waitingForKeyframe

@[simp]
theorem FrameQueue.waiting_toResync (queue : FrameQueue) :
    queue.toResync.waiting = queue.waitingForKeyframe :=
  rfl

namespace Broadcaster

/-! ## The effect of one operation on one shared pair -/

/-- Changing one queue leaves the other pairs alone. -/
theorem getElem?_modifyQueue
    (shared : List Shared)
    (changed id : SubscriptionId)
    (change : FrameQueue → FrameQueue) :
    (modifyQueue shared changed change)[id]? =
      (shared[id]?).map fun pair =>
        if changed = id then
          { pair with queue := change pair.queue }
        else
          pair := by
  rw [modifyQueue, List.getElem?_modify]
  by_cases same : changed = id <;> simp [same]

/-- Clearing the queues of all clients. -/
theorem getElem?_clear
    (clients : List SubscriptionId)
    (shared : List Shared)
    (id : SubscriptionId)
    (empty : FrameQueue) :
    (clients.foldl
        (fun shared client => modifyQueue shared client fun _ => empty)
        shared)[id]? =
      (shared[id]?).map fun pair =>
        if id ∈ clients then { pair with queue := empty } else pair := by
  induction clients generalizing shared with
  | nil =>
      simp
  | cons client clients inductionHypothesis =>
      rw [List.foldl_cons, inductionHypothesis, getElem?_modifyQueue,
        Option.map_map]
      congr 1
      funext pair
      by_cases later : id ∈ clients
      · by_cases same : client = id <;> simp [later, same]
      · by_cases same : client = id
        · simp [later, same]
        · simp [later, same, Ne.symm same]

/-- One client's queue under `publish`. -/
def published (accessUnit : EncodedAccessUnit) (pair : Shared) : Shared :=
  if pair.alive then
    { pair with queue := pair.queue.relieve.1.push accessUnit }
  else
    pair

/-- One iteration of the publishing loop changes its own client only. -/
theorem getElem?_deliver
    (accessUnit : EncodedAccessUnit)
    (delivery : Delivery)
    (client id : SubscriptionId) :
    (deliver accessUnit delivery client).shared[id]? =
      (delivery.shared[id]?).map fun pair =>
        if client = id then published accessUnit pair else pair := by
  cases found : delivery.shared[client]? with
  | none =>
      by_cases same : client = id
      · subst same
        simp [deliver, found]
      · simp [deliver, found, same]
  | some pair =>
      by_cases isAlive : pair.alive = true
      · by_cases same : client = id
        · subst same
          simp [deliver, found, isAlive, getElem?_modifyQueue, published]
        · simp [deliver, found, isAlive, getElem?_modifyQueue, same]
      · by_cases same : client = id
        · subst same
          simp [deliver, found, isAlive, published]
        · simp [deliver, found, isAlive, same]

/-- The publishing loop visits every client once. -/
theorem getElem?_deliver_foldl
    (accessUnit : EncodedAccessUnit)
    {clients : List SubscriptionId}
    (nodup : clients.Nodup)
    (delivery : Delivery)
    (id : SubscriptionId) :
    (clients.foldl (deliver accessUnit) delivery).shared[id]? =
      (delivery.shared[id]?).map fun pair =>
        if id ∈ clients then published accessUnit pair else pair := by
  induction clients generalizing delivery with
  | nil =>
      simp
  | cons client clients inductionHypothesis =>
      obtain ⟨absent, laterNodup⟩ := List.nodup_cons.mp nodup
      rw [List.foldl_cons, inductionHypothesis laterNodup,
        getElem?_deliver, Option.map_map]
      congr 1
      funext pair
      by_cases same : client = id
      · subst same
        simp [absent]
      · simp [same, Ne.symm same]

/-- The publishing loop keeps the clients whose subscription exists. -/
theorem clients_deliver_foldl
    (accessUnit : EncodedAccessUnit)
    (clients : List SubscriptionId)
    (delivery : Delivery) :
    (clients.foldl (deliver accessUnit) delivery).clients =
      delivery.clients ++
        clients.filter fun id =>
          (delivery.shared[id]?).any Shared.alive := by
  induction clients generalizing delivery with
  | nil =>
      simp
  | cons client clients inductionHypothesis =>
      have aliveEq :
          (fun id : SubscriptionId =>
            ((deliver accessUnit delivery client).shared[id]?).any
              Shared.alive) =
            fun id => (delivery.shared[id]?).any Shared.alive := by
        funext id
        rw [getElem?_deliver]
        cases delivery.shared[id]? with
        | none =>
            rfl
        | some pair =>
            by_cases same : client = id <;>
              cases isAlive : pair.alive <;>
                simp [published, same, isAlive]
      rw [List.foldl_cons, inductionHypothesis, aliveEq,
        List.filter_cons]
      cases found : delivery.shared[client]? with
      | none =>
          simp [deliver, found]
      | some pair =>
          cases isAlive : pair.alive <;>
            simp [deliver, found, isAlive]

/--
The clients are distinct shared pairs, and every existing subscription is
served.
-/
structure WellFormed (broadcaster : Broadcaster) : Prop where
  nodup : broadcaster.state.clients.Nodup
  known :
    ∀ id ∈ broadcaster.state.clients, id < broadcaster.shared.length
  served :
    ∀ id, broadcaster.alive id = true → id ∈ broadcaster.state.clients

/-- The shared pair of a subscription after one operation. -/
def pairAfter
    (broadcaster : Broadcaster)
    (id : SubscriptionId)
    (operation : Operation)
    (pair : Shared) : Shared :=
  match operation with
  | .publish accessUnit _ =>
      published (completed broadcaster.state.codec accessUnit) pair
  | .setCodecConfig codec =>
      if broadcaster.replacesCodec codec ∧
          id ∈ broadcaster.state.clients then
        { pair with queue := { frames := [], waitingForKeyframe := true } }
      else
        pair
  | .recvTimeout other =>
      if other = id ∧ pair.alive then
        { pair with
          queue := { pair.queue with frames := pair.queue.frames.tail } }
      else
        pair
  | .drop other =>
      if other = id then { pair with alive := false } else pair
  | _ => pair

/-- An operation acts on an existing shared pair as `pairAfter` says. -/
theorem shared_step
    {broadcaster : Broadcaster}
    (wellFormed : broadcaster.WellFormed)
    {id : SubscriptionId}
    (known : id < broadcaster.shared.length)
    (operation : Operation) :
    (broadcaster.step operation).shared[id]? =
      (broadcaster.shared[id]?).map (broadcaster.pairAfter id operation) := by
  have found := List.getElem?_eq_getElem known
  cases operation with
  | subscribe =>
      simp [step, subscribe, pairAfter, List.getElem?_append_left known, found]
  | publish accessUnit now =>
      simp only [step, publish,
        getElem?_deliver_foldl _ wellFormed.nodup, found,
        Option.map_some, pairAfter]
      by_cases member : id ∈ broadcaster.state.clients
      · simp [member]
      · have notAlive : (broadcaster.shared[id]).alive = false := by
          have notServed := mt (wellFormed.served id) member
          simpa [alive, found] using notServed
        simp [member, published, notAlive]
  | setCodecConfig codec =>
      by_cases replaced : broadcaster.replacesCodec codec = true
      · simp only [step, setCodecConfig, replaced, if_true,
          getElem?_clear, found, Option.map_some, pairAfter, true_and]
      · simp [step, setCodecConfig, replaced, pairAfter, found]
  | setFrameRate numerator denominator =>
      simp [step, setFrameRate, pairAfter, found]
  | takeKeyframeRequest =>
      simp [step, takeKeyframeRequest, pairAfter, found]
  | recvTimeout other =>
      by_cases same : other = id
      · subst same
        cases isAlive : (broadcaster.shared[other]).alive <;>
          simp [step, recvTimeout, alive, found, isAlive, pairAfter,
            getElem?_modifyQueue]
      · by_cases otherAlive : broadcaster.alive other = true <;>
          simp [step, recvTimeout, otherAlive, pairAfter, same, found,
            getElem?_modifyQueue]
  | drop other =>
      by_cases same : other = id
      · subst same
        simp [step, drop, pairAfter, found]
      · simp [step, drop, pairAfter, same, found]

/-- Only `subscribe` creates shared pairs. -/
theorem shared_step_unknown
    {broadcaster : Broadcaster}
    (wellFormed : broadcaster.WellFormed)
    {id : SubscriptionId}
    (unknown : broadcaster.shared[id]? = none)
    {operation : Operation}
    (notSubscribe : operation ≠ .subscribe) :
    (broadcaster.step operation).shared[id]? = none := by
  cases operation with
  | subscribe =>
      exact (notSubscribe rfl).elim
  | publish accessUnit now =>
      simp [step, publish, getElem?_deliver_foldl _ wellFormed.nodup,
        unknown]
  | setCodecConfig codec =>
      by_cases replaced : broadcaster.replacesCodec codec = true <;>
        simp [step, setCodecConfig, replaced, getElem?_clear, unknown]
  | setFrameRate numerator denominator =>
      simp [step, setFrameRate, unknown]
  | takeKeyframeRequest =>
      simp [step, takeKeyframeRequest, unknown]
  | recvTimeout other =>
      by_cases otherAlive : broadcaster.alive other = true <;>
        simp [step, recvTimeout, otherAlive, getElem?_modifyQueue,
          unknown]
  | drop other =>
      by_cases same : other = id <;>
        simp [step, drop, same, unknown]

/-- A subscription that exists has a shared pair. -/
theorem known_of_alive
    {broadcaster : Broadcaster}
    {id : SubscriptionId}
    (isAlive : broadcaster.alive id = true) :
    id < broadcaster.shared.length := by
  by_contra unknown
  simp [alive, List.getElem?_eq_none (Nat.le_of_not_lt unknown)] at isAlive

/-- A shared pair is never freed. -/
theorem known_step
    {broadcaster : Broadcaster}
    (wellFormed : broadcaster.WellFormed)
    {id : SubscriptionId}
    (known : id < broadcaster.shared.length)
    (operation : Operation) :
    id < (broadcaster.step operation).shared.length := by
  have after := shared_step wellFormed known operation
  rw [List.getElem?_eq_getElem known, Option.map_some] at after
  exact (List.getElem?_eq_some_iff.mp after).1

/-- A subscription exists until it is dropped. -/
theorem alive_step
    {broadcaster : Broadcaster}
    (wellFormed : broadcaster.WellFormed)
    {id : SubscriptionId}
    (known : id < broadcaster.shared.length)
    (operation : Operation) :
    (broadcaster.step operation).alive id =
      (broadcaster.alive id && decide (operation ≠ .drop id)) := by
  have found := List.getElem?_eq_getElem known
  rw [alive, shared_step wellFormed known operation, alive, found]
  cases operation with
  | publish accessUnit now =>
      cases isAlive : (broadcaster.shared[id]).alive <;>
        simp [pairAfter, published, isAlive]
  | setCodecConfig codec =>
      by_cases cleared :
          broadcaster.replacesCodec codec = true ∧
            id ∈ broadcaster.state.clients <;>
        simp [pairAfter, cleared]
  | recvTimeout other =>
      by_cases read :
          other = id ∧ (broadcaster.shared[id]).alive = true <;>
        simp [pairAfter, read]
  | drop other =>
      by_cases same : other = id <;>
        simp [pairAfter, same]
  | _ =>
      simp [pairAfter]

/-- Receiving leaves the shared state of the broadcaster as it is. -/
theorem state_recvTimeout
    (broadcaster : Broadcaster)
    (id : SubscriptionId) :
    (broadcaster.step (.recvTimeout id)).state = broadcaster.state := by
  by_cases isAlive : broadcaster.alive id = true <;>
    simp [step, recvTimeout, isAlive]

/-- The configuration is stored; replacing one asks for a keyframe. -/
theorem state_setCodecConfig
    (broadcaster : Broadcaster)
    (codec : CodecConfig) :
    (broadcaster.step (.setCodecConfig codec)).state =
      { broadcaster.state with
        keyframeRequested :=
          broadcaster.replacesCodec codec ||
            broadcaster.state.keyframeRequested
        codec := some codec } := by
  by_cases replaced : broadcaster.replacesCodec codec = true <;>
    simp [step, setCodecConfig, replaced]

/-- Only `set_codec_config` changes the configuration. -/
theorem codec_step
    (broadcaster : Broadcaster)
    (operation : Operation) :
    (broadcaster.step operation).state.codec =
      match operation with
      | .setCodecConfig codec => some codec
      | _ => broadcaster.state.codec := by
  cases operation with
  | setCodecConfig codec =>
      rw [state_setCodecConfig]
  | recvTimeout other =>
      rw [state_recvTimeout]
  | _ =>
      rfl

/-- The clients after one operation. -/
theorem clients_step
    (broadcaster : Broadcaster)
    (operation : Operation) :
    (broadcaster.step operation).state.clients =
      match operation with
      | .subscribe =>
          broadcaster.state.clients.filter broadcaster.alive ++
            [broadcaster.shared.length]
      | .publish _ _ =>
          broadcaster.state.clients.filter broadcaster.alive
      | _ => broadcaster.state.clients := by
  cases operation with
  | publish accessUnit now =>
      simp only [step, publish, clients_deliver_foldl, List.nil_append]
      rfl
  | setCodecConfig codec =>
      rw [state_setCodecConfig]
  | recvTimeout other =>
      rw [state_recvTimeout]
  | _ =>
      rfl

/-- The broadcaster starts without clients. -/
theorem wellFormed_initial : initial.WellFormed where
  nodup := List.nodup_nil
  known := by simp [initial]
  served := by simp [initial, alive]

/-- No operation but `subscribe` brings a subscription to life. -/
theorem WellFormed.served_of_alive_step
    {broadcaster : Broadcaster}
    (wellFormed : broadcaster.WellFormed)
    {operation : Operation}
    (notSubscribe : operation ≠ .subscribe)
    {id : SubscriptionId}
    (isAlive : (broadcaster.step operation).alive id = true) :
    id ∈ broadcaster.state.clients ∧ broadcaster.alive id = true := by
  by_cases known : id < broadcaster.shared.length
  · rw [alive_step wellFormed known, Bool.and_eq_true] at isAlive
    exact ⟨wellFormed.served id isAlive.1, isAlive.1⟩
  · have unknown :=
      shared_step_unknown wellFormed
        (List.getElem?_eq_none (Nat.le_of_not_lt known)) notSubscribe
    simp [alive, unknown] at isAlive

/-- A new subscription is a new client, and dropped ones are forgotten. -/
theorem WellFormed.step_subscribe
    {broadcaster : Broadcaster}
    (wellFormed : broadcaster.WellFormed) :
    (broadcaster.step .subscribe).WellFormed := by
  have fresh :
      broadcaster.shared.length ∉
        broadcaster.state.clients.filter broadcaster.alive := by
    intro member
    exact Nat.lt_irrefl _
      (wellFormed.known _ (List.mem_filter.mp member).1)
  have length :
      (broadcaster.step .subscribe).shared.length =
        broadcaster.shared.length + 1 := by
    simp [Broadcaster.step, subscribe]
  refine { nodup := ?_, known := ?_, served := ?_ }
  · rw [clients_step]
    simpa using (wellFormed.nodup.filter _).concat fresh
  · rw [clients_step, length]
    intro id member
    rcases List.mem_append.mp member with earlier | last
    · exact Nat.lt_succ_of_lt
        (wellFormed.known id (List.mem_filter.mp earlier).1)
    · rw [List.mem_singleton.mp last]
      exact Nat.lt_succ_self _
  · rw [clients_step]
    intro id isAlive
    have bound : id < broadcaster.shared.length + 1 := by
      rw [← length]
      by_contra beyond
      have absent :=
        List.getElem?_eq_none (Nat.le_of_not_lt beyond)
      simp [alive, absent] at isAlive
    rcases Nat.lt_succ_iff_lt_or_eq.mp bound with known | rfl
    · rw [alive_step wellFormed known, Bool.and_eq_true] at isAlive
      apply List.mem_append_left
      exact List.mem_filter.mpr
        ⟨wellFormed.served id isAlive.1, isAlive.1⟩
    · simp

/-- Every operation keeps the clients distinct, known and served. -/
theorem WellFormed.step
    {broadcaster : Broadcaster}
    (wellFormed : broadcaster.WellFormed)
    (operation : Operation) :
    (broadcaster.step operation).WellFormed := by
  have keptKnown :
      ∀ id ∈ broadcaster.state.clients,
        id < (broadcaster.step operation).shared.length :=
    fun id member =>
      known_step wellFormed (wellFormed.known id member) operation
  have sameClients :
      (broadcaster.step operation).state.clients =
          broadcaster.state.clients →
        operation ≠ .subscribe →
          (broadcaster.step operation).WellFormed := by
    intro clientsEq notSubscribe
    exact {
      nodup := clientsEq ▸ wellFormed.nodup
      known := clientsEq ▸ keptKnown
      served := fun id isAlive =>
        clientsEq ▸
          (wellFormed.served_of_alive_step notSubscribe isAlive).1
    }
  cases operation with
  | subscribe =>
      exact wellFormed.step_subscribe
  | publish accessUnit now =>
      refine { nodup := ?_, known := ?_, served := ?_ }
      · rw [clients_step]
        exact wellFormed.nodup.filter _
      · rw [clients_step]
        exact fun id member => keptKnown id (List.mem_filter.mp member).1
      · rw [clients_step]
        exact fun id isAlive =>
          List.mem_filter.mpr
            (wellFormed.served_of_alive_step (by simp) isAlive)
  | setCodecConfig codec =>
      exact sameClients (clients_step _ _) (by simp)
  | setFrameRate numerator denominator =>
      exact sameClients (clients_step _ _) (by simp)
  | takeKeyframeRequest =>
      exact sameClients (clients_step _ _) (by simp)
  | recvTimeout id =>
      exact sameClients (clients_step _ _) (by simp)
  | drop id =>
      exact sameClients (clients_step _ _) (by simp)

/-- Every run keeps the broadcaster well formed. -/
theorem WellFormed.run
    {broadcaster : Broadcaster}
    (wellFormed : broadcaster.WellFormed)
    (operations : List Operation) :
    (broadcaster.run operations).WellFormed := by
  induction operations generalizing broadcaster with
  | nil =>
      exact wellFormed
  | cons operation later inductionHypothesis =>
      exact inductionHypothesis (wellFormed.step operation)

/-- A shared pair is never freed in a run. -/
theorem known_run
    {broadcaster : Broadcaster}
    (wellFormed : broadcaster.WellFormed)
    {id : SubscriptionId}
    (known : id < broadcaster.shared.length)
    (operations : List Operation) :
    id < (broadcaster.run operations).shared.length := by
  induction operations generalizing broadcaster with
  | nil =>
      exact known
  | cons operation later inductionHypothesis =>
      exact inductionHypothesis (wellFormed.step operation)
        (known_step wellFormed known operation)

/-! ## The queue of one viewer -/

/-- The queue of a subscription as a resynchronising queue. -/
def viewerQueue
    (id : SubscriptionId)
    (broadcaster : Broadcaster) : ResyncQueue.Queue EncodedAccessUnit :=
  (broadcaster.queue id).elim .fresh FrameQueue.toResync

/-- What an operation means for the queue of a subscription. -/
def viewerInput
    (id : SubscriptionId)
    (broadcaster : Broadcaster) :
    Operation → ResyncQueue.Input EncodedAccessUnit
  | .publish accessUnit _ =>
      if broadcaster.alive id then
        .offer (completed broadcaster.state.codec accessUnit)
      else
        .idle
  | .setCodecConfig codec =>
      if broadcaster.replacesCodec codec ∧
          id ∈ broadcaster.state.clients then
        .resync
      else
        .idle
  | .recvTimeout other =>
      if other = id ∧ broadcaster.alive id then .take else .idle
  | _ => .idle

/-- The overflow check relieves the queue. -/
theorem toResync_relieve (queue : FrameQueue) :
    queue.relieve.1.toResync =
      queue.toResync.relieved maxQueuedAccessUnits := by
  by_cases full : queue.frames.length = maxQueuedAccessUnits <;>
    simp [FrameQueue.relieve, ResyncQueue.Queue.relieved,
      FrameQueue.toResync, ResyncQueue.Queue.fresh, full]

/-- Publishing offers the access unit to the queue. -/
theorem toResync_publish
    (queue : FrameQueue)
    (codec : Option CodecConfig)
    (accessUnit : EncodedAccessUnit) :
    (queue.relieve.1.push (completed codec accessUnit)).toResync =
      queue.toResync.apply maxQueuedAccessUnits
        (fun unit => decide (IsKeyframe unit))
        (.offer (completed codec accessUnit)) := by
  have flag := keyframe_completed codec accessUnit
  simp only [ResyncQueue.Queue.apply, ← toResync_relieve, ← flag]
  cases isKeyframe : (completed codec accessUnit).keyframe <;>
    cases waiting : queue.relieve.1.waitingForKeyframe <;>
      simp [FrameQueue.push, FrameQueue.toResync, isKeyframe, waiting]

/-- Every operation acts on a viewer's queue as its input says. -/
theorem viewerQueue_step
    {broadcaster : Broadcaster}
    (wellFormed : broadcaster.WellFormed)
    {id : SubscriptionId}
    (known : id < broadcaster.shared.length)
    (operation : Operation) :
    viewerQueue id (broadcaster.step operation) =
      (viewerQueue id broadcaster).apply maxQueuedAccessUnits
        (fun unit => decide (IsKeyframe unit))
        (viewerInput id broadcaster operation) := by
  have found := List.getElem?_eq_getElem known
  have queueEq :
      viewerQueue id broadcaster =
        (broadcaster.shared[id]).queue.toResync := by
    simp [viewerQueue, queue, found]
  have aliveEq :
      broadcaster.alive id = (broadcaster.shared[id]).alive := by
    simp [alive, found]
  have afterEq :
      viewerQueue id (broadcaster.step operation) =
        (broadcaster.pairAfter id operation
          (broadcaster.shared[id])).queue.toResync := by
    simp [viewerQueue, queue, shared_step wellFormed known operation,
      found]
  rw [afterEq, queueEq]
  cases operation with
  | publish accessUnit now =>
      cases isAlive : (broadcaster.shared[id]).alive with
      | false =>
          simp [pairAfter, published, viewerInput, aliveEq, isAlive,
            ResyncQueue.Queue.apply]
      | true =>
          simp [pairAfter, published, viewerInput, aliveEq, isAlive,
            toResync_publish]
  | setCodecConfig codec =>
      by_cases cleared :
          broadcaster.replacesCodec codec = true ∧
            id ∈ broadcaster.state.clients
      · simp [pairAfter, viewerInput, cleared,
          ResyncQueue.Queue.apply, FrameQueue.toResync,
          ResyncQueue.Queue.fresh]
      · simp [pairAfter, viewerInput, cleared,
          ResyncQueue.Queue.apply]
  | recvTimeout other =>
      by_cases read :
          other = id ∧ (broadcaster.shared[id]).alive = true
      · simp [pairAfter, viewerInput, aliveEq, read,
          ResyncQueue.Queue.apply, FrameQueue.toResync]
      · simp [pairAfter, viewerInput, aliveEq, read,
          ResyncQueue.Queue.apply]
  | drop other =>
      by_cases same : other = id <;>
        simp [pairAfter, viewerInput, same, ResyncQueue.Queue.apply]
  | _ =>
      rfl

/-- The broadcaster around the queue of one viewer. -/
def viewer (id : SubscriptionId) :
    ResyncQueue.Machine Broadcaster Operation EncodedAccessUnit where
  step := step
  Valid broadcaster :=
    broadcaster.WellFormed ∧ id < broadcaster.shared.length
  valid_step _ operation valid :=
    ⟨valid.1.step operation, known_step valid.1 valid.2 operation⟩
  capacity := maxQueuedAccessUnits
  capacity_pos := by decide
  key accessUnit := decide (IsKeyframe accessUnit)
  queue := viewerQueue id
  input := viewerInput id
  tracks _ operation valid :=
    viewerQueue_step valid.1 valid.2 operation

/-! ## Segments of a viewer's stream -/

/-- The access unit published while the subscription exists. -/
def publishes (id : SubscriptionId) (broadcaster : Broadcaster) :
    Operation → List EncodedAccessUnit
  | .publish accessUnit _ =>
      if broadcaster.alive id then
        [completed broadcaster.state.codec accessUnit]
      else
        []
  | _ => []

/-- The access unit that `publish` pushes to the queue. -/
def pushes (id : SubscriptionId) (broadcaster : Broadcaster) :
    Operation → List EncodedAccessUnit
  | .publish accessUnit _ =>
      let accessUnit := completed broadcaster.state.codec accessUnit
      if broadcaster.alive id ∧
          ∃ queue ∈ broadcaster.queue id,
            accessUnit.keyframe ∨
              ¬ queue.relieve.1.waitingForKeyframe then
        [accessUnit]
      else
        []
  | _ => []

/-- The access unit that `recv_timeout` returns on the subscription. -/
def receives (id : SubscriptionId) (broadcaster : Broadcaster) :
    Operation → List EncodedAccessUnit
  | .recvTimeout other =>
      if other = id ∧ broadcaster.alive id then
        (broadcaster.recvTimeout id).1.toList
      else
        []
  | _ => []

/-- All access units published in a run while the subscription exists. -/
def publishedTo (id : SubscriptionId) :
    Broadcaster → List Operation → List EncodedAccessUnit :=
  ResyncQueue.collect step (publishes id)

/-- All access units pushed to the queue in a run. -/
def pushedTo (id : SubscriptionId) :
    Broadcaster → List Operation → List EncodedAccessUnit :=
  ResyncQueue.collect step (pushes id)

/-- All access units received from the subscription in a run. -/
def receivedBy (id : SubscriptionId) :
    Broadcaster → List Operation → List EncodedAccessUnit :=
  ResyncQueue.collect step (receives id)

/--
`publish` finds exactly sixteen unread access units, or `set_codec_config`
changes the parameter sets of a known codec, while the subscription exists or
is still listed.
-/
def EndsSegment (id : SubscriptionId) (broadcaster : Broadcaster) :
    Operation → Prop
  | .publish _ _ =>
      broadcaster.alive id = true ∧
        ∃ queue ∈ broadcaster.queue id,
          queue.frames.length = maxQueuedAccessUnits
  | .setCodecConfig codec =>
      (broadcaster.alive id = true ∨ id ∈ broadcaster.state.clients) ∧
        ∃ old ∈ broadcaster.state.codec,
          old.sps ≠ codec.sps ∨ old.pps ≠ codec.pps
  | _ => False

/--
A run of operations over which the viewer's stream is decodable: access units
are skipped up to the first keyframe, from it on all are pushed in the order of
publication, and the received ones are the first of them.
-/
structure ViewerSegment
    (id : SubscriptionId)
    (broadcaster : Broadcaster)
    (operations : List Operation) : Prop where
  contiguous :
    ∃ skipped,
      publishedTo id broadcaster operations =
        skipped ++ pushedTo id broadcaster operations ∧
      ∀ accessUnit ∈ skipped, ¬ IsKeyframe accessUnit
  startsAtKeyframe :
    ∀ accessUnit ∈ (pushedTo id broadcaster operations).head?,
      IsKeyframe accessUnit
  inOrder :
    receivedBy id broadcaster operations <+:
      pushedTo id broadcaster operations

/-- The operation belongs to others, or keeps the parameter sets. -/
def Foreign (id : SubscriptionId) (broadcaster : Broadcaster) :
    Operation → Prop
  | .publish _ _ => False
  | .setCodecConfig codec =>
      ∀ old ∈ broadcaster.state.codec,
        old.sps = codec.sps ∧ old.pps = codec.pps
  | .recvTimeout other => other ≠ id
  | .drop other => other ≠ id
  | _ => True

/-- What is offered to the queue is what is published. -/
theorem offered_viewer (id : SubscriptionId) :
    (viewer id).offered = publishedTo id := by
  rw [publishedTo, ResyncQueue.Machine.offered]
  congr 1
  funext broadcaster operation
  cases operation with
  | publish accessUnit now =>
      cases isAlive : broadcaster.alive id <;>
        simp [viewer, viewerInput, publishes, isAlive,
          ResyncQueue.Input.offered]
  | setCodecConfig codec =>
      by_cases cleared :
          broadcaster.replacesCodec codec = true ∧
            id ∈ broadcaster.state.clients <;>
        simp [viewer, viewerInput, publishes, cleared,
          ResyncQueue.Input.offered]
  | recvTimeout other =>
      by_cases read : other = id ∧ broadcaster.alive id = true <;>
        simp [viewer, viewerInput, publishes, read,
          ResyncQueue.Input.offered]
  | _ =>
      rfl

/-- What enters the queue is what `publish` pushes. -/
theorem pushed_viewer (id : SubscriptionId) :
    (viewer id).pushed = pushedTo id := by
  rw [pushedTo, ResyncQueue.Machine.pushed]
  congr 1
  funext broadcaster operation
  cases operation with
  | publish accessUnit now =>
      cases isAlive : broadcaster.alive id with
      | false =>
          simp [viewer, viewerInput, pushes, isAlive,
            ResyncQueue.Queue.pushed]
      | true =>
          cases found : broadcaster.queue id with
          | none =>
              simp only [queue, Option.map_eq_none_iff] at found
              simp [alive, found] at isAlive
          | some queue =>
              simp [viewer, viewerInput, viewerQueue, pushes, found,
                isAlive, ResyncQueue.Queue.pushed, ← toResync_relieve,
                keyframe_completed]
  | setCodecConfig codec =>
      by_cases cleared :
          broadcaster.replacesCodec codec = true ∧
            id ∈ broadcaster.state.clients <;>
        simp [viewer, viewerInput, pushes, cleared,
          ResyncQueue.Queue.pushed]
  | recvTimeout other =>
      by_cases read : other = id ∧ broadcaster.alive id = true <;>
        simp [viewer, viewerInput, pushes, read,
          ResyncQueue.Queue.pushed]
  | _ =>
      rfl

/-- What leaves the queue is what `recv_timeout` returns. -/
theorem received_viewer (id : SubscriptionId) :
    (viewer id).received = receivedBy id := by
  rw [receivedBy, ResyncQueue.Machine.received]
  congr 1
  funext broadcaster operation
  cases operation with
  | publish accessUnit now =>
      cases isAlive : broadcaster.alive id <;>
        simp [viewer, viewerInput, receives, isAlive,
          ResyncQueue.Queue.received]
  | setCodecConfig codec =>
      by_cases cleared :
          broadcaster.replacesCodec codec = true ∧
            id ∈ broadcaster.state.clients <;>
        simp [viewer, viewerInput, receives, cleared,
          ResyncQueue.Queue.received]
  | recvTimeout other =>
      by_cases read : other = id ∧ broadcaster.alive id = true
      · cases found : broadcaster.queue id <;>
          simp [viewer, viewerInput, viewerQueue, receives, read, found,
            ResyncQueue.Queue.received, ResyncQueue.Queue.fresh,
            FrameQueue.toResync, recvTimeout]
      · simp [viewer, viewerInput, receives, read,
          ResyncQueue.Queue.received]
  | _ =>
      rfl

/-- A queue is thrown away exactly by an overflow or a codec change. -/
theorem cut_viewer_iff
    {id : SubscriptionId}
    {broadcaster : Broadcaster}
    (wellFormed : broadcaster.WellFormed)
    {operation : Operation} :
    (viewer id).Cut broadcaster operation ↔
      EndsSegment id broadcaster operation := by
  cases operation with
  | publish accessUnit now =>
      cases isAlive : broadcaster.alive id with
      | false =>
          simp [ResyncQueue.Machine.Cut, viewer, viewerInput, isAlive,
            ResyncQueue.Queue.Cut, EndsSegment]
      | true =>
          cases found : broadcaster.queue id with
          | none =>
              simp [ResyncQueue.Machine.Cut, viewer, viewerInput, isAlive,
                ResyncQueue.Queue.Cut, EndsSegment, viewerQueue, found,
                ResyncQueue.Queue.fresh, maxQueuedAccessUnits]
          | some queue =>
              simp [ResyncQueue.Machine.Cut, viewer, viewerInput, isAlive,
                ResyncQueue.Queue.Cut, EndsSegment, viewerQueue, found,
                FrameQueue.toResync]
  | setCodecConfig codec =>
      have listed :
          broadcaster.alive id = true ∨ id ∈ broadcaster.state.clients ↔
            id ∈ broadcaster.state.clients :=
        or_iff_right_of_imp (wellFormed.served id)
      have replaces :
          broadcaster.replacesCodec codec = true ↔
            ∃ old ∈ broadcaster.state.codec,
              old.sps ≠ codec.sps ∨ old.pps ≠ codec.pps := by
        simp [replacesCodec, Option.any_eq_true]
      rw [EndsSegment, listed, ← replaces, and_comm]
      by_cases cleared :
          broadcaster.replacesCodec codec = true ∧
            id ∈ broadcaster.state.clients
      · simp [ResyncQueue.Machine.Cut, viewer, viewerInput, cleared,
          ResyncQueue.Queue.Cut]
      · simp [ResyncQueue.Machine.Cut, viewer, viewerInput, cleared,
          ResyncQueue.Queue.Cut]
  | recvTimeout other =>
      by_cases read : other = id ∧ broadcaster.alive id = true <;>
        simp [ResyncQueue.Machine.Cut, viewer, viewerInput, read,
          ResyncQueue.Queue.Cut, EndsSegment]
  | _ =>
      exact Iff.rfl

/-- A segment of the viewer's machine is a decodable segment. -/
theorem viewerSegment_of_segment
    {id : SubscriptionId}
    {broadcaster : Broadcaster}
    {operations : List Operation}
    (segment : (viewer id).Segment broadcaster operations) :
    ViewerSegment id broadcaster operations where
  contiguous := by
    obtain ⟨skipped, offeredEq, noKey⟩ := segment.contiguous
    rw [offered_viewer, pushed_viewer] at offeredEq
    exact ⟨skipped, offeredEq,
      fun accessUnit member =>
        of_decide_eq_false (noKey accessUnit member)⟩
  startsAtKeyframe := by
    intro accessUnit member
    rw [← pushed_viewer] at member
    exact of_decide_eq_true (segment.startsAtKey accessUnit member)
  inOrder := by
    simpa only [received_viewer, pushed_viewer] using segment.inOrder

/-- A new subscription has an empty queue of its own. -/
theorem shared_subscribe (broadcaster : Broadcaster) :
    (broadcaster.step .subscribe).shared[broadcaster.shared.length]? =
      some {
        queue := { frames := [], waitingForKeyframe := true }
        alive := true } := by
  simp [step, subscribe]

/-- A subscription exists until it is dropped. -/
theorem alive_run
    {broadcaster : Broadcaster}
    (wellFormed : broadcaster.WellFormed)
    {id : SubscriptionId}
    (known : id < broadcaster.shared.length)
    (operations : List Operation) :
    (broadcaster.run operations).alive id =
      (broadcaster.alive id && decide (.drop id ∉ operations)) := by
  induction operations generalizing broadcaster with
  | nil =>
      simp [run]
  | cons operation later inductionHypothesis =>
      have tail :=
        inductionHypothesis (wellFormed.step operation)
          (known_step wellFormed known operation)
      rw [alive_step wellFormed known] at tail
      rw [run, List.foldl_cons]
      refine tail.trans ?_
      rw [Bool.and_assoc]
      congr 1
      simp [List.mem_cons, eq_comm]

/-- A configuration replaces none exactly when the sets stay the same. -/
theorem replacesCodec_eq_false_iff
    {broadcaster : Broadcaster}
    {codec : CodecConfig} :
    broadcaster.replacesCodec codec = false ↔
      ∀ old ∈ broadcaster.state.codec, SameSets old codec := by
  simp [replacesCodec, Option.any_eq_false, SameSets]

/-- Foreign operations leave a viewer's queue and waiting flag alone. -/
theorem queue_step_foreign
    {broadcaster : Broadcaster}
    (wellFormed : broadcaster.WellFormed)
    {id : SubscriptionId}
    (known : id < broadcaster.shared.length)
    {operation : Operation}
    (isForeign : Foreign id broadcaster operation) :
    (broadcaster.step operation).queue id = broadcaster.queue id := by
  rw [queue, shared_step wellFormed known operation, queue,
    Option.map_map]
  congr 1
  funext pair
  cases operation with
  | publish accessUnit now =>
      exact isForeign.elim
  | setCodecConfig codec =>
      have keeps : broadcaster.replacesCodec codec = false :=
        replacesCodec_eq_false_iff.mpr isForeign
      simp [pairAfter, keeps]
  | recvTimeout other =>
      have notSame : other ≠ id := isForeign
      simp [pairAfter, notSame]
  | drop other =>
      have notSame : other ≠ id := isForeign
      simp [pairAfter, notSame]
  | _ =>
      rfl

/-- The stream of one subscription from its start through any operations. -/
structure ViewerStream
    (id : SubscriptionId)
    (start : Broadcaster)
    (operations : List Operation) : Prop where
  exists_until_drop :
    (start.run operations).alive id = true ↔ .drop id ∉ operations
  bounded :
    ∀ queue ∈ (start.run operations).queue id,
      queue.frames.length ≤ maxQueuedAccessUnits
  segmented :
    ∃ segments : List (List Operation),
      segments.flatten = operations ∧
      ∀ earlier segment later,
        segments = earlier ++ segment :: later →
          ViewerSegment id (start.run earlier.flatten) segment ∧
          (earlier ≠ [] →
            ∃ operation rest, segment = operation :: rest ∧
              EndsSegment id (start.run earlier.flatten) operation) ∧
          (∀ before operation after,
            segment = before ++ operation :: after →
              EndsSegment id ((start.run earlier.flatten).run before)
                  operation →
                before = [] ∧ earlier ≠ []) ∧
          (later = [] →
            ∀ queue ∈ (start.run operations).queue id,
              pushedTo id (start.run earlier.flatten) segment =
                receivedBy id (start.run earlier.flatten) segment ++
                  queue.frames)
  cutOff :
    ∀ before operation after,
      operations = before ++ operation :: after →
        EndsSegment id (start.run before) operation →
          (receivedBy id (start.run before) (operation :: after)).Sublist
            (pushedTo id (start.run before) (operation :: after))
  isolated :
    ∀ operation, Foreign id (start.run operations) operation →
      ((start.run operations).step operation).queue id =
        (start.run operations).queue id

/-- A new subscription has a fresh queue. -/
theorem viewerQueue_of_joined
    {start : Broadcaster}
    {id : SubscriptionId}
    (joined :
      start.shared[id]? =
        some {
          queue := { frames := [], waitingForKeyframe := true }
          alive := true }) :
    (viewer id).queue start = .fresh := by
  simp [viewer, viewerQueue, queue, joined, FrameQueue.toResync,
    ResyncQueue.Queue.fresh]

/--
A subscription receives what was published since it was created, and a keyframe
first.
-/
theorem receivedBy_of_joined
    {start : Broadcaster}
    (wellFormed : start.WellFormed)
    {id : SubscriptionId}
    (joined :
      start.shared[id]? =
        some {
          queue := { frames := [], waitingForKeyframe := true }
          alive := true })
    (operations : List Operation) :
    (∀ accessUnit ∈ receivedBy id start operations,
        accessUnit ∈ publishedTo id start operations) ∧
      ∀ accessUnit ∈ (receivedBy id start operations).head?,
        IsKeyframe accessUnit := by
  have known : id < start.shared.length :=
    (List.getElem?_eq_some_iff.mp joined).1
  have valid : (viewer id).Valid start := ⟨wellFormed, known⟩
  obtain ⟨wasOffered, headIsKey⟩ :=
    ResyncQueue.Machine.received_spec valid (viewerQueue_of_joined joined)
      operations
  rw [received_viewer] at wasOffered headIsKey
  rw [offered_viewer] at wasOffered
  exact ⟨wasOffered,
    fun accessUnit isHead =>
      of_decide_eq_true (headIsKey accessUnit isHead)⟩

/-- A fresh subscription of a well-formed broadcaster has such a stream. -/
theorem viewerStream_of_fresh
    {start : Broadcaster}
    (wellFormed : start.WellFormed)
    {id : SubscriptionId}
    (joined :
      start.shared[id]? =
        some {
          queue := { frames := [], waitingForKeyframe := true }
          alive := true })
    (operations : List Operation) :
    ViewerStream id start operations := by
  have known : id < start.shared.length :=
    (List.getElem?_eq_some_iff.mp joined).1
  have valid : (viewer id).Valid start := ⟨wellFormed, known⟩
  have isFresh : (viewer id).queue start = .fresh :=
    viewerQueue_of_joined joined
  have queueAtEnd :
      ∀ queue ∈ (start.run operations).queue id,
        queue.frames =
          ((viewer id).queue ((viewer id).run start operations)).items := by
    intro queue found
    have reached :
        (viewer id).queue ((viewer id).run start operations) =
          queue.toResync := by
      change viewerQueue id (start.run operations) = _
      rw [viewerQueue, Option.mem_def.mp found]
      rfl
    rw [reached]
    rfl
  refine {
    exists_until_drop := ?_
    bounded := ?_
    segmented := ?_
    cutOff := ?_
    isolated := ?_
  }
  · rw [alive_run wellFormed known]
    simp [alive, joined]
  · intro queue found
    rw [queueAtEnd queue found]
    exact ResyncQueue.Machine.length_run_le valid
      (by simp [isFresh, ResyncQueue.Queue.fresh]) operations
  · obtain ⟨earlierParts, last, segmented, flattened, current⟩ :=
      ResyncQueue.Machine.exists_segmented valid isFresh operations
    refine ⟨earlierParts ++ [last], flattened, ?_⟩
    intro earlier segment later shape
    obtain ⟨isSegment, opened, opens⟩ := segmented.part shape
    have reachable := wellFormed.run earlier.flatten
    refine ⟨viewerSegment_of_segment isSegment, ?_, ?_, ?_⟩
    · intro nonempty
      obtain ⟨operation, rest, segmentEq, cut⟩ := opened nonempty
      exact ⟨operation, rest, segmentEq, (cut_viewer_iff reachable).mp cut⟩
    · intro before operation after split ends
      exact opens before operation after split
        ((cut_viewer_iff (reachable.run before)).mpr ends)
    · rintro rfl queue found
      obtain ⟨rfl, segmentEq⟩ := List.append_inj' shape rfl
      obtain rfl := List.singleton_inj.mp segmentEq
      have reached :
          (viewer id).run ((viewer id).run start earlierParts.flatten)
              last =
            (viewer id).run start operations := by
        rw [← ResyncQueue.Machine.run_append, ← flattened]
        simp
      have unread := current.unread
      rw [pushed_viewer, received_viewer, reached] at unread
      rw [queueAtEnd queue found]
      exact unread
  · intro before operation after split ends
    have validBefore := ResyncQueue.Machine.valid_run valid before
    have cut := (cut_viewer_iff (wellFormed.run before)).mpr ends
    have received :=
      ResyncQueue.Machine.received_sublist_pushed_of_cut validBefore cut
        after
    rwa [received_viewer, pushed_viewer] at received
  · intro operation isForeign
    have knownAtEnd :=
      (ResyncQueue.Machine.valid_run valid operations).2
    exact queue_step_foreign (wellFormed.run operations) knownAtEnd
      isForeign

/--
For every subscription of every run, the received access units are the first
ones of segments that start at a keyframe and follow the order of publication
without a gap.  A new segment begins exactly at an overflow or a codec change,
and nothing that was pushed before it is received behind it.
-/
theorem viewer_stream (before operations : List Operation) :
    ViewerStream (initial.run before).subscribe.1
      (initial.run before).subscribe.2 operations :=
  viewerStream_of_fresh
    ((wellFormed_initial.run before).step .subscribe)
    (shared_subscribe (initial.run before)) operations

end Broadcaster

end CamRtsp
