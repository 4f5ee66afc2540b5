import CamRtsp.BroadcasterDelivery
import CamRtsp.ControlStream

namespace CamRtsp

open RustText

/-!
# A connection with its broadcaster

`handle` asks the broadcaster for the codec, the frame rate and access units,
and it creates and drops a subscription.  Here the broadcaster is part of the
state, and its answers are computed.  While the connection does not hold the
lock, other threads work on the broadcaster in any way; the subscription of the
connection is a local variable that none of them can reach.
-/

/-- What an iteration learns from clocks, random bytes and sockets. -/
structure Surroundings where
  controlAt : Instant
  checkedAt : Instant
  renewalAt : Instant
  nonceData : Bytes
  renewedAt : Instant
  canBind : UInt16 → Bool
  socketError : Option IoError
  idleAt : Instant
  sentAt : Instant
  reportAt : Instant
  elapsedAt : Instant
  reportedAt : Instant
  wallClock : WallClock
  failure : Option SendFailure

/-- What an iteration learns from the broadcaster. -/
structure Learned where
  codec : Option CodecConfig
  frameRate : Option (UInt32 × UInt32)
  subscription : SubscriptionId
  received : Option EncodedAccessUnit

/-- Everything the iteration learns. -/
def Surroundings.iteration
    (surroundings : Surroundings)
    (learned : Learned) : Iteration where
  controlAt := surroundings.controlAt
  checkedAt := surroundings.checkedAt
  renewalAt := surroundings.renewalAt
  nonceData := surroundings.nonceData
  renewedAt := surroundings.renewedAt
  codec := learned.codec
  frameRate := learned.frameRate
  canBind := surroundings.canBind
  socketError := surroundings.socketError
  subscription := learned.subscription
  idleAt := surroundings.idleAt
  received := learned.received
  sentAt := surroundings.sentAt
  reportAt := surroundings.reportAt
  elapsedAt := surroundings.elapsedAt
  reportedAt := surroundings.reportedAt
  wallClock := surroundings.wallClock
  failure := surroundings.failure

namespace Broadcaster

/-- The subscription an operation reads or drops. -/
def Operation.uses : Operation → Option SubscriptionId
  | .recvTimeout id => some id
  | .drop id => some id
  | _ => none

/-- The operations that other threads can do. -/
def byOthers
    (own : Option SubscriptionId)
    (operations : List Operation) : List Operation :=
  operations.filter fun operation =>
    operation.uses = none ∨ operation.uses ≠ own

/-- `PLAY` subscribes, and `PAUSE` drops the subscription. -/
def subscriptionChange :
    Option SubscriptionId → Option SubscriptionId → List Operation
  | none, some _ => [.subscribe]
  | some id, none => [.drop id]
  | _, _ => []

end Broadcaster

open Broadcaster (Operation byOthers subscriptionChange)

/--
What other threads do during an iteration: before the codec is read, before the
frame rate is read or a subscription is created or dropped, before an access
unit is taken, and behind that.
-/
structure Interference where
  beforeCodec : List Operation
  beforeFrameRate : List Operation
  beforeReceive : List Operation
  beforeEnd : List Operation
  deriving Repr, DecidableEq

/-- The subscription that the media part waits for. -/
def receiving
    (failure : Option SendFailure)
    (handled : Handled) : Option SubscriptionId :=
  if handled.flow = .proceed ∧ handled.session.delivery.isSome = true ∧
      failure.all (fun failure => handled.sends.length ≤ failure.after) =
        true then
    handled.session.subscription
  else
    none

/-- The loop ends here. -/
def Next.isClosed : Next → Bool
  | .running _ => false
  | .closed _ => true

/--
One iteration, the broadcaster it finds, and the operations on the broadcaster
in their order.
-/
structure LiveTransition where
  transition : Transition
  found : Broadcaster
  before : List Operation
  requested : List Operation
  between : List Operation
  received : List Operation
  behind : List Operation
  dropped : List Operation

namespace LiveTransition

/-- All operations of the iteration. -/
def operations (live : LiveTransition) : List Operation :=
  live.before ++ live.requested ++ live.between ++ live.received ++
    live.behind ++ live.dropped

/-- The operations of the connection. -/
def own (live : LiveTransition) : List Operation :=
  live.requested ++ live.received ++ live.dropped

/-- The operations of other threads. -/
def others (live : LiveTransition) : List Operation :=
  live.before ++ live.between ++ live.behind

/-- The broadcaster behind the iteration. -/
def after (live : LiveTransition) : Broadcaster :=
  live.found.run live.operations

/-- The broadcaster behind the request part. -/
def subscribed (live : LiveTransition) : Broadcaster :=
  live.found.run (live.before ++ live.requested)

/-- The operations behind the request part. -/
def since (live : LiveTransition) : List Operation :=
  live.between ++ live.received ++ live.behind ++ live.dropped

end LiveTransition

/-- What the request part learns from the broadcaster. -/
def learnedBefore
    (own : Option SubscriptionId)
    (broadcaster : Broadcaster)
    (interference : Interference) : Learned :=
  let asked := broadcaster.run (byOthers own interference.beforeCodec)
  let rated := asked.run (byOthers own interference.beforeFrameRate)
  { codec := asked.state.codec
    frameRate := rated.state.frameRate
    subscription := rated.subscribe.1
    received := none }

/-- One iteration on a broadcaster. -/
def liveStep
    (connection : Connection)
    (session : Session)
    (broadcaster : Broadcaster)
    (request : Option Request)
    (surroundings : Surroundings)
    (interference : Interference) : LiveTransition :=
  let own := session.subscription
  let learned := learnedBefore own broadcaster interference
  let before :=
    byOthers own interference.beforeCodec ++
      byOthers own interference.beforeFrameRate
  let handled :=
    served connection (surroundings.iteration learned) session request
  let kept := handled.session.subscription
  let requested := subscriptionChange own kept
  let between := byOthers kept interference.beforeReceive
  let reached := broadcaster.run (before ++ requested ++ between)
  let waiting := receiving surroundings.failure handled
  let received := waiting.bind fun id => (reached.recvTimeout id).1
  let transition :=
    Transition.of connection session request
      (surroundings.iteration { learned with received := received })
  { transition := transition
    found := broadcaster
    before := before
    requested := requested
    between := between
    received := (waiting.map .recvTimeout).toList
    behind := byOthers kept interference.beforeEnd
    dropped :=
      if transition.performed.next.isClosed then
        (kept.map .drop).toList
      else
        [] }

/-- What an iteration is given. -/
structure LiveInput where
  read : ReadOutcome
  surroundings : Surroundings
  interference : Interference

/-- What a run of `handle` did, and how it ended. -/
structure LiveOutcome where
  transitions : List LiveTransition
  next : Next
  broadcaster : Broadcaster

/-- `handle` on a broadcaster. -/
def liveHandle
    (connection : Connection)
    (session : Session)
    (input : Bytes)
    (broadcaster : Broadcaster) : List LiveInput → LiveOutcome
  | [] =>
      { transitions := []
        next := .running session
        broadcaster := broadcaster }
  | first :: later =>
      match readControl first.read input with
      | .error error =>
          { transitions := []
            next := .closed (.error error)
            broadcaster :=
              broadcaster.run
                (session.subscription.map .drop).toList }
      | .ok (request, input) =>
          let live :=
            liveStep connection session broadcaster request
              first.surroundings first.interference
          match live.transition.performed.next with
          | .running session =>
              let rest :=
                liveHandle connection session input live.after later
              { rest with transitions := live :: rest.transitions }
          | .closed result =>
              { transitions := [live]
                next := .closed result
                broadcaster := live.after }

/-! ## What an iteration does to the broadcaster -/

namespace Broadcaster

variable {broadcaster : Broadcaster}
variable {id : SubscriptionId}
variable {operations : List Operation}

theorem run_append
    (broadcaster : Broadcaster)
    (first second : List Operation) :
    broadcaster.run (first ++ second) =
      (broadcaster.run first).run second :=
  List.foldl_append

/-- What is received in two parts of a run. -/
theorem receivedBy_append
    (first second : List Operation) :
    receivedBy id broadcaster (first ++ second) =
      receivedBy id broadcaster first ++
        receivedBy id (broadcaster.run first) second := by
  have parts :
      ResyncQueue.collect (viewer id).step (receives id) broadcaster
          (first ++ second) =
        _ :=
    ResyncQueue.Machine.collect_append _ _ _ _
  exact parts

/-- Nothing is received without `recv_timeout`. -/
theorem receivedBy_eq_nil
    (noReceive : .recvTimeout id ∉ operations) :
    receivedBy id broadcaster operations = [] := by
  induction operations generalizing broadcaster with
  | nil =>
      rfl
  | cons operation later inductionHypothesis =>
      rw [List.mem_cons, not_or] at noReceive
      have rest :=
        @inductionHypothesis (broadcaster.step operation) noReceive.2
      change receives id broadcaster operation ++
        receivedBy id (broadcaster.step operation) later = []
      rw [rest, List.append_nil]
      cases operation with
      | recvTimeout other =>
          have notSame : other ≠ id := by
            rintro rfl
            exact noReceive.1 rfl
          simp [receives, notSame]
      | _ =>
          rfl

/-- A dropped subscription receives nothing. -/
theorem receivedBy_of_dropped
    (wellFormed : broadcaster.WellFormed)
    (known : id < broadcaster.shared.length)
    (dropped : broadcaster.alive id = false) :
    receivedBy id broadcaster operations = [] := by
  induction operations generalizing broadcaster with
  | nil =>
      rfl
  | cons operation later inductionHypothesis =>
      have stillDropped : (broadcaster.step operation).alive id = false := by
        rw [alive_step wellFormed known, dropped, Bool.false_and]
      have rest :=
        inductionHypothesis (wellFormed.step operation)
          (known_step wellFormed known operation) stillDropped
      change receives id broadcaster operation ++
        receivedBy id (broadcaster.step operation) later = []
      rw [rest, List.append_nil]
      cases operation with
      | recvTimeout other =>
          simp [receives, dropped]
      | _ =>
          rfl

end Broadcaster

namespace LiveTransition

/-- The subscription that the iteration finds. -/
def owned (live : LiveTransition) : Option SubscriptionId :=
  live.transition.before.subscription

/-- The subscription behind the request part. -/
def kept
    (connection : Connection)
    (live : LiveTransition) : Option SubscriptionId :=
  (live.transition.handled connection).session.subscription

/-- The subscription that the media part waits for. -/
def waiting
    (connection : Connection)
    (live : LiveTransition) : Option SubscriptionId :=
  receiving live.transition.iteration.failure
    (live.transition.handled connection)

/-- The rules that the operations of an iteration follow. -/
structure Follows
    (connection : Connection)
    (live : LiveTransition) : Prop where
  before :
    ∀ id ∈ live.owned, ∀ operation ∈ live.before,
      operation.uses ≠ some id
  subscribes :
    live.transition.iteration.subscription =
      (live.found.run live.before).subscribe.1
  requested :
    live.requested = subscriptionChange live.owned (live.kept connection)
  between :
    ∀ id ∈ live.kept connection, ∀ operation ∈ live.between,
      operation.uses ≠ some id
  received :
    live.received = ((live.waiting connection).map .recvTimeout).toList
  taken :
    live.transition.taken connection =
      (live.waiting connection).bind fun id =>
        ((live.found.run
          (live.before ++ live.requested ++
            live.between)).recvTimeout id).1
  behind :
    ∀ id ∈ live.kept connection, ∀ operation ∈ live.behind,
      operation.uses ≠ some id
  dropped :
    live.dropped =
      if live.transition.performed.next.isClosed then
        ((live.kept connection).map .drop).toList
      else
        []

end LiveTransition

section Step

variable {connection : Connection}
variable {session after : Session}
variable {broadcaster : Broadcaster}
variable {request : Option Request}
variable {surroundings : Surroundings}
variable {interference : Interference}

/-- The request part does not look at the access unit. -/
theorem served_received
    (learned : Learned)
    (received : Option EncodedAccessUnit) :
    served connection
        (surroundings.iteration { learned with received := received })
        session request =
      served connection (surroundings.iteration learned) session
        request := by
  cases request with
  | none =>
      rfl
  | some asked =>
      rfl

/-- Other threads do not read or drop the subscription. -/
theorem uses_of_mem_byOthers
    {own : Option SubscriptionId}
    {operations : List Operation} :
    ∀ id ∈ own, ∀ operation ∈ byOthers own operations,
      operation.uses ≠ some id := by
  intro id isOwn operation member
  have permitted := (List.mem_filter.mp member).2
  rcases of_decide_eq_true permitted with uses | uses
  · rw [uses]
    simp
  · rw [isOwn] at uses
    exact uses

/-- The media part takes an access unit when it waits for one. -/
theorem taken_eq_of_receiving
    {handled : Handled}
    {iteration : Iteration}
    {front : SubscriptionId → Option EncodedAccessUnit}
    (received :
      iteration.received =
        (receiving iteration.failure handled).bind front) :
    taken iteration handled =
      (receiving iteration.failure handled).bind front := by
  rw [taken, received]
  cases waiting : receiving iteration.failure handled with
  | none =>
      exact ite_self _
  | some id =>
      rw [receiving] at waiting
      split at waiting
      · rename_i gate
        exact if_pos ⟨gate.1, by rw [waiting]; rfl, gate.2.1⟩
      · cases waiting

/-- Every iteration follows the rules. -/
theorem liveStep_follows
    (connection : Connection)
    (session : Session)
    (broadcaster : Broadcaster)
    (request : Option Request)
    (surroundings : Surroundings)
    (interference : Interference) :
    (liveStep connection session broadcaster request surroundings
      interference).Follows connection := by
  have handledEq :
      (liveStep connection session broadcaster request surroundings
          interference).transition.handled connection =
        served connection
          (surroundings.iteration
            (learnedBefore session.subscription broadcaster
              interference))
          session request :=
    served_received _ _
  exact {
    before := by
      intro id isOwn operation member
      rcases List.mem_append.mp member with early | late
      · exact uses_of_mem_byOthers id isOwn operation early
      · exact uses_of_mem_byOthers id isOwn operation late
    subscribes := by
      change _ = (Broadcaster.run _ (_ ++ _)).subscribe.1
      rw [Broadcaster.run_append]
      rfl
    requested := by
      rw [LiveTransition.kept, handledEq]
      rfl
    between := by
      rw [LiveTransition.kept, handledEq]
      exact uses_of_mem_byOthers
    received := by
      rw [LiveTransition.waiting, handledEq]
      rfl
    taken := by
      apply taken_eq_of_receiving
      rw [handledEq]
      rfl
    behind := by
      rw [LiveTransition.kept, handledEq]
      exact uses_of_mem_byOthers
    dropped := by
      rw [LiveTransition.kept, handledEq]
      rfl
  }

end Step

/-! ## What an iteration receives -/

namespace LiveTransition

variable {connection : Connection}
variable {live : LiveTransition}
variable {id : SubscriptionId}

theorem operations_eq :
    live.operations = live.before ++ live.requested ++ live.since := by
  simp [operations, since]

/-- A subscription that is found is kept or dropped. -/
theorem kept_eq_or_none
    (isOwned : live.owned = some id) :
    live.kept connection = some id ∨ live.kept connection = none := by
  rw [owned] at isOwned
  cases asked : live.transition.request with
  | none =>
      left
      rw [kept, Transition.handled, asked]
      exact isOwned
  | some request =>
      rw [kept, Transition.handled, asked]
      by_cases same :
          (serve connection live.transition.iteration
            live.transition.before request).session.subscription =
              live.transition.before.subscription
      · exact .inl (same.trans isOwned)
      · have changed :=
          (serve_served connection live.transition.iteration
            live.transition.before
            request).play_or_pause_of_subscription_ne same
        rcases changed with ⟨_, stopped⟩ | ⟨_, dropped⟩
        · rw [stopped] at isOwned
          cases isOwned
        · exact .inr dropped

/-- Others neither read nor drop the subscription. -/
theorem not_mem_of_uses
    {operations : List Operation}
    (untouched : ∀ operation ∈ operations, operation.uses ≠ some id) :
    .recvTimeout id ∉ operations ∧ .drop id ∉ operations :=
  ⟨fun member => untouched _ member rfl,
    fun member => untouched _ member rfl⟩

/-- The media part waits for the subscription that is kept, if at all. -/
theorem waiting_eq_or_none
    (isKept : live.kept connection = some id) :
    live.waiting connection = some id ∨ live.waiting connection = none := by
  rw [waiting, receiving]
  split
  · exact .inl isKept
  · exact .inr rfl

/-- Behind the request part, the subscription receives what is taken. -/
theorem Follows.receivedBy_since
    (follows : live.Follows connection)
    (isKept : live.kept connection = some id)
    (wellFormed : live.subscribed.WellFormed)
    (isAlive : live.subscribed.alive id = true) :
    Broadcaster.receivedBy id live.subscribed live.since =
      (live.transition.taken connection).toList := by
  have between := not_mem_of_uses (follows.between id isKept)
  have behind := not_mem_of_uses (follows.behind id isKept)
  have noDrop : .recvTimeout id ∉ live.dropped := by
    rw [follows.dropped, isKept]
    split <;> simp
  have stillAlive :
      (live.subscribed.run live.between).alive id = true := by
    rw [Broadcaster.alive_run wellFormed
      (Broadcaster.known_of_alive isAlive), isAlive]
    simpa using between.2
  rw [since, List.append_assoc, List.append_assoc,
    Broadcaster.receivedBy_append,
    Broadcaster.receivedBy_eq_nil between.1, List.nil_append,
    Broadcaster.receivedBy_append, follows.received, follows.taken]
  have nothingBehind (broadcaster : Broadcaster) :
      Broadcaster.receivedBy id broadcaster
        (live.behind ++ live.dropped) = [] := by
    apply Broadcaster.receivedBy_eq_nil
    rw [List.mem_append, not_or]
    exact ⟨behind.1, noDrop⟩
  rw [nothingBehind, List.append_nil]
  rcases waiting_eq_or_none isKept with waits | waits
  · rw [waits, Option.bind_some, Broadcaster.run_append]
    change Broadcaster.receives id _ (.recvTimeout id) ++ [] = _
    rw [Broadcaster.receives, if_pos ⟨rfl, stillAlive⟩, List.append_nil]
    rfl
  · rw [waits]
    rfl

/-- Nothing is taken without a subscription. -/
theorem Follows.taken_of_dropped
    (follows : live.Follows connection)
    (isDropped : live.kept connection = none) :
    live.transition.taken connection = none := by
  rw [follows.taken, waiting, receiving, ← kept, isDropped, ite_self]
  rfl

/-- A subscription that is kept outlives the request part. -/
theorem Follows.alive_subscribed
    (follows : live.Follows connection)
    (isOwned : live.owned = some id)
    (isKept : live.kept connection = some id)
    (wellFormed : live.found.WellFormed)
    (isAlive : live.found.alive id = true) :
    live.subscribed.alive id = true := by
  have before := not_mem_of_uses (follows.before id isOwned)
  rw [subscribed, Broadcaster.alive_run wellFormed
    (Broadcaster.known_of_alive isAlive), isAlive, follows.requested,
    isOwned, isKept]
  simpa [subscriptionChange] using before.2

/-- The subscription that an iteration finds receives what is taken. -/
theorem Follows.receivedBy_operations
    (follows : live.Follows connection)
    (isOwned : live.owned = some id)
    (wellFormed : live.found.WellFormed)
    (isAlive : live.found.alive id = true) :
    Broadcaster.receivedBy id live.found live.operations =
      (live.transition.taken connection).toList := by
  have before := not_mem_of_uses (follows.before id isOwned)
  have known := Broadcaster.known_of_alive isAlive
  have requested :
      .recvTimeout id ∉ live.before ++ live.requested := by
    rw [follows.requested, isOwned, List.mem_append, not_or]
    refine ⟨before.1, ?_⟩
    cases live.kept connection <;> simp [subscriptionChange]
  have behindRequest : live.subscribed.WellFormed := wellFormed.run _
  rw [operations_eq, Broadcaster.receivedBy_append,
    Broadcaster.receivedBy_eq_nil requested, List.nil_append]
  change Broadcaster.receivedBy id live.subscribed live.since = _
  rcases kept_eq_or_none isOwned with isKept | isDropped
  · exact follows.receivedBy_since isKept behindRequest
      (follows.alive_subscribed isOwned isKept wellFormed isAlive)
  · rw [follows.taken_of_dropped isDropped]
    have request : live.requested = [.drop id] := by
      rw [follows.requested, isOwned, isDropped]
      rfl
    apply Broadcaster.receivedBy_of_dropped behindRequest
    · exact Broadcaster.known_run wellFormed known _
    · rw [subscribed, Broadcaster.alive_run wellFormed known, request]
      simp

/-- A subscription that is kept outlives an iteration that goes on. -/
theorem Follows.alive_after
    (follows : live.Follows connection)
    (isKept : live.kept connection = some id)
    (wellFormed : live.subscribed.WellFormed)
    (isAlive : live.subscribed.alive id = true)
    (goesOn : live.transition.performed.next.isClosed = false) :
    live.after.alive id = true := by
  have between := not_mem_of_uses (follows.between id isKept)
  have behind := not_mem_of_uses (follows.behind id isKept)
  have received : .drop id ∉ live.received := by
    rw [follows.received]
    cases live.waiting connection <;> simp
  have dropped : live.dropped = [] := by
    rw [follows.dropped, goesOn]
    rfl
  have noDrop : .drop id ∉ live.since := by
    simp [since, between.2, received, behind.2, dropped]
  rw [after, operations_eq, Broadcaster.run_append]
  change (live.subscribed.run live.since).alive id = true
  rw [Broadcaster.alive_run wellFormed
    (Broadcaster.known_of_alive isAlive), isAlive]
  simpa using noDrop

end LiveTransition

/-! ## Runs -/

section Handle

variable {connection : Connection}
variable {session after : Session}
variable {input rest : Bytes}
variable {broadcaster : Broadcaster}
variable {request : Option Request}
variable {first : LiveInput}

/-- A failing read drops the subscription. -/
theorem liveHandle_failed
    {error : IoError}
    (isRead : readControl first.read input = .error error)
    (later : List LiveInput) :
    liveHandle connection session input broadcaster (first :: later) =
      { transitions := []
        next := .closed (.error error)
        broadcaster :=
          broadcaster.run (session.subscription.map .drop).toList } := by
  simp only [liveHandle, isRead]

/-- An iteration that goes on comes before the others. -/
theorem liveHandle_running
    (isRead : readControl first.read input = .ok (request, rest))
    (next :
      (liveStep connection session broadcaster request first.surroundings
        first.interference).transition.performed.next = .running after)
    (later : List LiveInput) :
    liveHandle connection session input broadcaster (first :: later) =
      let live :=
        liveStep connection session broadcaster request
          first.surroundings first.interference
      let outcome := liveHandle connection after rest live.after later
      { outcome with transitions := live :: outcome.transitions } := by
  simp only [liveHandle, isRead, next]

/-- An iteration that closes the connection is the last one. -/
theorem liveHandle_closed
    {result : Except IoError Unit}
    (isRead : readControl first.read input = .ok (request, rest))
    (next :
      (liveStep connection session broadcaster request first.surroundings
        first.interference).transition.performed.next = .closed result)
    (later : List LiveInput) :
    liveHandle connection session input broadcaster (first :: later) =
      let live :=
        liveStep connection session broadcaster request
          first.surroundings first.interference
      { transitions := [live]
        next := .closed result
        broadcaster := live.after } := by
  simp only [liveHandle, isRead, next]

end Handle

/-- The runs of the loop on a broadcaster. -/
inductive LiveRuns
    (connection : Connection) :
    Session → Broadcaster → List LiveTransition → Prop where
  | nil
      (session : Session)
      (broadcaster : Broadcaster) :
      LiveRuns connection session broadcaster []
  | closed
      (session : Session)
      (broadcaster : Broadcaster)
      (request : Option Request)
      (surroundings : Surroundings)
      (interference : Interference)
      (result : Except IoError Unit)
      (closes :
        (liveStep connection session broadcaster request surroundings
          interference).transition.performed.next = .closed result) :
      LiveRuns connection session broadcaster
        [liveStep connection session broadcaster request surroundings
          interference]
  | running
      (session : Session)
      (broadcaster : Broadcaster)
      (request : Option Request)
      (surroundings : Surroundings)
      (interference : Interference)
      (after : Session)
      (goesOn :
        (liveStep connection session broadcaster request surroundings
          interference).transition.performed.next = .running after)
      {later : List LiveTransition}
      (rest :
        LiveRuns connection after
          (liveStep connection session broadcaster request surroundings
            interference).after later) :
      LiveRuns connection session broadcaster
        (liveStep connection session broadcaster request surroundings
          interference :: later)

/-- Every run of `handle` on a broadcaster is one of these. -/
theorem liveHandle_runs
    (connection : Connection)
    (session : Session)
    (input : Bytes)
    (broadcaster : Broadcaster)
    (inputs : List LiveInput) :
    LiveRuns connection session broadcaster
      (liveHandle connection session input broadcaster
        inputs).transitions := by
  induction inputs generalizing session input broadcaster with
  | nil =>
      exact .nil session broadcaster
  | cons first later inductionHypothesis =>
      cases isRead : readControl first.read input with
      | error error =>
          rw [liveHandle_failed isRead]
          exact .nil session broadcaster
      | ok answer =>
          obtain ⟨request, rest⟩ := answer
          cases next :
              (liveStep connection session broadcaster request
                first.surroundings
                first.interference).transition.performed.next with
          | running after =>
              rw [liveHandle_running isRead next]
              exact .running session broadcaster request
                first.surroundings first.interference after next
                (inductionHypothesis after rest _)
          | closed result =>
              rw [liveHandle_closed isRead next]
              exact .closed session broadcaster request
                first.surroundings first.interference result next

/-- An iteration of a run, and the run behind it. -/
theorem LiveRuns.of_append
    {connection : Connection}
    {session : Session}
    {broadcaster : Broadcaster}
    {transitions earlier later : List LiveTransition}
    {live : LiveTransition}
    (runs : LiveRuns connection session broadcaster transitions)
    (wellFormed : broadcaster.WellFormed)
    (split : transitions = earlier ++ live :: later) :
    live.Follows connection ∧ live.found.WellFormed ∧
      (later = [] ∨
        ∃ after,
          live.transition.performed.next = .running after ∧
            after.subscription = live.kept connection ∧
            LiveRuns connection after live.after later) := by
  induction runs generalizing earlier with
  | nil session broadcaster =>
      have impossible := congrArg List.length split
      simp at impossible
  | closed session broadcaster request surroundings interference result
      closes =>
      cases earlier with
      | nil =>
          obtain ⟨rfl, rfl⟩ := List.cons.inj split
          exact ⟨liveStep_follows _ _ _ _ _ _, wellFormed, .inl rfl⟩
      | cons first rest =>
          have impossible := congrArg List.length split
          simp at impossible
  | running session broadcaster request surroundings interference after
      goesOn rest inductionHypothesis =>
      cases earlier with
      | nil =>
          obtain ⟨rfl, rfl⟩ := List.cons.inj split
          exact ⟨liveStep_follows _ _ _ _ _ _, wellFormed,
            .inr ⟨after, goesOn,
              (step_sameControl goesOn).subscription, rest⟩⟩
      | cons first earlier =>
          obtain ⟨rfl, restEq⟩ := List.cons.inj split
          exact inductionHypothesis (wellFormed.run _) restEq

/-- A run on a broadcaster is a run of the loop. -/
theorem LiveRuns.runs
    {connection : Connection}
    {session : Session}
    {broadcaster : Broadcaster}
    {transitions : List LiveTransition}
    (runs : LiveRuns connection session broadcaster transitions) :
    ∃ next,
      Runs connection session
        (transitions.map LiveTransition.transition) next := by
  induction runs with
  | nil session broadcaster =>
      exact ⟨_, .nil session⟩
  | closed session broadcaster request surroundings interference result
      closes =>
      exact ⟨_, .closed session request _ result closes⟩
  | running session broadcaster request surroundings interference after
      goesOn rest inductionHypothesis =>
      obtain ⟨next, continued⟩ := inductionHypothesis
      exact ⟨next, .running session request _ after goesOn continued⟩

/--
`handle` on a broadcaster is `handle` on what it learns: everything known of
the connection alone holds here too.
-/
theorem liveHandle_eq_handle
    (connection : Connection)
    (session : Session)
    (input : Bytes)
    (broadcaster : Broadcaster)
    (inputs : List LiveInput) :
    ∃ reads : List (ReadOutcome × Iteration),
      reads.map Prod.fst <+: inputs.map LiveInput.read ∧
        handle connection session input reads =
          ((liveHandle connection session input broadcaster
              inputs).transitions.map LiveTransition.transition,
            (liveHandle connection session input broadcaster
              inputs).next) := by
  induction inputs generalizing session input broadcaster with
  | nil =>
      exact ⟨[], List.prefix_refl _, rfl⟩
  | cons first later inductionHypothesis =>
      let learned :=
        learnedBefore session.subscription broadcaster first.interference
      cases isRead : readControl first.read input with
      | error error =>
          refine ⟨[(first.read, first.surroundings.iteration learned)],
            by simp, ?_⟩
          rw [liveHandle_failed isRead]
          simp only [handle, isRead, List.map_nil]
      | ok answer =>
          obtain ⟨request, rest⟩ := answer
          let live :=
            liveStep connection session broadcaster request
              first.surroundings first.interference
          cases next : live.transition.performed.next with
          | running after =>
              obtain ⟨reads, isPrefix, handled⟩ :=
                inductionHypothesis after rest live.after
              refine ⟨(first.read, live.transition.iteration) :: reads,
                ?_, ?_⟩
              · simpa using isPrefix
              · have performed :
                    (step connection session request
                      live.transition.iteration).next =
                      .running after :=
                  next
                rw [liveHandle_running isRead next]
                simp only [handle, isRead, performed, handled,
                  List.map_cons]
                rfl
          | closed result =>
              refine ⟨[(first.read, live.transition.iteration)],
                by simp, ?_⟩
              have performed :
                  (step connection session request
                    live.transition.iteration).next =
                    .closed result :=
                next
              rw [liveHandle_closed isRead next]
              simp only [handle, isRead, performed, List.map_cons,
                List.map_nil]
              rfl

end CamRtsp
