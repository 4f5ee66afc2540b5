import CamRtsp.LiveConnection

namespace CamRtsp

open RustText

/-!
# The public side of a connection

`publicHandle` is a server that knows neither the password nor the stream: it
has no broadcaster, and nothing to compare credentials with.  As long as no
request is authorized, `handle` does exactly what this server does.  So two
servers with other passwords and other streams cannot be told apart.
-/

/-- What a connection shows to everybody. -/
structure PublicConnection where
  path : Text
  sessionId : Text

/-- The public part of a connection. -/
def Connection.publicPart (connection : Connection) : PublicConnection where
  path := connection.server.path
  sessionId := connection.sessionId

/-- What there is to learn from a broadcaster that does not exist. -/
def Learned.nothing : Learned where
  codec := none
  frameRate := none
  subscription := 0
  received := none

/-- The answer to a request of nobody in particular. -/
def publicServe
    (publicPart : PublicConnection)
    (surroundings : Surroundings)
    (session : Session)
    (request : Request) : Handled :=
  let session := { session with lastControl := surroundings.controlAt }
  if request.method ≠ "OPTIONS".toList then
    let auth := renewed (surroundings.iteration .nothing) session.auth
    answer { session with auth := auth } request .unauthorized
      (challenges auth.nonce) .again
  else if ¬ targets publicPart.path request then
    answer session request .notFound [] .again
  else if
      (suppliedSession request).any (· != publicPart.sessionId) = true then
    answer session request .sessionNotFound [] .again
  else
    answer session request .ok [publicMethods] .proceed

/-- How an iteration without media ends. -/
def publicNext
    (surroundings : Surroundings)
    (handled : Handled) : Next :=
  if handled.flow = .proceed ∧
      seconds 30 <
        elapsed handled.session.lastControl surroundings.idleAt then
    .closed (.error {
      kind := .timedOut, message := "idle RTSP session".toList })
  else
    .running handled.session

/-- One iteration for nobody in particular. -/
def publicStep
    (publicPart : PublicConnection)
    (surroundings : Surroundings)
    (session : Session)
    (request : Option Request) : Performed :=
  let handled :=
    request.elim { session := session, sends := [], flow := .proceed }
      (publicServe publicPart surroundings session)
  perform surroundings.failure handled.sends
    (publicNext surroundings handled)

/-- The loop for nobody in particular. -/
def publicHandle
    (publicPart : PublicConnection)
    (session : Session)
    (input : Bytes) :
    List (ReadOutcome × Surroundings) → List Performed × Next
  | [] => ([], .running session)
  | (read, surroundings) :: later =>
      match readControl read input with
      | .error error => ([], .closed (.error error))
      | .ok (request, input) =>
          let performed :=
            publicStep publicPart surroundings session request
          match performed.next with
          | .running session =>
              let rest := publicHandle publicPart session input later
              (performed :: rest.1, rest.2)
          | .closed result => ([performed], .closed result)

/-- What an iteration is given by the client and the clocks. -/
def LiveInput.publicPart (input : LiveInput) :
    ReadOutcome × Surroundings :=
  (input.read, input.surroundings)

/-- The request is not authorized; nobody asks for an OPTIONS request. -/
def Transition.Unauthorized
    (connection : Connection)
    (transition : Transition) : Prop :=
  ∀ request ∈ transition.request, request.method ≠ "OPTIONS".toList →
    authorized connection.server.crates request
      connection.server.credentials transition.before.auth
      transition.iteration.checkedAt = false

instance
    (connection : Connection)
    (transition : Transition) :
    Decidable (transition.Unauthorized connection) :=
  inferInstanceAs (Decidable (∀ request ∈ transition.request, _ → _))

/-! ## Without authorization -/

section Request

variable {connection : Connection}
variable {session : Session}
variable {surroundings : Surroundings}

/-- The session gate for OPTIONS looks at a supplied session only. -/
theorem wrongSession_iff_of_options
    {request : Request}
    (options : request.method = "OPTIONS".toList) :
    wrongSession connection session request ↔
      (suppliedSession request).any (· != connection.sessionId) = true := by
  have needsNone : needsSession request.method = false := by
    rw [options]
    decide
  simp only [wrongSession, needsNone, Option.any_eq_true]
  simp

/-- A request that is not authorized gets the public answer. -/
theorem serve_eq_publicServe
    {request : Request}
    (learned : Learned)
    (rejected :
      request.method ≠ "OPTIONS".toList →
        authorized connection.server.crates request
          connection.server.credentials session.auth
          surroundings.checkedAt = false) :
    serve connection (surroundings.iteration learned) session request =
      publicServe connection.publicPart surroundings session request := by
  by_cases options : request.method = "OPTIONS".toList
  · simp only [serve, publicServe, options, ne_eq, not_true_eq_false,
      false_and, if_false, wrongSession_iff_of_options options, dispatch,
      if_true]
    rfl
  · rw [serve, publicServe, if_pos options,
      if_pos ⟨options, rejected options⟩]
    rfl

/-- The public answer leaves nothing behind. -/
theorem publicServe_bare
    (bare : session.Bare)
    (publicPart : PublicConnection)
    (request : Request) :
    (publicServe publicPart surroundings session request).session.Bare := by
  have unchanged : ∀ auth control,
      { session with auth := auth, lastControl := control }.Bare :=
    fun _ _ => ⟨bare.delivery, bare.subscription⟩
  unfold publicServe
  simp only
  split
  · exact unchanged _ _
  split
  · exact unchanged _ _
  split
  · exact unchanged _ _
  · exact unchanged _ _

/-- Behind the public answer the loop goes on. -/
theorem publicServe_flow
    (publicPart : PublicConnection)
    (request : Request) :
    (publicServe publicPart surroundings session request).flow = .proceed ∨
      (publicServe publicPart surroundings session request).flow =
        .again := by
  unfold publicServe
  simp only
  split
  · exact .inr rfl
  split
  · exact .inr rfl
  split
  · exact .inr rfl
  · exact .inl rfl

end Request

section Step

variable {connection : Connection}
variable {session after : Session}
variable {surroundings : Surroundings}
variable {request : Option Request}

/-- Nothing is streamed to a bare session, but it may be idle for too long. -/
theorem turn_eq_public
    {handled : Handled}
    (learned : Learned)
    (handledEq :
      served connection (surroundings.iteration learned) session request =
        handled)
    (bare : handled.session.Bare)
    (goesOn : handled.flow = .proceed ∨ handled.flow = .again) :
    turn connection (surroundings.iteration learned) session request =
      (handled.sends, publicNext surroundings handled) := by
  rw [turn, handledEq]
  rcases goesOn with proceeds | again
  · simp only [proceeds, stream, bare.subscription, publicNext,
      true_and]
    split
    · rw [if_pos ‹_›, List.append_nil]
    · rw [if_neg ‹_›, List.append_nil]
  · simp only [again, publicNext, reduceCtorEq, false_and, if_false]

/-- Without an authorized request, an iteration is a public one. -/
theorem step_eq_publicStep
    (learned : Learned)
    (bare : session.Bare)
    (rejected :
      (Transition.of connection session request
        (surroundings.iteration learned)).Unauthorized connection) :
    step connection session request (surroundings.iteration learned) =
        publicStep connection.publicPart surroundings session request ∧
      (served connection (surroundings.iteration learned) session
        request).session.Bare := by
  cases request with
  | none =>
      have turned :
          turn connection (surroundings.iteration learned) session none =
            _ :=
        turn_eq_public learned rfl bare (.inl rfl)
      rw [step, turned]
      exact ⟨rfl, bare⟩
  | some asked =>
      have servedEq :
          served connection (surroundings.iteration learned) session
              (some asked) =
            publicServe connection.publicPart surroundings session
              asked :=
        serve_eq_publicServe learned (rejected asked rfl)
      have servedBare :
          (publicServe connection.publicPart surroundings session
            asked).session.Bare :=
        publicServe_bare bare connection.publicPart asked
      have turned :=
        turn_eq_public learned servedEq servedBare
          (publicServe_flow connection.publicPart asked)
      rw [step, turned, servedEq]
      exact ⟨rfl, servedBare⟩

/-- An iteration without a subscription leaves the broadcaster to others. -/
theorem own_eq_nil
    {live : LiveTransition}
    (follows : live.Follows connection)
    (bare : live.transition.before.Bare)
    (servedBare : (live.transition.handled connection).session.Bare) :
    live.own = [] ∧ live.operations = live.others := by
  have ownedNone : live.owned = none := bare.subscription
  have keptNone : live.kept connection = none := servedBare.subscription
  have noRequest : live.requested = [] := by
    rw [follows.requested, ownedNone, keptNone]
    rfl
  have noReceive : live.received = [] := by
    rw [follows.received, LiveTransition.waiting, receiving,
      servedBare.subscription, ite_self]
    rfl
  have noDrop : live.dropped = [] := by
    rw [follows.dropped, keptNone, Option.map_none, Option.toList_none,
      ite_self]
  constructor
  · rw [LiveTransition.own, noRequest, noReceive, noDrop]
    rfl
  · rw [LiveTransition.operations, LiveTransition.others, noRequest,
      noReceive, noDrop]
    simp

/-- The session behind a bare request part is bare. -/
theorem step_bare
    {iteration : Iteration}
    (servedBare :
      (served connection iteration session request).session.Bare)
    (running :
      (step connection session request iteration).next =
        .running after) :
    after.Bare :=
  (step_sameControl running).bare servedBare

/-- What an iteration does that is not authorized. -/
structure IsPublic
    (connection : Connection)
    (surroundings : Surroundings)
    (live : LiveTransition) : Prop where
  performed :
    live.transition.performed =
      publicStep connection.publicPart surroundings live.transition.before
        live.transition.request
  own : live.own = []
  operations : live.operations = live.others
  bare :
    ∀ after, live.transition.performed.next = .running after → after.Bare

/-- On a live broadcaster, an unauthorized request gets the public answer. -/
theorem liveStep_isPublic
    (bare : session.Bare)
    {broadcaster : Broadcaster}
    {request : Option Request}
    {interference : Interference}
    (rejected :
      (liveStep connection session broadcaster request surroundings
        interference).transition.Unauthorized connection) :
    IsPublic connection surroundings
      (liveStep connection session broadcaster request surroundings
        interference) := by
  obtain ⟨performed, servedBare⟩ := step_eq_publicStep _ bare rejected
  obtain ⟨own, operations⟩ :=
    own_eq_nil (liveStep_follows _ _ _ _ _ _) bare servedBare
  exact ⟨performed, own, operations, fun _ running =>
    step_bare servedBare running⟩

end Step

/-! ## Whole runs -/

/-- What a run does to the client. -/
def LiveOutcome.performed (outcome : LiveOutcome) : List Performed :=
  outcome.transitions.map fun live => live.transition.performed

/-- The connection leaves the broadcaster to other threads. -/
structure LiveOutcome.Untouched
    (start : Broadcaster)
    (outcome : LiveOutcome) : Prop where
  own : ∀ live ∈ outcome.transitions, live.own = []
  broadcaster :
    outcome.broadcaster =
      start.run (outcome.transitions.flatMap LiveTransition.others)

/-- An iteration that leaves the broadcaster alone comes before the others. -/
theorem LiveOutcome.Untouched.cons
    {outcome : LiveOutcome}
    {live : LiveTransition}
    (untouched : outcome.Untouched live.after)
    (ownEq : live.own = [])
    (operationsEq : live.operations = live.others) :
    { outcome with transitions := live :: outcome.transitions }.Untouched
      live.found where
  own := List.forall_mem_cons.mpr ⟨ownEq, untouched.own⟩
  broadcaster := by
    change outcome.broadcaster =
      live.found.run
        (live.others ++ outcome.transitions.flatMap LiveTransition.others)
    rw [untouched.broadcaster, Broadcaster.run_append,
      LiveTransition.after, operationsEq]

section Handle

variable {publicPart : PublicConnection}
variable {session after : Session}
variable {input rest : Bytes}
variable {read : ReadOutcome}
variable {surroundings : Surroundings}
variable {request : Option Request}

/-- An iteration that goes on comes before the others. -/
theorem publicHandle_running
    (isRead : readControl read input = .ok (request, rest))
    (next :
      (publicStep publicPart surroundings session request).next =
        .running after)
    (later : List (ReadOutcome × Surroundings)) :
    publicHandle publicPart session input
        ((read, surroundings) :: later) =
      (publicStep publicPart surroundings session request ::
          (publicHandle publicPart after rest later).1,
        (publicHandle publicPart after rest later).2) := by
  simp only [publicHandle, isRead, next]

/-- An iteration that closes the connection is the last one. -/
theorem publicHandle_closed
    {result : Except IoError Unit}
    (isRead : readControl read input = .ok (request, rest))
    (next :
      (publicStep publicPart surroundings session request).next =
        .closed result)
    (later : List (ReadOutcome × Surroundings)) :
    publicHandle publicPart session input
        ((read, surroundings) :: later) =
      ([publicStep publicPart surroundings session request],
        .closed result) := by
  simp only [publicHandle, isRead, next]

end Handle

/--
Without an authorized request, a run does what the public server does, and
leaves the broadcaster to other threads.
-/
theorem liveHandle_publicHandle
    {connection : Connection}
    {session : Session}
    {input : Bytes}
    {broadcaster : Broadcaster}
    {inputs : List LiveInput}
    {outcome : LiveOutcome}
    (isRun :
      liveHandle connection session input broadcaster inputs = outcome)
    (bare : session.Bare)
    (unauthorized :
      ∀ live ∈ outcome.transitions,
        live.transition.Unauthorized connection) :
    publicHandle connection.publicPart session input
        (inputs.map LiveInput.publicPart) =
        (outcome.performed, outcome.next) ∧
      outcome.Untouched broadcaster := by
  induction inputs generalizing session input broadcaster outcome with
  | nil =>
      subst isRun
      exact ⟨rfl, by simp [liveHandle], rfl⟩
  | cons first later inductionHypothesis =>
      cases isRead : readControl first.read input with
      | error error =>
          rw [liveHandle_failed isRead, bare.subscription] at isRun
          subst isRun
          simp only [publicHandle, List.map_cons, LiveInput.publicPart,
            isRead]
          exact ⟨rfl, by simp, rfl⟩
      | ok answer =>
          obtain ⟨request, rest⟩ := answer
          generalize isLive :
            liveStep connection session broadcaster request
              first.surroundings first.interference = live
          have isFirst : live ∈ outcome.transitions := by
            rw [← isRun, ← isLive]
            simp only [liveHandle, isRead]
            split <;> exact List.mem_cons_self
          have isPublic :
              IsPublic connection first.surroundings live :=
            isLive ▸
              liveStep_isPublic bare (isLive ▸ unauthorized live isFirst)
          subst isLive
          have publicEq :
              publicStep connection.publicPart first.surroundings session
                  request =
                (liveStep connection session broadcaster request
                  first.surroundings
                  first.interference).transition.performed :=
            isPublic.performed.symm
          cases next :
              (liveStep connection session broadcaster request
                first.surroundings
                first.interference).transition.performed.next with
          | running after =>
              have publicNextEq :
                  (publicStep connection.publicPart first.surroundings
                    session request).next = .running after :=
                (congrArg Performed.next publicEq).trans next
              rw [liveHandle_running isRead next] at isRun
              subst isRun
              obtain ⟨laterEq, untouched⟩ :=
                inductionHypothesis rfl (isPublic.bare after next)
                  fun other member =>
                    unauthorized other (List.mem_cons_of_mem _ member)
              refine ⟨?_, untouched.cons isPublic.own isPublic.operations⟩
              rw [List.map_cons, LiveInput.publicPart,
                publicHandle_running isRead publicNextEq, laterEq,
                publicEq]
              rfl
          | closed result =>
              have publicNextEq :
                  (publicStep connection.publicPart first.surroundings
                    session request).next = .closed result :=
                (congrArg Performed.next publicEq).trans next
              rw [liveHandle_closed isRead next] at isRun
              subst isRun
              refine ⟨?_, by simpa using isPublic.own, ?_⟩
              · rw [List.map_cons, LiveInput.publicPart,
                  publicHandle_closed isRead publicNextEq, publicEq]
                rfl
              · rw [List.flatMap_singleton, ← isPublic.operations]
                rfl

/-- The connection of a server with these credentials. -/
def Connection.withCredentials
    (connection : Connection)
    (credentials : Credentials) : Connection :=
  { connection with
    server := { connection.server with credentials := some credentials } }

/-- Neither the client nor the broadcaster tells two runs apart. -/
structure LearnsNothing
    (firstStart secondStart : Broadcaster)
    (first second : LiveOutcome) : Prop where
  bytes :
    controlStream (first.transitions.map LiveTransition.transition) =
      controlStream (second.transitions.map LiveTransition.transition)
  writes :
    writes (first.transitions.map LiveTransition.transition) =
      writes (second.transitions.map LiveTransition.transition)
  ending : first.next = second.next
  firstUntouched : first.Untouched firstStart
  secondUntouched : second.Untouched secondStart

/-- The bytes of a run are those of its iterations. -/
theorem controlStream_eq_performed (outcome : LiveOutcome) :
    controlStream (outcome.transitions.map LiveTransition.transition) =
      outcome.performed.flatMap fun performed =>
        performed.sends.flatMap Send.wire ++ performed.torn := by
  rw [controlStream, LiveOutcome.performed, List.flatMap_map,
    List.flatMap_map]
  rfl

/-- The writes of a run are those of its iterations. -/
theorem writes_eq_performed (outcome : LiveOutcome) :
    writes (outcome.transitions.map LiveTransition.transition) =
      outcome.performed.flatMap Performed.sends := by
  rw [writes, LiveOutcome.performed, List.flatMap_map, List.flatMap_map]

/--
Two servers with other passwords, other streams and other viewers, on the same
bytes, clocks and nonces: as long as neither authorizes a request, both write
the same, end alike, and leave their broadcaster to other threads.
-/
theorem unauthenticated_learns_nothing
    (connection : Connection)
    (opening : Opening)
    (firstCredentials secondCredentials : Credentials)
    (firstStart secondStart : Broadcaster)
    (firstInputs secondInputs : List LiveInput)
    (sameInputs :
      firstInputs.map LiveInput.publicPart =
        secondInputs.map LiveInput.publicPart)
    (firstUnauthorized :
      ∀ live ∈
          (liveHandle (connection.withCredentials firstCredentials)
            (.start opening) [] firstStart firstInputs).transitions,
        live.transition.Unauthorized
          (connection.withCredentials firstCredentials))
    (secondUnauthorized :
      ∀ live ∈
          (liveHandle (connection.withCredentials secondCredentials)
            (.start opening) [] secondStart secondInputs).transitions,
        live.transition.Unauthorized
          (connection.withCredentials secondCredentials)) :
    LearnsNothing firstStart secondStart
      (liveHandle (connection.withCredentials firstCredentials)
        (.start opening) [] firstStart firstInputs)
      (liveHandle (connection.withCredentials secondCredentials)
        (.start opening) [] secondStart secondInputs) := by
  have bare : (Session.start opening).Bare := ⟨rfl, rfl⟩
  obtain ⟨firstEq, firstUntouched⟩ :=
    liveHandle_publicHandle rfl bare firstUnauthorized
  obtain ⟨secondEq, secondUntouched⟩ :=
    liveHandle_publicHandle rfl bare secondUnauthorized
  have same := firstEq.symm.trans (sameInputs ▸ secondEq)
  obtain ⟨performedEq, nextEq⟩ := Prod.mk.inj same
  exact {
    bytes := by
      rw [controlStream_eq_performed, controlStream_eq_performed,
        performedEq]
    writes := by
      rw [writes_eq_performed, writes_eq_performed, performedEq]
    ending := nextEq
    firstUntouched := firstUntouched
    secondUntouched := secondUntouched
  }

/-- Two servers refuse to describe their streams. -/
theorem unauthenticated_learns_nothing_from_describe :
    let connection : Connection := {
      server := {
        crates := {
          base64Encode := fun _ => []
          base64Decode := fun _ => none
          md5 := fun _ => []
          sha256 := fun _ => []
          framerate := fun _ _ => []
        }
        path := "/camera".toList
        pathValid := by decide
        credentials := none
        transportPolicy := .both
      }
      peerIp := .v4 ⟨#[127, 0, 0, 1], rfl⟩
      localAddr := {
        ip := .v4 ⟨#[127, 0, 0, 1], rfl⟩
        port := 554
        scopeId := 0
      }
      sessionData := List.replicate 12 7
      ssrc := 1
    }
    let opening : Opening := {
      nonceData := List.replicate 24 9
      issuedAt := 0
      sequence := 0
      reportAt := 0
      controlAt := 0
    }
    let surroundings : Surroundings := {
      controlAt := 1
      checkedAt := 1
      renewalAt := 1
      nonceData := []
      renewedAt := 1
      canBind := fun _ => true
      socketError := none
      idleAt := 1
      sentAt := 1
      reportAt := 1
      elapsedAt := 1
      reportedAt := 1
      wallClock := { seconds := 0, nanoseconds := 0 }
      failure := none
    }
    let quiet : Interference := {
      beforeCodec := []
      beforeFrameRate := []
      beforeReceive := []
      beforeEnd := []
    }
    let codec : CodecConfig := {
      sps := [0x67, 1]
      pps := [0x68, 2]
      profileLevelId := (0x42, 0, 0x1e)
    }
    let busy : Interference := {
      beforeCodec := [.setCodecConfig codec, .subscribe]
      beforeFrameRate := [.setFrameRate 30 1]
      beforeReceive := [.takeKeyframeRequest]
      beforeEnd := []
    }
    let read : ReadOutcome :=
      .received (toUtf8 "DESCRIBE /camera RTSP/1.0\r\n\r\n".toList)
        (by decide)
    let input (interference : Interference) : LiveInput := {
      read := read
      surroundings := surroundings
      interference := interference
    }
    LearnsNothing .initial .initial
      (liveHandle
        (connection.withCredentials {
          username := "admin".toList, password := "secret".toList })
        (.start opening) [] .initial [input quiet])
      (liveHandle
        (connection.withCredentials {
          username := "guest".toList, password := "guest".toList })
        (.start opening) [] .initial [input busy]) :=
  unauthenticated_learns_nothing _ _ _ _ _ _ _ _ rfl
    (by decide +kernel) (by decide +kernel)

end CamRtsp
