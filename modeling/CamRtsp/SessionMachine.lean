import CamRtsp.HandleSteps

namespace CamRtsp

open RustText

/-!
# The session state machine

A connection may hold a delivery, and may then hold a subscription.  The rules
below say which requests change the two, and that every request is answered
once; they hold for every iteration of every run.
-/

/-- A subscription exists only while a delivery exists. -/
def Session.Coherent (session : Session) : Prop :=
  session.subscription.isSome = true → session.delivery.isSome = true

/-- The response a write consists of. -/
def Send.response? : Send → Option Response
  | .response reply => some reply
  | .rtp _ _ => none
  | .rtcp _ _ => none
  | .bye _ _ => none

/-- The session the next iteration finds. -/
def Next.session? : Next → Option Session
  | .running session => some session
  | .closed _ => none

theorem running_of_session?
    {next : Next}
    {session : Session}
    (isNext : session ∈ next.session?) :
    next = .running session := by
  cases next with
  | running other =>
      cases isNext
      rfl
  | closed result =>
      cases isNext

namespace Transition

/-- The variables behind the request part of the iteration. -/
def handled (connection : Connection) (transition : Transition) : Handled :=
  served connection transition.iteration transition.before
    transition.request

/-- The responses that are written. -/
def responses (transition : Transition) : List Response :=
  transition.performed.sends.filterMap Send.response?

/-- The iteration serves a request with the given method. -/
def Asks (transition : Transition) (method : String) : Prop :=
  ∃ request ∈ transition.request, request.method = method.toList

end Transition

/-! ## What a request changes -/

section Request

variable {connection : Connection}
variable {iteration : Iteration}
variable {session : Session}
variable {request : Request}
variable {handled : Handled}

theorem Dispatched.coherent
    (dispatched :
      Dispatched connection iteration session request handled)
    (coherent : session.Coherent) :
    handled.session.Coherent := by
  cases dispatched with
  | setUp _ stopped _ _ selected _ =>
      intro _
      rfl
  | played _ delivered =>
      intro _
      exact delivered
  | paused _ _ =>
      intro subscribed
      cases subscribed
  | _ =>
      exact coherent

/-- Serving a request keeps a subscription backed by a delivery. -/
theorem Served.coherent
    (served : Served connection iteration session request handled)
    (coherent : session.Coherent) :
    handled.session.Coherent := by
  cases served with
  | unauthorized _ _ =>
      exact coherent
  | refused _ _ _ =>
      exact coherent
  | admitted _ dispatched =>
      exact dispatched.coherent coherent

/-- A request that a gate turns away leaves the media as they are. -/
structure TurnedAway (session : Session) (handled : Handled) : Prop where
  delivery : handled.session.delivery = session.delivery
  subscription : handled.session.subscription = session.subscription
  again : handled.flow = .again

/-- Only a request behind the gates can change them. -/
theorem Served.dispatched_or_turnedAway
    (served : Served connection iteration session request handled) :
    Dispatched connection iteration
        { session with lastControl := iteration.controlAt } request
        handled ∨
      TurnedAway session handled := by
  cases served with
  | unauthorized _ _ =>
      exact .inr ⟨rfl, rfl, rfl⟩
  | refused _ _ _ =>
      exact .inr ⟨rfl, rfl, rfl⟩
  | admitted _ dispatched =>
      exact .inl dispatched

/-- Only SETUP changes the delivery, and only while nothing is subscribed. -/
theorem Served.setup_of_delivery_ne
    (served : Served connection iteration session request handled)
    (changed : handled.session.delivery ≠ session.delivery) :
    request.method = "SETUP".toList ∧ session.subscription = none := by
  rcases served.dispatched_or_turnedAway with dispatched | turnedAway
  · cases dispatched with
    | setUp named stopped _ _ _ _ =>
        exact ⟨named, stopped⟩
    | _ =>
        exact (changed rfl).elim
  · exact (changed turnedAway.delivery).elim

/-- Only PLAY creates a subscription, and only PAUSE ends one. -/
theorem Served.play_or_pause_of_subscription_ne
    (served : Served connection iteration session request handled)
    (changed : handled.session.subscription ≠ session.subscription) :
    (request.method = "PLAY".toList ∧ session.subscription = none) ∨
      (request.method = "PAUSE".toList ∧
        handled.session.subscription = none) := by
  rcases served.dispatched_or_turnedAway with dispatched | turnedAway
  · cases dispatched with
    | played named _ =>
        refine .inl ⟨named, ?_⟩
        cases subscribed : session.subscription with
        | none =>
            rfl
        | some subscription =>
            simp [answer, subscribed] at changed
    | paused named _ =>
        exact .inr ⟨named, rfl⟩
    | _ =>
        exact (changed rfl).elim
  · exact (changed turnedAway.subscription).elim

/-- Only TEARDOWN ends the loop in order. -/
theorem Served.teardown_of_finished
    (served : Served connection iteration session request handled)
    (finished : handled.flow = .finished) :
    request.method = "TEARDOWN".toList := by
  rcases served.dispatched_or_turnedAway with dispatched | turnedAway
  · cases dispatched with
    | tornDown named _ _ =>
        exact named
    | _ =>
        cases finished
  · cases turnedAway.again.symm.trans finished

/-- Serving a request fails only in SETUP, while nothing is subscribed. -/
theorem Served.stopped_of_failed
    (served : Served connection iteration session request handled)
    {error : IoError}
    (failed : handled.flow = .failed error) :
    session.subscription = none := by
  rcases served.dispatched_or_turnedAway with dispatched | turnedAway
  · cases dispatched with
    | setUpFailed _ stopped _ =>
        exact stopped
    | _ =>
        cases failed
  · cases turnedAway.again.symm.trans failed

/-- An answer carries the status it was given. -/
theorem status_of_mem_answer
    {status : Status}
    {headers : List Text}
    {flow : Flow}
    {reply : Response}
    (member :
      .response reply ∈
        (answer session request status headers flow).sends) :
    reply.status = status := by
  simp only [answer, List.mem_singleton, Send.response.injEq] at member
  rw [member]

/-- A failure changes neither the session's resources nor its counters. -/
theorem Served.unchanged_of_failure
    (served : Served connection iteration session request handled)
    {reply : Response}
    (member : .response reply ∈ handled.sends)
    (failing : reply.status ≠ .ok) :
    handled.session.delivery = session.delivery ∧
      handled.session.subscription = session.subscription ∧
      handled.session.counters = session.counters := by
  cases served with
  | unauthorized _ _ =>
      exact ⟨rfl, rfl, rfl⟩
  | refused _ _ _ =>
      exact ⟨rfl, rfl, rfl⟩
  | admitted _ dispatched =>
      cases dispatched with
      | setUp _ _ _ _ _ _ =>
          exact (failing (status_of_mem_answer member)).elim
      | played _ _ =>
          exact (failing (status_of_mem_answer member)).elim
      | paused _ _ =>
          exact (failing (status_of_mem_answer member)).elim
      | _ =>
          exact ⟨rfl, rfl, rfl⟩

/-- Only an admitted request succeeds. -/
theorem Served.admitted_of_ok
    (served : Served connection iteration session request handled)
    {reply : Response}
    (member : .response reply ∈ handled.sends)
    (succeeds : reply.status = .ok) :
    Admitted connection iteration session request ∧
      Dispatched connection iteration
        { session with lastControl := iteration.controlAt } request
        handled := by
  cases served with
  | unauthorized _ _ =>
      rw [status_of_mem_answer member] at succeeds
      cases succeeds
  | refused _ _ failing =>
      rw [status_of_mem_answer member] at succeeds
      subst succeeds
      rcases failing with isNotFound | isSessionNotFound
      · cases isNotFound
      · cases isSessionNotFound
  | admitted admitted dispatched =>
      exact ⟨admitted, dispatched⟩

/-- Behind the gates, a request for an existing session has named it. -/
theorem Admitted.names_session
    (admitted : Admitted connection iteration session request)
    (needs : needsSession request.method = true)
    (delivered : session.delivery.isSome = true) :
    suppliedSession request = some connection.sessionId := by
  have rightSession := admitted.rightSession
  simp only [wrongSession, not_or, not_exists, not_and,
    not_not] at rightSession
  obtain ⟨onlyOwn, named⟩ := rightSession
  cases supplied : suppliedSession request with
  | none =>
      exact (named needs delivered supplied).elim
  | some value =>
      rw [onlyOwn value supplied]

/-- PLAY, PAUSE and TEARDOWN succeed only in the named session. -/
theorem Served.names_session
    (served : Served connection iteration session request handled)
    (coherent : session.Coherent)
    (needs : needsSession request.method = true)
    {reply : Response}
    (member : .response reply ∈ handled.sends)
    (succeeds : reply.status = .ok) :
    suppliedSession request = some connection.sessionId := by
  obtain ⟨admitted, dispatched⟩ := served.admitted_of_ok member succeeds
  apply admitted.names_session needs
  cases dispatched with
  | played _ delivered =>
      exact delivered
  | paused _ subscribed =>
      exact coherent subscribed
  | tornDown _ delivery delivered =>
      exact delivered ▸ rfl
  | notValid =>
      rw [status_of_mem_answer member] at succeeds
      cases succeeds
  | options named =>
      exact absurd (named ▸ needs) (by decide)
  | described named _ _ =>
      exact absurd (named ▸ needs) (by decide)
  | unavailable named _ =>
      exact absurd (named ▸ needs) (by decide)
  | setUp named _ _ _ _ _ =>
      exact absurd (named ▸ needs) (by decide)
  | setUpFailed named _ _ =>
      exact absurd (named ▸ needs) (by decide)
  | unsupported named _ =>
      exact absurd (named ▸ needs) (by decide)
  | parameters named =>
      exact absurd (named ▸ needs) (by decide)

end Request

/-! ## What an iteration changes -/

section Iteration

variable {connection : Connection}
variable {iteration : Iteration}
variable {session after : Session}
variable {request : Option Request}

/-- No request, no change; otherwise what the request changes. -/
theorem served_coherent
    (coherent : session.Coherent) :
    (served connection iteration session request).session.Coherent := by
  cases request with
  | none =>
      exact coherent
  | some request =>
      exact (serve_served connection iteration session request).coherent
        coherent

/-- The media part leaves the control state behind the request alone. -/
theorem step_sameControl
    (running :
      (step connection session request iteration).next =
        .running after) :
    SameControl (served connection iteration session request).session
      after := by
  have goesOn := (step_running running).2
  have turned := turn_turned connection iteration session request
  generalize served connection iteration session request = handled
    at turned ⊢
  generalize turn connection iteration session request = result
    at turned goesOn
  cases turned with
  | again _ =>
      cases goesOn
      exact .refl
  | proceeded _ streamed =>
      subst goesOn
      exact streamed.sameControl
  | finished _ =>
      cases goesOn
  | failed _ _ =>
      cases goesOn

theorem SameControl.coherent
    {before after : Session}
    (same : SameControl before after)
    (coherent : before.Coherent) :
    after.Coherent := by
  intro subscribed
  rw [same.delivery]
  rw [same.subscription] at subscribed
  exact coherent subscribed

/-- Every iteration keeps the session coherent. -/
theorem step_coherent
    (coherent : session.Coherent)
    (running :
      (step connection session request iteration).next =
        .running after) :
    after.Coherent :=
  (step_sameControl running).coherent (served_coherent coherent)

/-- The responses of a turn are those of its request part. -/
theorem turn_responses :
    (turn connection iteration session request).1.filterMap
        Send.response? =
      (served connection iteration session request).sends.filterMap
        Send.response? := by
  have turned := turn_turned connection iteration session request
  generalize served connection iteration session request = handled
    at turned ⊢
  generalize turn connection iteration session request = result
    at turned ⊢
  cases turned with
  | proceeded _ streamed =>
      have silent :
          List.filterMap Send.response? _ = [] :=
        List.filterMap_eq_nil_iff.mpr fun send member => by
          obtain ⟨_, _, _, _, rfl | rfl⟩ := streamed.media member
          · rfl
          · rfl
      rw [List.filterMap_append, silent, List.append_nil]
  | _ =>
      rfl

/-- A response of a turn comes from its request part. -/
theorem mem_served_of_mem_turn
    {reply : Response}
    (member :
      .response reply ∈ (turn connection iteration session request).1) :
    .response reply ∈
      (served connection iteration session request).sends := by
  have inResponses :
      reply ∈
        (turn connection iteration session request).1.filterMap
          Send.response? :=
    List.mem_filterMap.mpr ⟨_, member, rfl⟩
  rw [turn_responses] at inResponses
  obtain ⟨send, sendMember, isReply⟩ := List.mem_filterMap.mp inResponses
  cases send with
  | response other =>
      cases isReply
      exact sendMember
  | _ =>
      cases isReply

/-- A written response comes from the request part. -/
theorem mem_served_of_mem_responses
    {reply : Response}
    (member :
      reply ∈
        (step connection session request iteration).sends.filterMap
          Send.response?) :
    .response reply ∈
      (served connection iteration session request).sends := by
  obtain ⟨send, sendMember, isReply⟩ := List.mem_filterMap.mp member
  have inTurn := (prefix_step_sends _ _ _ _).subset sendMember
  cases send with
  | response other =>
      cases isReply
      exact mem_served_of_mem_turn inTurn
  | _ =>
      cases isReply

/-- The request part answers with the CSeq of its request, if at all. -/
theorem prefix_served_cseqs :
    ((served connection iteration session request).sends.filterMap
        Send.response?).map Response.cseq <+:
      (request.map Request.cseq).toList := by
  cases request with
  | none =>
      exact List.prefix_refl _
  | some request =>
      have replied :=
        (serve_served connection iteration session request).replied
      change ((serve connection iteration session request).sends.filterMap
        Send.response?).map Response.cseq <+: [request.cseq]
      generalize serve connection iteration session request = handled
        at replied
      obtain ⟨session, sends, flow⟩ := handled
      cases replied with
      | once response echoes =>
          rw [← echoes]
          exact List.prefix_refl _
      | farewell response echoes =>
          rw [← echoes]
          exact List.prefix_refl _
      | failed =>
          exact List.nil_prefix

/-- A request part that goes on has answered its request. -/
theorem served_cseqs
    (goesOn :
      (served connection iteration session request).flow = .proceed ∨
        (served connection iteration session request).flow = .again) :
    ((served connection iteration session request).sends.filterMap
        Send.response?).map Response.cseq =
      (request.map Request.cseq).toList := by
  cases request with
  | none =>
      rfl
  | some request =>
      have replied :=
        (serve_served connection iteration session request).replied
      change ((serve connection iteration session request).sends.filterMap
        Send.response?).map Response.cseq = [request.cseq]
      change (serve connection iteration session request).flow = _ ∨
        (serve connection iteration session request).flow = _ at goesOn
      generalize serve connection iteration session request = handled
        at replied goesOn
      obtain ⟨session, sends, flow⟩ := handled
      cases replied with
      | once response echoes =>
          rw [← echoes]
          rfl
      | farewell =>
          rcases goesOn with proceeds | again
          · cases proceeds
          · cases again
      | failed =>
          rcases goesOn with proceeds | again
          · cases proceeds
          · cases again

/-- An iteration that goes on has answered its request once. -/
theorem step_cseqs
    (running :
      (step connection session request iteration).next =
        .running after) :
    ((step connection session request iteration).sends.filterMap
        Send.response?).map Response.cseq =
      (request.map Request.cseq).toList := by
  obtain ⟨performedEq, goesOn⟩ := step_running running
  rw [performedEq, turn_responses]
  apply served_cseqs
  have turned := turn_turned connection iteration session request
  generalize served connection iteration session request = handled
    at turned ⊢
  generalize turn connection iteration session request = result
    at turned goesOn
  cases turned with
  | again flow =>
      exact .inr flow
  | proceeded flow _ =>
      exact .inl flow
  | finished _ =>
      cases goesOn
  | failed _ _ =>
      cases goesOn

/-- Any iteration answers at most its request. -/
theorem prefix_step_cseqs :
    ((step connection session request iteration).sends.filterMap
        Send.response?).map Response.cseq <+:
      (request.map Request.cseq).toList := by
  have written :
      (step connection session request iteration).sends.filterMap
          Send.response? <+:
        (turn connection iteration session request).1.filterMap
          Send.response? :=
    (prefix_step_sends _ _ _ _).filterMap Send.response?
  rw [turn_responses] at written
  exact (written.map Response.cseq).trans prefix_served_cseqs

/-- The first write of a turn that serves a request is a response. -/
theorem turn_head?_of_request
    {served : Request}
    {first : Send}
    (isFirst :
      (turn connection iteration session (some served)).1.head? =
        some first) :
    (Send.response? first).isSome = true := by
  have replied :=
    (serve_served connection iteration session served).replied
  have turned := turn_turned connection iteration session (some served)
  change Turned connection iteration
    (serve connection iteration session served) _ at turned
  generalize serve connection iteration session served = handled
    at replied turned
  generalize turn connection iteration session (some served) = result
    at turned isFirst
  obtain ⟨session, sends, flow⟩ := handled
  cases replied with
  | once response =>
      cases turned <;> cases isFirst <;> rfl
  | farewell response =>
      cases turned <;> cases isFirst <;> rfl
  | failed error =>
      cases turned with
      | proceeded flow _ =>
          cases flow
      | _ =>
          cases isFirst

/-- An iteration answers its request, or writes nothing and closes. -/
theorem step_answered :
    ((step connection session request iteration).sends.filterMap
          Send.response?).map Response.cseq =
        (request.map Request.cseq).toList ∨
      ((step connection session request iteration).sends = [] ∧
        (step connection session request iteration).next.session? =
          none) := by
  cases next : (step connection session request iteration).next with
  | running after =>
      exact .inl (step_cseqs next)
  | closed result =>
      cases sends : (step connection session request iteration).sends with
      | nil =>
          exact .inr ⟨rfl, rfl⟩
      | cons first later =>
          refine .inl ?_
          have atMost :
              ((step connection session request iteration).sends.filterMap
                Send.response?).map Response.cseq <+:
                (request.map Request.cseq).toList :=
            prefix_step_cseqs
          rw [sends] at atMost
          cases request with
          | none =>
              exact List.prefix_nil.mp atMost
          | some served =>
              have isFirst :
                  (turn connection iteration session
                    (some served)).1.head? = some first := by
                obtain ⟨lost, whole⟩ :=
                  prefix_step_sends connection session (some served)
                    iteration
                rw [← whole, sends]
                rfl
              have replied := turn_head?_of_request isFirst
              apply atMost.eq_of_length_le
              obtain ⟨reply, isReply⟩ := Option.isSome_iff_exists.mp replied
              simp [isReply]

/-- A turn closes a subscribed connection only behind PAUSE or TEARDOWN. -/
theorem turn_closed_of_subscribed
    (subscribed : session.subscription.isSome = true)
    {result : Except IoError Unit}
    (closes :
      (turn connection iteration session request).2 = .closed result) :
    ∃ served ∈ request,
      served.method = "PAUSE".toList ∨
        served.method = "TEARDOWN".toList := by
  have turned := turn_turned connection iteration session request
  cases request with
  | none =>
      change Turned connection iteration
        { session := session, sends := [], flow := .proceed } _ at turned
      generalize turn connection iteration session none = answer
        at turned closes
      cases turned with
      | proceeded _ streamed =>
          subst closes
          cases streamed with
          | idle stopped _ =>
              rw [stopped] at subscribed
              cases subscribed
      | again flow =>
          cases flow
      | finished flow =>
          cases flow
      | failed error flow =>
          cases flow
  | some request =>
      refine ⟨request, rfl, ?_⟩
      have served := serve_served connection iteration session request
      change Turned connection iteration
        (serve connection iteration session request) _ at turned
      generalize serve connection iteration session request = handled
        at turned served
      generalize turn connection iteration session (some request) = answer
        at turned closes
      cases turned with
      | again _ =>
          cases closes
      | proceeded _ streamed =>
          subst closes
          cases streamed with
          | idle stopped _ =>
              have changed :
                  handled.session.subscription ≠ session.subscription := by
                intro same
                rw [← same, stopped] at subscribed
                cases subscribed
              rcases served.play_or_pause_of_subscription_ne changed with
                play | pause
              · rw [play.2] at subscribed
                cases subscribed
              · exact .inl pause.1
      | finished flow =>
          exact .inr (served.teardown_of_finished flow)
      | failed error flow =>
          rw [served.stopped_of_failed flow] at subscribed
          cases subscribed

/--
A connection with a subscription is closed only behind PAUSE or TEARDOWN, or
by a failing write.
-/
theorem step_closed_of_subscribed
    (subscribed : session.subscription.isSome = true)
    {result : Except IoError Unit}
    (closes :
      (step connection session request iteration).next =
        .closed result) :
    (∃ served ∈ request,
        served.method = "PAUSE".toList ∨
          served.method = "TEARDOWN".toList) ∨
      iteration.failure.isSome = true := by
  have written := step_written connection session request iteration
  generalize step connection session request iteration = performed
    at written closes
  cases written with
  | whole =>
      exact .inl (turn_closed_of_subscribed subscribed closes)
  | cut fails =>
      exact .inr fails
  | muted =>
      exact .inl (turn_closed_of_subscribed subscribed closes)

end Iteration

/-! ## Whole runs -/

/--
The rules one iteration keeps.  `handled` is the state just behind the request
part; the media part that may follow it sends packets and counts them.
-/
structure FollowsRules
    (connection : Connection)
    (transition : Transition) : Prop where
  coherent :
    transition.before.Coherent ∧
      (transition.handled connection).session.Coherent ∧
      ∀ after ∈ transition.performed.next.session?, after.Coherent
  mediaKeepsControl :
    ∀ after ∈ transition.performed.next.session?,
      SameControl (transition.handled connection).session after
  fixedWhileSubscribed :
    transition.before.subscription.isSome = true →
      (transition.handled connection).session.delivery =
        transition.before.delivery
  answered :
    transition.responses.map Response.cseq =
        (transition.request.map Request.cseq).toList ∨
      (transition.performed.sends = [] ∧
        transition.performed.next.session? = none)
  failureKeepsState :
    ∀ response ∈ transition.responses, response.status ≠ .ok →
      (transition.handled connection).session.delivery =
          transition.before.delivery ∧
        (transition.handled connection).session.subscription =
          transition.before.subscription ∧
        (transition.handled connection).session.counters =
          transition.before.counters
  successNamesSession :
    ∀ request ∈ transition.request,
      request.method = "PLAY".toList ∨ request.method = "PAUSE".toList ∨
          request.method = "TEARDOWN".toList →
        ∀ response ∈ transition.responses, response.status = .ok →
          suppliedSession request = some connection.sessionId
  deliveryBySetup :
    (transition.handled connection).session.delivery ≠
        transition.before.delivery →
      transition.Asks "SETUP"
  subscriptionByPlay :
    transition.before.subscription = none →
      (transition.handled connection).session.subscription ≠ none →
        transition.Asks "PLAY"
  endByPause :
    transition.before.subscription ≠ none →
      (transition.handled connection).session.subscription ≠
          transition.before.subscription →
        transition.Asks "PAUSE" ∧
          (transition.handled connection).session.subscription = none
  closedByTeardown :
    transition.before.subscription ≠ none →
      transition.performed.next.session? = none →
        transition.Asks "PAUSE" ∨ transition.Asks "TEARDOWN" ∨
          transition.iteration.failure.isSome = true

/-- The responses of a run, against its requests. -/
structure AnswersInOrder
    (transitions : List Transition)
    (next : Next) : Prop where
  inOrder :
    (transitions.flatMap Transition.responses).map Response.cseq <+:
      (transitions.filterMap Transition.request).map Request.cseq
  atMostLastUnanswered :
    (transitions.filterMap Transition.request).length ≤
      (transitions.flatMap Transition.responses).length + 1
  allAnswered :
    ∀ session ∈ next.session?,
      (transitions.flatMap Transition.responses).map Response.cseq =
        (transitions.filterMap Transition.request).map Request.cseq

/-- What the iteration is given. -/
def Transition.input (transition : Transition) :
    Option Request × Iteration :=
  (transition.request, transition.iteration)

/--
The transitions of a run serve its inputs one after the other, each from where
the one before it has come to, and all of them unless one closes the
connection.
-/
structure ServesInputs
    (session : Session)
    (inputs : List (Option Request × Iteration))
    (transitions : List Transition)
    (next : Next) : Prop where
  inOrder : transitions.map Transition.input <+: inputs
  all :
    ∀ after ∈ next.session?, transitions.map Transition.input = inputs
  starts :
    ∀ transition ∈ transitions.head?, transition.before = session
  goesOn :
    ∀ earlier first second later,
      transitions = earlier ++ first :: second :: later →
        first.performed.next = .running second.before
  ends :
    (transitions.getLast?.elim (.running session) fun last =>
      last.performed.next) = next

section Run

variable {connection : Connection}
variable {session : Session}

/-- The loop serves its inputs in order, by induction on them. -/
theorem run_servesInputs
    (connection : Connection)
    (session : Session)
    (inputs : List (Option Request × Iteration)) :
    ServesInputs session inputs (run connection session inputs).1
      (run connection session inputs).2 := by
  induction inputs generalizing session with
  | nil =>
      exact
        { inOrder := List.prefix_refl _
          all := fun _ _ => rfl
          starts := by simp [run]
          goesOn := by simp [run]
          ends := by simp [run] }
  | cons input later inductionHypothesis =>
      obtain ⟨request, iteration⟩ := input
      cases next : (step connection session request iteration).next with
      | closed result =>
          simp only [run, next]
          exact
            { inOrder := by simp [Transition.input]
              all := fun _ closed => by cases closed
              starts := by simp
              goesOn := by
                intro earlier first second rest split
                have lengths := congrArg List.length split
                simp at lengths
                omega
              ends := by simp [next] }
      | running after =>
          have served := inductionHypothesis after
          simp only [run, next]
          refine
            { inOrder := List.cons_prefix_cons.mpr ⟨rfl, served.inOrder⟩
              all := fun last isLast =>
                congrArg _ (served.all last isLast)
              starts := by simp
              goesOn := ?_
              ends := ?_ }
          · intro earlier first second rest split
            cases earlier with
            | nil =>
                obtain ⟨rfl, restEq⟩ := List.cons.inj split
                rw [served.starts second (by simp [restEq])]
                exact next
            | cons head earlier =>
                exact served.goesOn earlier first second rest
                  (List.cons.inj split).2
          · have ends := served.ends
            cases shape : (run connection after later).1 with
            | nil =>
                rw [shape] at ends
                exact next.trans ends
            | cons head rest =>
                rw [shape] at ends
                rw [List.getLast?_cons_cons]
                exact ends

/-- Every iteration from a coherent session follows the rules. -/
theorem followsRules
    (request : Option Request)
    (iteration : Iteration)
    (coherent : session.Coherent) :
    FollowsRules connection
      (.of connection session request iteration) where
  coherent := by
    refine ⟨coherent, served_coherent coherent, ?_⟩
    intro after running
    exact step_coherent coherent (running_of_session? running)
  mediaKeepsControl := by
    intro after running
    exact step_sameControl (running_of_session? running)
  fixedWhileSubscribed := by
    intro subscribed
    by_contra changed
    cases request with
    | none =>
        exact changed rfl
    | some request =>
        have stopped :=
          (serve_served connection iteration session
            request).setup_of_delivery_ne changed
        change session.subscription.isSome = true at subscribed
        rw [stopped.2] at subscribed
        cases subscribed
  answered := step_answered
  failureKeepsState := by
    intro response member failing
    have inReply := mem_served_of_mem_responses member
    cases request with
    | none =>
        exact ⟨rfl, rfl, rfl⟩
    | some request =>
        exact
          (serve_served connection iteration session
            request).unchanged_of_failure inReply failing
  successNamesSession := by
    intro served isRequest method response member succeeds
    have inReply := mem_served_of_mem_responses member
    cases isRequest
    have needs : needsSession served.method = true := by
      rcases method with play | pause | teardown
      · rw [play]
        decide
      · rw [pause]
        decide
      · rw [teardown]
        decide
    exact
      (serve_served connection iteration session served).names_session
        coherent needs inReply succeeds
  deliveryBySetup := by
    intro changed
    cases request with
    | none =>
        exact (changed rfl).elim
    | some request =>
        have setup :=
          (serve_served connection iteration session
            request).setup_of_delivery_ne changed
        exact ⟨request, rfl, setup.1⟩
  subscriptionByPlay := by
    intro stopped subscribed
    cases request with
    | none =>
        exact (subscribed stopped).elim
    | some request =>
        have changed :=
          (serve_served connection iteration session
            request).play_or_pause_of_subscription_ne
            fun same => subscribed (same.trans stopped)
        rcases changed with play | pause
        · exact ⟨request, rfl, play.1⟩
        · exact (subscribed pause.2).elim
  endByPause := by
    intro subscribed changed
    cases request with
    | none =>
        exact (changed rfl).elim
    | some request =>
        have cause :=
          (serve_served connection iteration session
            request).play_or_pause_of_subscription_ne changed
        rcases cause with play | pause
        · exact (subscribed play.2).elim
        · exact ⟨⟨request, rfl, pause.1⟩, pause.2⟩
  closedByTeardown := by
    intro subscribed ends
    cases next : (step connection session request iteration).next with
    | running after =>
        change (step connection session request
          iteration).next.session? = none at ends
        rw [next] at ends
        cases ends
    | closed result =>
        have cause :=
          step_closed_of_subscribed
            (Option.ne_none_iff_isSome.mp subscribed) next
        rcases cause with ⟨served, isRequest, pause | teardown⟩ | failure
        · exact .inl ⟨served, isRequest, pause⟩
        · exact .inr (.inl ⟨served, isRequest, teardown⟩)
        · exact .inr (.inr failure)

theorem cseqs_cons
    (first : Transition)
    (later : List Transition) :
    ((first :: later).filterMap Transition.request).map Request.cseq =
      (first.request.map Request.cseq).toList ++
        (later.filterMap Transition.request).map Request.cseq := by
  cases isRequest : first.request <;> simp [isRequest]

/-- All answers of a run carry the CSeqs of its requests, in order. -/
theorem Runs.answered
    {transitions : List Transition}
    {next : Next}
    (runs : Runs connection session transitions next) :
    AnswersInOrder transitions next := by
  induction runs with
  | nil session =>
      exact
        { inOrder := List.prefix_refl _
          atMostLastUnanswered := Nat.zero_le _
          allAnswered := fun _ _ => rfl }
  | closed session request iteration result closes =>
      have atMost :
          ((step connection session request iteration).sends.filterMap
              Send.response?).map Response.cseq <+:
            (request.map Request.cseq).toList :=
        prefix_step_cseqs
      refine
        { inOrder := ?_
          atMostLastUnanswered := ?_
          allAnswered := fun _ closed => by cases closed }
      · rw [cseqs_cons]
        simpa [Transition.responses, Transition.of] using atMost
      · cases request <;> simp [Transition.of]
  | running session request iteration after goesOn rest later =>
      have answered := step_cseqs goesOn
      refine
        { inOrder := ?_
          atMostLastUnanswered := ?_
          allAnswered := ?_ }
      · rw [cseqs_cons, List.flatMap_cons, List.map_append]
        change (List.map Response.cseq
          ((step connection session request iteration).sends.filterMap
            Send.response?)) ++ _ <+: (request.map Request.cseq).toList ++ _
        rw [answered, List.prefix_append_right_inj]
        exact later.inOrder
      · have sameLength := congrArg List.length answered
        have bound := later.atMostLastUnanswered
        rw [← List.length_map (f := Request.cseq), cseqs_cons,
          List.length_append, List.length_map, List.flatMap_cons,
          List.length_append]
        change _ ≤ ((step connection session request
          iteration).sends.filterMap Send.response?).length + _ + 1
        change (request.map Request.cseq).toList.length + _ ≤ _
        rw [← sameLength, List.length_map]
        omega
      · intro last isLast
        rw [cseqs_cons, List.flatMap_cons, List.map_append,
          later.allAnswered last isLast]
        change (List.map Response.cseq
          ((step connection session request iteration).sends.filterMap
            Send.response?)) ++ _ = (request.map Request.cseq).toList ++ _
        rw [answered]

end Run

/--
Over every run of a connection, from its start and whatever is requested and
published: the inputs are served in order, and all of them unless the
connection is closed; a subscription needs a delivery and fixes it; every
request is answered once, in order and under its CSeq, or closes the connection
unanswered; failures change nothing; PLAY, PAUSE and TEARDOWN succeed only in
the named session; and only SETUP, PLAY, PAUSE and TEARDOWN change what they
are for.
-/
theorem session_state_machine
    (connection : Connection)
    (opening : Opening)
    (inputs : List (Option Request × Iteration)) :
    let outcome := run connection (.start opening) inputs
    ServesInputs (.start opening) inputs outcome.1 outcome.2 ∧
      (∀ transition ∈ outcome.1, FollowsRules connection transition) ∧
      AnswersInOrder outcome.1 outcome.2 := by
  have runs := run_runs connection (.start opening) inputs
  refine ⟨run_servesInputs connection (.start opening) inputs, ?_,
    runs.answered⟩
  apply runs.forall_transitions Session.Coherent step_coherent
    fun coherent => followsRules _ _ coherent
  intro subscribed
  cases subscribed

end CamRtsp
