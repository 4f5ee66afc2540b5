import CamRtsp.Handle

namespace CamRtsp

open RustText

/-!
# What an iteration can do

The inversion lemmas of `serve`, `stream`, `turn` and `run`.  Results about
connections are derived from them by cases and never unfold the handlers.
-/

/-! ## Requests -/

/-- The gates in front of the method match let the request through. -/
structure Admitted
    (connection : Connection)
    (iteration : Iteration)
    (session : Session)
    (request : Request) : Prop where
  authorized :
    request.method = "OPTIONS".toList ∨
      authorized connection.server.crates request
        connection.server.credentials session.auth
        iteration.checkedAt = true
  targeted : targets connection.server.path request
  rightSession : ¬ wrongSession connection session request

/-- The outcomes of the method match. -/
inductive Dispatched
    (connection : Connection)
    (iteration : Iteration)
    (session : Session)
    (request : Request) : Handled → Prop where
  | options
      (named : request.method = "OPTIONS".toList) :
      Dispatched connection iteration session request
        (answer session request .ok [publicMethods] .proceed)
  | described
      (named : request.method = "DESCRIBE".toList)
      (codec : CodecConfig)
      (published : iteration.codec = some codec) :
      Dispatched connection iteration session request
        { session := session
          sends :=
            [.response (description connection iteration request codec)]
          flow := .proceed }
  | unavailable
      (named : request.method = "DESCRIBE".toList)
      (unpublished : iteration.codec = none) :
      Dispatched connection iteration session request
        (answer session request .serviceUnavailable
          ["Retry-After: 1".toList] .proceed)
  | setUp
      (named : request.method = "SETUP".toList)
      (stopped : session.subscription = none)
      (value : Text)
      (offered : request.header "transport" = some value)
      (selected : Delivery)
      (negotiated :
        negotiateTransport value connection.peerIp connection.localAddr.ip
          connection.server.transportPolicy iteration.canBind =
            some selected) :
      Dispatched connection iteration session request
        (answer { session with delivery := some selected } request .ok
          ["Transport: ".toList ++ selected.transportHeader,
            connection.sessionHeader]
          .proceed)
  | setUpFailed
      (named : request.method = "SETUP".toList)
      (stopped : session.subscription = none)
      (error : IoError) :
      Dispatched connection iteration session request
        { session := session, sends := [], flow := .failed error }
  | unsupported
      (named : request.method = "SETUP".toList)
      (stopped : session.subscription = none) :
      Dispatched connection iteration session request
        (answer session request .unsupportedTransport [] .proceed)
  | played
      (named : request.method = "PLAY".toList)
      (delivered : session.delivery.isSome = true) :
      Dispatched connection iteration session request
        (answer
          { session with
            subscription :=
              session.subscription.or (some iteration.subscription) }
          request .ok [connection.sessionHeader, "Range: npt=now-".toList]
          .proceed)
  | paused
      (named : request.method = "PAUSE".toList)
      (subscribed : session.subscription.isSome = true) :
      Dispatched connection iteration session request
        (answer { session with subscription := none } request .ok
          [connection.sessionHeader] .proceed)
  | parameters
      (named : request.method = "GET_PARAMETER".toList) :
      Dispatched connection iteration session request
        (answer session request .ok [connection.sessionHeader] .proceed)
  | tornDown
      (named : request.method = "TEARDOWN".toList)
      (delivery : Delivery)
      (delivered : session.delivery = some delivery) :
      Dispatched connection iteration session request
        (teardown connection session delivery request)
  | notValid :
      Dispatched connection iteration session request
        (answer session request .methodNotValid [] .proceed)

theorem describe_dispatched
    {connection : Connection}
    {iteration : Iteration}
    {session : Session}
    {request : Request}
    (named : request.method = "DESCRIBE".toList) :
    Dispatched connection iteration session request
      (describe connection iteration session request) := by
  unfold describe
  split
  · exact .described named _ ‹_›
  · exact .unavailable named ‹_›

theorem setup_dispatched
    {connection : Connection}
    {iteration : Iteration}
    {session : Session}
    {request : Request}
    (named : request.method = "SETUP".toList)
    (stopped : session.subscription = none) :
    Dispatched connection iteration session request
      (setup connection iteration session request) := by
  unfold setup
  split
  · rename_i selected negotiated
    obtain ⟨value, offered, negotiated⟩ :=
      Option.bind_eq_some_iff.mp negotiated
    split
    · exact .setUpFailed named stopped _
    · exact .setUp named stopped value offered selected negotiated
  · exact .unsupported named stopped

/-- The method match has no other outcomes. -/
theorem dispatch_dispatched
    (connection : Connection)
    (iteration : Iteration)
    (session : Session)
    (request : Request) :
    Dispatched connection iteration session request
      (dispatch connection iteration session request) := by
  unfold dispatch
  split
  · exact .options ‹_›
  split
  · exact describe_dispatched ‹_›
  split
  · rename_i setUp
    exact setup_dispatched setUp.1 setUp.2
  split
  · rename_i play
    exact .played play.1 play.2
  split
  · rename_i pause
    exact .paused pause.1 pause.2
  split
  · exact .parameters ‹_›
  split
  · rename_i delivery delivered
    split
    · exact .tornDown ‹_› delivery delivered
    · exact .notValid
  · exact .notValid

/-- The outcomes of the request part of an iteration. -/
inductive Served
    (connection : Connection)
    (iteration : Iteration)
    (session : Session)
    (request : Request) : Handled → Prop where
  | unauthorized
      (notOptions : request.method ≠ "OPTIONS".toList)
      (rejected :
        authorized connection.server.crates request
          connection.server.credentials session.auth
          iteration.checkedAt = false) :
      Served connection iteration session request
        (answer
          { session with
            lastControl := iteration.controlAt
            auth := renewed iteration session.auth }
          request .unauthorized
          (challenges (renewed iteration session.auth).nonce) .again)
  | refused
      (accepted :
        request.method = "OPTIONS".toList ∨
          authorized connection.server.crates request
            connection.server.credentials session.auth
            iteration.checkedAt = true)
      (status : Status)
      (failing : status = .notFound ∨ status = .sessionNotFound) :
      Served connection iteration session request
        (answer { session with lastControl := iteration.controlAt } request
          status [] .again)
  | admitted
      (admitted : Admitted connection iteration session request)
      {handled : Handled}
      (dispatched :
        Dispatched connection iteration
          { session with lastControl := iteration.controlAt } request
          handled) :
      Served connection iteration session request handled

/-- What the request part writes, and how it goes on. -/
inductive Replied (ssrc : UInt32) (cseq : Text) :
    List Send → Flow → Prop where
  | once
      (response : Response)
      (echoes : response.cseq = cseq)
      (flow : Flow)
      (goesOn : flow = .proceed ∨ flow = .again) :
      Replied ssrc cseq [.response response] flow
  | farewell
      (response : Response)
      (echoes : response.cseq = cseq)
      (delivery : Delivery) :
      Replied ssrc cseq
        [.response response, .bye delivery (rtcpBye ssrc)] .finished
  | failed
      (error : IoError) :
      Replied ssrc cseq [] (.failed error)

/-- A response of the request part carries its CSeq. -/
theorem Replied.cseq_of_mem
    {ssrc : UInt32}
    {cseq : Text}
    {sends : List Send}
    {flow : Flow}
    (replied : Replied ssrc cseq sends flow)
    {reply : Response}
    (member : .response reply ∈ sends) :
    reply.cseq = cseq := by
  cases replied with
  | once response echoes _ _ =>
      cases List.mem_singleton.mp member
      exact echoes
  | farewell response echoes delivery =>
      rcases List.mem_cons.mp member with isReply | isBye
      · cases isReply
        exact echoes
      · cases List.mem_singleton.mp isBye
  | failed =>
      cases member

theorem answer_replied
    {session : Session}
    {request : Request}
    {status : Status}
    {headers : List Text}
    {flow : Flow}
    (goesOn : flow = .proceed ∨ flow = .again)
    (ssrc : UInt32) :
    Replied ssrc request.cseq
      (answer session request status headers flow).sends
      (answer session request status headers flow).flow :=
  .once
    { cseq := request.cseq
      status := status
      headers := headers
      body := [] }
    rfl flow goesOn

theorem Dispatched.replied
    {connection : Connection}
    {iteration : Iteration}
    {session : Session}
    {request : Request}
    {handled : Handled}
    (dispatched :
      Dispatched connection iteration session request handled) :
    Replied connection.ssrc request.cseq handled.sends handled.flow := by
  cases dispatched with
  | described _ codec _ =>
      exact .once (description connection iteration request codec) rfl
        .proceed (.inl rfl)
  | setUpFailed _ _ error =>
      exact .failed error
  | tornDown _ delivery _ =>
      exact .farewell
        { cseq := request.cseq
          status := .ok
          headers := [connection.sessionHeader]
          body := [] }
        rfl delivery
  | _ =>
      exact answer_replied (.inl rfl) _

/-- Every request is answered once, under its CSeq, or ends the loop. -/
theorem Served.replied
    {connection : Connection}
    {iteration : Iteration}
    {session : Session}
    {request : Request}
    {handled : Handled}
    (served : Served connection iteration session request handled) :
    Replied connection.ssrc request.cseq handled.sends handled.flow := by
  cases served with
  | unauthorized _ _ =>
      exact answer_replied (.inr rfl) _
  | refused _ _ _ =>
      exact answer_replied (.inr rfl) _
  | admitted _ dispatched =>
      exact dispatched.replied

/-- The request part has no other outcomes. -/
theorem serve_served
    (connection : Connection)
    (iteration : Iteration)
    (session : Session)
    (request : Request) :
    Served connection iteration session request
      (serve connection iteration session request) := by
  unfold serve
  simp only
  split
  · rename_i rejected
    exact .unauthorized rejected.1 rejected.2
  rename_i notRejected
  have accepted :
      request.method = "OPTIONS".toList ∨
        authorized connection.server.crates request
          connection.server.credentials session.auth
          iteration.checkedAt = true := by
    by_cases named : request.method = "OPTIONS".toList
    · exact .inl named
    · simp only [not_and, Bool.not_eq_false] at notRejected
      exact .inr (notRejected named)
  split
  · exact .refused accepted .notFound (.inl rfl)
  rename_i targeted
  split
  · exact .refused accepted .sessionNotFound (.inr rfl)
  rename_i rightSession
  exact .admitted
    { authorized := accepted
      targeted := not_not.mp targeted
      rightSession := rightSession }
    (dispatch_dispatched _ _ _ _)

/-! ## Media -/

section Media

variable {connection : Connection}
variable {iteration : Iteration}
variable {session : Session}
variable {delivery : Delivery}

/-- Media never touches what requests control. -/
structure SameControl (before after : Session) : Prop where
  delivery : after.delivery = before.delivery
  subscription : after.subscription = before.subscription
  auth : after.auth = before.auth
  lastControl : after.lastControl = before.lastControl

theorem SameControl.refl : SameControl session session :=
  ⟨rfl, rfl, rfl, rfl⟩

theorem sendMedia_sameControl :
    SameControl session
      (sendMedia connection iteration session delivery).2 := by
  unfold sendMedia
  split
  · exact ⟨rfl, rfl, rfl, rfl⟩
  · exact .refl

theorem sendReport_sameControl :
    SameControl session
      (sendReport connection iteration session delivery).2 := by
  unfold sendReport
  split
  · split
    · exact ⟨rfl, rfl, rfl, rfl⟩
    · exact .refl
  · exact .refl

theorem SameControl.trans
    {first second third : Session}
    (before : SameControl first second)
    (after : SameControl second third) :
    SameControl first third where
  delivery := after.delivery.trans before.delivery
  subscription := after.subscription.trans before.subscription
  auth := after.auth.trans before.auth
  lastControl := after.lastControl.trans before.lastControl

end Media

/-- The outcomes of the media part of an iteration. -/
inductive Streamed
    (connection : Connection)
    (iteration : Iteration)
    (session : Session) : List Send × Next → Prop where
  | idle
      (stopped : session.subscription = none)
      (error : IoError) :
      Streamed connection iteration session ([], .closed (.error error))
  | waiting
      (silent : session.subscription = none ∨ session.delivery = none) :
      Streamed connection iteration session ([], .running session)
  | playing
      (subscription : SubscriptionId)
      (subscribed : session.subscription = some subscription)
      (delivery : Delivery)
      (delivered : session.delivery = some delivery)
      {media report : List Send × Session}
      (mediaEq :
        sendMedia connection iteration session delivery = media)
      (reportEq :
        sendReport connection iteration media.2 delivery = report) :
      Streamed connection iteration session
        (media.1 ++ report.1, .running report.2)

/-- The media part has no other outcomes. -/
theorem stream_streamed
    (connection : Connection)
    (iteration : Iteration)
    (session : Session) :
    Streamed connection iteration session
      (stream connection iteration session) := by
  unfold stream
  split
  · rename_i stopped
    split
    · exact .idle stopped _
    · exact .waiting (.inl stopped)
  · rename_i subscription subscribed
    split
    · rename_i undelivered
      exact .waiting (.inr undelivered)
    · rename_i delivery delivered
      exact .playing subscription subscribed delivery delivered rfl rfl

/-- The media part leaves the control state alone. -/
theorem Streamed.sameControl
    {connection : Connection}
    {iteration : Iteration}
    {session after : Session}
    {sends : List Send}
    (streamed :
      Streamed connection iteration session (sends, .running after)) :
    SameControl session after := by
  cases streamed with
  | waiting _ =>
      exact .refl
  | playing _ _ _ _ mediaEq reportEq =>
      subst mediaEq reportEq
      exact sendMedia_sameControl.trans sendReport_sameControl

/-! ## Turns -/

/-- The outcomes of a turn behind its request part. -/
inductive Turned
    (connection : Connection)
    (iteration : Iteration)
    (handled : Handled) : List Send × Next → Prop where
  | again
      (flow : handled.flow = .again) :
      Turned connection iteration handled
        (handled.sends, .running handled.session)
  | proceeded
      (flow : handled.flow = .proceed)
      {media : List Send}
      {next : Next}
      (streamed :
        Streamed connection iteration handled.session (media, next)) :
      Turned connection iteration handled (handled.sends ++ media, next)
  | finished
      (flow : handled.flow = .finished) :
      Turned connection iteration handled
        (handled.sends, .closed (.ok ()))
  | failed
      (error : IoError)
      (flow : handled.flow = .failed error) :
      Turned connection iteration handled
        (handled.sends, .closed (.error error))

theorem turn_turned
    (connection : Connection)
    (iteration : Iteration)
    (session : Session)
    (request : Option Request) :
    Turned connection iteration
      (served connection iteration session request)
      (turn connection iteration session request) := by
  unfold turn
  simp only
  split
  · exact .proceeded ‹_› (stream_streamed _ _ _)
  · exact .again ‹_›
  · exact .finished ‹_›
  · exact .failed _ ‹_›

/-- How writing the sends of a turn ends. -/
inductive Written
    (failure : Option SendFailure)
    (sends : List Send)
    (next : Next) : Performed → Prop where
  | whole :
      Written failure sends next
        { sends := sends, torn := [], next := next }
  | cut
      (fails : failure.isSome = true)
      (count written : Nat)
      (failed : Send)
      (error : IoError)
      (failing : sends[count]? = some failed) :
      Written failure sends next
        { sends := sends.take count
          torn := failed.wire.dropLast.take written
          next := .closed (.error error) }
  | muted
      (fails : failure.isSome = true)
      (count written : Nat)
      (delivery : Delivery)
      (packet : Bytes)
      (failing : sends[count]? = some (.bye delivery packet)) :
      Written failure sends next
        { sends := sends.take count
          torn :=
            (Send.bye delivery packet).wire.dropLast.take written
          next := next }

theorem perform_written
    (failure : Option SendFailure)
    (sends : List Send)
    (next : Next) :
    Written failure sends next (perform failure sends next) := by
  unfold perform
  split
  · exact .whole
  · rename_i failure
    split
    · exact .whole
    · rename_i failed failing
      split
      · exact .muted rfl failure.after failure.written _ _ failing
      · exact .cut rfl failure.after failure.written failed
          failure.error failing

/-! ## Goodbyes -/

/-- Only the last write of a TEARDOWN is a goodbye. -/
theorem Replied.finished_of_bye
    {ssrc : UInt32}
    {cseq : Text}
    {sends : List Send}
    {flow : Flow}
    (replied : Replied ssrc cseq sends flow)
    {delivery : Delivery}
    {packet : Bytes}
    (member : .bye delivery packet ∈ sends) :
    flow = .finished := by
  cases replied with
  | once response _ _ _ =>
      simp at member
  | farewell =>
      rfl
  | failed =>
      simp at member

/-- Media goes to the negotiated delivery of a subscribed session. -/
theorem Streamed.media
    {connection : Connection}
    {iteration : Iteration}
    {session : Session}
    {sends : List Send}
    {next : Next}
    (streamed : Streamed connection iteration session (sends, next))
    {send : Send}
    (member : send ∈ sends) :
    ∃ delivery packet,
      session.delivery = some delivery ∧
        session.subscription.isSome = true ∧
        (send = .rtp delivery packet ∨ send = .rtcp delivery packet) := by
  cases streamed with
  | idle _ _ =>
      simp at member
  | waiting _ =>
      simp at member
  | playing subscription subscribed delivery delivered mediaEq reportEq =>
      rcases List.mem_append.mp member with inMedia | inReport
      · subst mediaEq
        unfold sendMedia at inMedia
        split at inMedia
        · obtain ⟨packet, _, rfl⟩ := List.mem_map.mp inMedia
          exact ⟨delivery, packet, delivered, by simp [subscribed],
            .inl rfl⟩
        · simp at inMedia
      · subst reportEq
        unfold sendReport at inReport
        split at inReport
        · split at inReport
          · rw [List.mem_singleton.mp inReport]
            exact ⟨delivery, _, delivered, by simp [subscribed],
              .inr rfl⟩
          · simp at inReport
        · simp at inReport

/-- A turn that says goodbye ends the connection in order. -/
theorem turn_finished_of_bye
    {connection : Connection}
    {iteration : Iteration}
    {session : Session}
    {request : Option Request}
    {delivery : Delivery}
    {packet : Bytes}
    (member :
      .bye delivery packet ∈
        (turn connection iteration session request).1) :
    (turn connection iteration session request).2 = .closed (.ok ()) := by
  have finished :
      .bye delivery packet ∈
          (served connection iteration session request).sends →
        (served connection iteration session request).flow =
          .finished := by
    intro inReply
    cases request with
    | none =>
        simp [served] at inReply
    | some request =>
        exact
          (serve_served connection iteration session
            request).replied.finished_of_bye inReply
  have turned := turn_turned connection iteration session request
  generalize served connection iteration session request = handled
    at turned finished
  generalize turn connection iteration session request = result
    at turned member ⊢
  cases turned with
  | again flow =>
      rw [flow] at finished
      cases finished member
  | proceeded flow streamed =>
      rcases List.mem_append.mp member with inReply | inMedia
      · rw [flow] at finished
        cases finished inReply
      · obtain ⟨_, _, _, _, isMedia⟩ := streamed.media inMedia
        rcases isMedia with isRtp | isRtcp
        · cases isRtp
        · cases isRtcp
  | finished flow =>
      rfl
  | failed error flow =>
      rw [flow] at finished
      cases finished member

/-! ## Iterations and runs -/

section Step

variable {connection : Connection}
variable {session after : Session}
variable {request : Option Request}
variable {iteration : Iteration}

/-- An iteration performs its turn up to a failing write. -/
theorem step_written
    (connection : Connection)
    (session : Session)
    (request : Option Request)
    (iteration : Iteration) :
    Written iteration.failure
      (turn connection iteration session request).1
      (turn connection iteration session request).2
      (step connection session request iteration) :=
  perform_written _ _ _

/-- An iteration that goes on has written its whole turn. -/
theorem step_running
    (running :
      (step connection session request iteration).next =
        .running after) :
    step connection session request iteration =
        { sends := (turn connection iteration session request).1
          torn := []
          next := .running after } ∧
      (turn connection iteration session request).2 = .running after := by
  have written := step_written connection session request iteration
  generalize step connection session request iteration = performed
    at written running
  cases written with
  | whole =>
      have stays :
          (turn connection iteration session request).2 =
            .running after :=
        running
      exact ⟨by rw [stays], stays⟩
  | cut =>
      cases running
  | muted _ count written delivery packet failing =>
      have finished :=
        turn_finished_of_bye (List.mem_of_getElem? failing)
      rw [finished] at running
      cases running

/-- Writes are lost only behind the ones that are made. -/
theorem prefix_step_sends
    (connection : Connection)
    (session : Session)
    (request : Option Request)
    (iteration : Iteration) :
    (step connection session request iteration).sends <+:
      (turn connection iteration session request).1 := by
  have written := step_written connection session request iteration
  generalize step connection session request iteration = performed
    at written
  cases written with
  | whole =>
      exact List.prefix_refl _
  | cut =>
      exact List.take_prefix _ _
  | muted =>
      exact List.take_prefix _ _

end Step

/-- One iteration with what it finds and does. -/
def Transition.of
    (connection : Connection)
    (session : Session)
    (request : Option Request)
    (iteration : Iteration) : Transition where
  before := session
  request := request
  iteration := iteration
  performed := step connection session request iteration

/-- The runs of the loop from a session. -/
inductive Runs
    (connection : Connection) :
    Session → List Transition → Next → Prop where
  | nil (session : Session) :
      Runs connection session [] (.running session)
  | closed
      (session : Session)
      (request : Option Request)
      (iteration : Iteration)
      (result : Except IoError Unit)
      (closes :
        (step connection session request iteration).next =
          .closed result) :
      Runs connection session
        [.of connection session request iteration] (.closed result)
  | running
      (session : Session)
      (request : Option Request)
      (iteration : Iteration)
      (after : Session)
      (goesOn :
        (step connection session request iteration).next =
          .running after)
      {later : List Transition}
      {next : Next}
      (rest : Runs connection after later next) :
      Runs connection session
        (.of connection session request iteration :: later) next

/-- Every run of the loop is one of these. -/
theorem run_runs
    (connection : Connection)
    (session : Session)
    (inputs : List (Option Request × Iteration)) :
    Runs connection session
      (run connection session inputs).1
      (run connection session inputs).2 := by
  induction inputs generalizing session with
  | nil =>
      exact .nil session
  | cons input later inductionHypothesis =>
      obtain ⟨request, iteration⟩ := input
      cases next : (step connection session request iteration).next with
      | running after =>
          simp only [run, next]
          exact .running session request iteration after next
            (inductionHypothesis after)
      | closed result =>
          simp only [run, next]
          exact .closed session request iteration result next

/--
What every iteration has from a state that satisfies an invariant, every
transition of a run from such a state has.
-/
theorem Runs.forall_transitions
    {connection : Connection}
    (holds : Session → Prop)
    {property : Transition → Prop}
    (preserved :
      ∀ {session request iteration after},
        holds session →
        (step connection session request iteration).next =
          .running after →
        holds after)
    (each :
      ∀ {session request iteration},
        holds session →
        property (.of connection session request iteration))
    {session : Session}
    {transitions : List Transition}
    {next : Next}
    (runs : Runs connection session transitions next)
    (start : holds session) :
    ∀ transition ∈ transitions, property transition := by
  induction runs with
  | nil session =>
      simp
  | closed session request iteration result closes =>
      intro transition member
      rw [List.mem_singleton.mp member]
      exact each start
  | running session request iteration after goesOn rest
      inductionHypothesis =>
      intro transition member
      rcases List.mem_cons.mp member with isFirst | inRest
      · rw [isFirst]
        exact each start
      · exact inductionHypothesis (preserved start goesOn) transition
          inRest

end CamRtsp
