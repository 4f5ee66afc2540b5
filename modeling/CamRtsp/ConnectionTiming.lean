import CamRtsp.ControlStream

namespace CamRtsp

open RustText

/-!
# The clocks of a connection

`handle` keeps the times of the last request, of the last access unit it sent
and of the last sender report.  They are read off the run here, and with them
why a connection ends and when a sender report goes out.  The clock itself may
do what it likes.
-/

/-! ## What a run shows -/

/-- The last value that a run shows, or the one it begins with. -/
def latest
    (shows : Transition → Option α)
    (first : α)
    (transitions : List Transition) : α :=
  (transitions.filterMap shows).getLastD first

/-- One iteration more. -/
theorem latest_concat
    (shows : Transition → Option α)
    (first : α)
    (transitions : List Transition)
    (transition : Transition) :
    latest shows first (transitions ++ [transition]) =
      (shows transition).getD (latest shows first transitions) := by
  rw [latest, List.filterMap_append]
  cases shown : shows transition with
  | none =>
      simp [shown, latest]
  | some value =>
      simp [shown]

/-- A write is a sender report. -/
def Send.isReport : Send → Bool
  | .response _ => false
  | .rtp _ _ => false
  | .rtcp _ _ => true
  | .bye _ _ => false

namespace Transition

variable (connection : Connection)
variable (transition : Transition)

/-- Where the iteration sends media: it gets there, and a viewer plays. -/
def playing? : Option Delivery :=
  if (transition.handled connection).flow = .proceed ∧
      (transition.handled connection).session.subscription.isSome then
    (transition.handled connection).session.delivery
  else
    none

/-- When the request of the iteration was read. -/
def requestedAt? : Option Instant :=
  transition.request.map fun _ => transition.iteration.controlAt

/-- The timestamp of the access unit it sends, and the time behind it. -/
def sentUnit? : Option (UInt32 × Instant) :=
  (transition.playing? connection).bind fun _ =>
    transition.iteration.received.map fun accessUnit =>
      (accessUnit.pts90khz, transition.iteration.sentAt)

/-- The time behind the sender report it sends. -/
def reportedAt? : Option Instant :=
  (transition.performed.sends.find? Send.isReport).map fun _ =>
    transition.iteration.reportedAt

end Transition

/-- When the last request was read, or the connection was opened. -/
def lastRequest (opening : Opening) (transitions : List Transition) :
    Instant :=
  latest Transition.requestedAt? opening.controlAt transitions

/-- The last access unit that was sent, before a pause or behind it. -/
def lastUnit (connection : Connection) (transitions : List Transition) :
    Option (UInt32 × Instant) :=
  latest (fun transition => (transition.sentUnit? connection).map some) none
    transitions

/-- When the last sender report was sent, or the connection was opened. -/
def lastReport (opening : Opening) (transitions : List Transition) :
    Instant :=
  latest Transition.reportedAt? opening.reportAt transitions

/--
The sender report that is due in an iteration: where it goes, and the access
unit its timestamp is counted from.
-/
def reportDue?
    (connection : Connection)
    (opening : Opening)
    (earlier : List Transition)
    (transition : Transition) : Option (Delivery × UInt32 × Instant) :=
  (transition.playing? connection).bind fun delivery =>
    (lastUnit connection (earlier ++ [transition])).bind fun unit =>
      if seconds 5 ≤
          elapsed (lastReport opening earlier)
            transition.iteration.reportAt then
        some (delivery, unit)
      else
        none

/-- The report; the time since the access unit is added in 90 kHz ticks. -/
def Transition.report
    (connection : Connection)
    (transition : Transition)
    (packets octets : UInt32)
    (delivery : Delivery)
    (unit : UInt32 × Instant) : Send :=
  .rtcp delivery
    (rtcpSenderReport transition.iteration.wallClock connection.ssrc
      (unit.1 +
        UInt32.ofNat
          (elapsed unit.2 transition.iteration.elapsedAt / 1000 * 90 /
            1000))
      packets octets)

/-- The variables of the loop hold what the run so far shows. -/
structure Clocked
    (connection : Connection)
    (opening : Opening)
    (earlier : List Transition)
    (session : Session) : Prop where
  control : session.lastControl = lastRequest opening earlier
  timestamp : session.lastTimestamp = lastUnit connection earlier
  report : session.lastReport = lastReport opening earlier

section Step

variable {connection : Connection}
variable {opening : Opening}
variable {earlier : List Transition}
variable {session after : Session}
variable {request : Option Request}
variable {iteration : Iteration}

/-! ## Requests -/

/-- The method match does not touch the times. -/
theorem Dispatched.clocks
    {request : Request}
    {handled : Handled}
    (dispatched :
      Dispatched connection iteration session request handled) :
    handled.session.lastControl = session.lastControl ∧
      handled.session.lastTimestamp = session.lastTimestamp ∧
        handled.session.lastReport = session.lastReport := by
  cases dispatched <;> exact ⟨rfl, rfl, rfl⟩

/-- A request sets the time of the last request, also when it is refused. -/
theorem served_clocks :
    (served connection iteration session request).session.lastControl =
        (request.map fun _ => iteration.controlAt).getD
          session.lastControl ∧
      (served connection iteration session request).session.lastTimestamp =
          session.lastTimestamp ∧
        (served connection iteration session request).session.lastReport =
          session.lastReport := by
  cases request with
  | none =>
      exact ⟨rfl, rfl, rfl⟩
  | some request =>
      have outcome := serve_served connection iteration session request
      simp only [served, Option.map_some, Option.getD_some]
      generalize serve connection iteration session request = handled
        at outcome
      cases outcome with
      | unauthorized =>
          exact ⟨rfl, rfl, rfl⟩
      | refused =>
          exact ⟨rfl, rfl, rfl⟩
      | admitted _ dispatched =>
          exact dispatched.clocks

/-- The request part sends no sender report. -/
theorem not_isReport_of_mem_served
    {send : Send}
    (member : send ∈ (served connection iteration session request).sends) :
    send.isReport = false := by
  cases request with
  | none =>
      cases member
  | some request =>
      have replied :=
        (serve_served connection iteration session request).replied
      change send ∈ (serve connection iteration session request).sends
        at member
      generalize serve connection iteration session request = handled
        at replied member
      obtain ⟨_, sends, flow⟩ := handled
      cases replied with
      | once response =>
          rw [List.mem_singleton.mp member]
          rfl
      | farewell response _ delivery =>
          rcases List.mem_cons.mp member with rfl | isBye
          · rfl
          · rw [List.mem_singleton.mp isBye]
            rfl
      | failed =>
          cases member

/-! ## Media -/

variable {delivery : Delivery}

/-- The packets of an access unit set the time of the last one. -/
theorem sendMedia_clocks :
    (sendMedia connection iteration session delivery).2.lastTimestamp =
        (iteration.received.map fun accessUnit =>
          (accessUnit.pts90khz, iteration.sentAt)).or
          session.lastTimestamp ∧
      (sendMedia connection iteration session delivery).2.lastReport =
          session.lastReport ∧
        ∀ send ∈ (sendMedia connection iteration session delivery).1,
          send.isReport = false := by
  unfold sendMedia
  cases iteration.received with
  | none =>
      exact ⟨rfl, rfl, nofun⟩
  | some accessUnit =>
      refine ⟨rfl, rfl, ?_⟩
      intro send member
      obtain ⟨packet, _, rfl⟩ := List.mem_map.mp member
      rfl

/-- A sender report, five seconds after the last one and only behind media. -/
inductive Reported
    (connection : Connection)
    (iteration : Iteration)
    (session : Session)
    (delivery : Delivery) : List Send × Session → Prop where
  | due
      (timestamp : UInt32)
      (sent : Instant)
      (last : session.lastTimestamp = some (timestamp, sent))
      (late : seconds 5 ≤ elapsed session.lastReport iteration.reportAt) :
      Reported connection iteration session delivery
        ([.rtcp delivery
            (rtcpSenderReport iteration.wallClock connection.ssrc
              (timestamp +
                UInt32.ofNat
                  (elapsed sent iteration.elapsedAt / 1000 * 90 / 1000))
              session.counters.packets session.counters.octets)],
          { session with lastReport := iteration.reportedAt })
  | silent
      (notDue :
        session.lastTimestamp = none ∨
          ¬ seconds 5 ≤ elapsed session.lastReport iteration.reportAt) :
      Reported connection iteration session delivery ([], session)

/-- `sendReport` has no other outcomes. -/
theorem sendReport_reported :
    Reported connection iteration session delivery
      (sendReport connection iteration session delivery) := by
  unfold sendReport
  split
  · rename_i timestamp sent last
    split
    · exact .due timestamp sent last ‹_›
    · exact .silent (.inr ‹_›)
  · exact .silent (.inl ‹_›)

/-! ## Turns -/

/-- An iteration that answers and goes on at once sends no media. -/
theorem playing?_of_flow
    (flow :
      (served connection iteration session request).flow ≠ .proceed) :
    (Transition.of connection session request iteration).playing?
      connection = none :=
  if_neg fun both => flow both.1

/-- Nobody plays without a subscription and a delivery. -/
theorem playing?_of_silent
    (silent :
      (served connection iteration session request).session.subscription =
          none ∨
        (served connection iteration session request).session.delivery =
          none) :
    (Transition.of connection session request iteration).playing?
      connection = none := by
  unfold Transition.playing?
  split
  · rename_i both
    rcases silent with unsubscribed | undelivered
    · have subscribed :
          (served connection iteration session
            request).session.subscription.isSome = true :=
        both.2
      rw [unsubscribed] at subscribed
      cases subscribed
    · exact undelivered
  · rfl

/-- The iteration plays to the delivery of the viewer. -/
theorem playing?_of_playing
    {subscription : SubscriptionId}
    (flow : (served connection iteration session request).flow = .proceed)
    (subscribed :
      (served connection iteration session request).session.subscription =
        some subscription)
    (delivered :
      (served connection iteration session request).session.delivery =
        some delivery) :
    (Transition.of connection session request iteration).playing?
      connection = some delivery := by
  have isSome :
      (served connection iteration session
        request).session.subscription.isSome = true := by
    rw [subscribed]
    rfl
  exact (if_pos ⟨flow, isSome⟩).trans delivered

/-- The time of the last request, one iteration later. -/
theorem lastRequest_concat (transition : Transition) :
    lastRequest opening (earlier ++ [transition]) =
      transition.requestedAt?.getD (lastRequest opening earlier) :=
  latest_concat ..

/-- The time of the last sender report, one iteration later. -/
theorem lastReport_concat (transition : Transition) :
    lastReport opening (earlier ++ [transition]) =
      transition.reportedAt?.getD (lastReport opening earlier) :=
  latest_concat ..

/-- The last access unit, one iteration later. -/
theorem lastUnit_concat (transition : Transition) :
    lastUnit connection (earlier ++ [transition]) =
      (transition.sentUnit? connection).or
        (lastUnit connection earlier) := by
  rw [lastUnit, latest_concat]
  cases transition.sentUnit? connection <;> rfl

/-- What a turn does with the times of a clocked session. -/
structure TurnClocks
    (connection : Connection)
    (opening : Opening)
    (earlier : List Transition)
    (transition : Transition)
    (sends : List Send)
    (next : Next) : Prop where
  reports :
    ∃ packets octets,
      sends.filter Send.isReport =
        (reportDue? connection opening earlier transition).toList.map
          fun due => transition.report connection packets octets due.1 due.2
  clocks :
    ∀ after, next = .running after →
      after.lastControl = lastRequest opening (earlier ++ [transition]) ∧
        after.lastTimestamp =
            lastUnit connection (earlier ++ [transition]) ∧
          after.lastReport =
            (reportDue? connection opening earlier transition).elim
              (lastReport opening earlier)
              fun _ => transition.iteration.reportedAt

/-- An iteration that sends no media leaves the times of media alone. -/
theorem TurnClocks.of_silent
    {transition : Transition}
    {sends : List Send}
    {next : Next}
    (silent : transition.playing? connection = none)
    (noReport : sends.filter Send.isReport = [])
    (clocks :
      ∀ after, next = .running after →
        after.lastControl =
            lastRequest opening (earlier ++ [transition]) ∧
          after.lastTimestamp = lastUnit connection earlier ∧
            after.lastReport = lastReport opening earlier) :
    TurnClocks connection opening earlier transition sends next := by
  have notDue : reportDue? connection opening earlier transition = none := by
    rw [reportDue?, silent]
    rfl
  refine ⟨⟨0, 0, ?_⟩, ?_⟩
  · rw [notDue, noReport]
    rfl
  · intro after goesOn
    rw [notDue, lastUnit_concat, Transition.sentUnit?, silent]
    exact clocks after goesOn

/-- An iteration of a playing viewer sends media, and a report when due. -/
theorem TurnClocks.of_playing
    {middle : Session}
    {sends : List Send}
    {media report : List Send × Session}
    (playing :
      (Transition.of connection session request iteration).playing?
        connection = some delivery)
    (control :
      middle.lastControl =
        lastRequest opening
          (earlier ++ [.of connection session request iteration]))
    (timestamp : middle.lastTimestamp = lastUnit connection earlier)
    (lastSent : middle.lastReport = lastReport opening earlier)
    (noReport : sends.filter Send.isReport = [])
    (mediaEq : sendMedia connection iteration middle delivery = media)
    (reportEq :
      sendReport connection iteration media.2 delivery = report) :
    TurnClocks connection opening earlier
      (.of connection session request iteration)
      (sends ++ (media.1 ++ report.1)) (.running report.2) := by
  have unit :
      media.2.lastTimestamp =
        lastUnit connection
          (earlier ++ [.of connection session request iteration]) := by
    rw [← mediaEq, sendMedia_clocks.1, timestamp, lastUnit_concat,
      Transition.sentUnit?, playing]
    rfl
  have sameReport : media.2.lastReport = lastReport opening earlier := by
    rw [← mediaEq, sendMedia_clocks.2.1, lastSent]
  have sameControl :
      report.2.lastControl =
        lastRequest opening
          (earlier ++ [.of connection session request iteration]) := by
    rw [← reportEq, sendReport_sameControl.lastControl, ← mediaEq,
      sendMedia_sameControl.lastControl, control]
  have noMedia : media.1.filter Send.isReport = [] := by
    rw [List.filter_eq_nil_iff, ← mediaEq]
    intro send member
    rw [sendMedia_clocks.2.2 send member]
    exact Bool.false_ne_true
  have reported :
      Reported connection iteration media.2 delivery report :=
    reportEq ▸ sendReport_reported
  have due :
      reportDue? connection opening earlier
          (.of connection session request iteration) =
        media.2.lastTimestamp.bind fun unit =>
          if seconds 5 ≤
              elapsed media.2.lastReport iteration.reportAt then
            some (delivery, unit)
          else
            none := by
    rw [reportDue?, playing, unit, sameReport]
    rfl
  have sentReports :
      (sends ++ (media.1 ++ report.1)).filter Send.isReport =
        report.1.filter Send.isReport := by
    rw [List.filter_append, List.filter_append, noReport, noMedia]
    rfl
  cases reported with
  | due timestamp sent last late =>
      rw [last, Option.bind_some, if_pos late] at due
      refine
        ⟨⟨media.2.counters.packets, media.2.counters.octets, ?_⟩, ?_⟩
      · rw [sentReports, due]
        rfl
      · intro after goesOn
        cases goesOn
        rw [due]
        exact ⟨sameControl, unit, rfl⟩
  | silent notDue =>
      have nothing :
          reportDue? connection opening earlier
            (.of connection session request iteration) = none := by
        rw [due]
        rcases notDue with unsent | early
        · rw [unsent]
          rfl
        · cases media.2.lastTimestamp with
          | none =>
              rfl
          | some unit =>
              rw [Option.bind_some, if_neg early]
      refine ⟨⟨0, 0, ?_⟩, ?_⟩
      · rw [sentReports, nothing]
        rfl
      · intro after goesOn
        cases goesOn
        rw [nothing]
        exact ⟨sameControl, unit, sameReport⟩

/-- Every turn does this with the times. -/
theorem Clocked.turn
    (clocked : Clocked connection opening earlier session) :
    TurnClocks connection opening earlier
      (.of connection session request iteration)
      (turn connection iteration session request).1
      (turn connection iteration session request).2 := by
  have turned := turn_turned connection iteration session request
  have control :
      (served connection iteration session request).session.lastControl =
        lastRequest opening
          (earlier ++ [.of connection session request iteration]) := by
    rw [lastRequest_concat, served_clocks.1, clocked.control]
    rfl
  have timestamp :
      (served connection iteration session request).session.lastTimestamp =
        lastUnit connection earlier :=
    served_clocks.2.1.trans clocked.timestamp
  have report :
      (served connection iteration session request).session.lastReport =
        lastReport opening earlier :=
    served_clocks.2.2.trans clocked.report
  have noReport :
      (served connection iteration session request).sends.filter
        Send.isReport = [] := by
    rw [List.filter_eq_nil_iff]
    intro send member
    rw [not_isReport_of_mem_served member]
    exact Bool.false_ne_true
  generalize CamRtsp.turn connection iteration session request = outcome
    at turned ⊢
  cases turned with
  | again flow =>
      refine .of_silent (playing?_of_flow (by simp [flow])) noReport ?_
      intro after goesOn
      cases goesOn
      exact ⟨control, timestamp, report⟩
  | finished flow =>
      exact .of_silent (playing?_of_flow (by simp [flow])) noReport nofun
  | failed error flow =>
      exact .of_silent (playing?_of_flow (by simp [flow])) noReport nofun
  | proceeded flow streamed =>
      cases streamed with
      | idle stopped error =>
          refine .of_silent (playing?_of_silent (.inl stopped)) ?_ nofun
          rw [List.append_nil, noReport]
      | waiting silent =>
          refine .of_silent (playing?_of_silent silent) ?_ ?_
          · rw [List.append_nil, noReport]
          · intro after goesOn
            cases goesOn
            exact ⟨control, timestamp, report⟩
      | playing subscription subscribed delivery delivered mediaEq
          reportEq =>
          exact .of_playing
            (playing?_of_playing flow subscribed delivered) control
            timestamp report noReport mediaEq reportEq

/-- An iteration that goes on keeps the times. -/
theorem Clocked.step
    (clocked : Clocked connection opening earlier session)
    (goesOn :
      (step connection session request iteration).next =
        .running after) :
    Clocked connection opening
      (earlier ++ [.of connection session request iteration]) after := by
  obtain ⟨performed, whole⟩ := step_running goesOn
  have turned : TurnClocks connection opening earlier
      (.of connection session request iteration) _ _ :=
    clocked.turn
  obtain ⟨control, timestamp, report⟩ := turned.clocks after whole
  refine ⟨control, timestamp, report.trans ?_⟩
  obtain ⟨packets, octets, reports⟩ := turned.reports
  have shown :
      (Transition.of connection session request
          iteration).performed.sends.find? Send.isReport =
        ((CamRtsp.turn connection iteration session
          request).1.filter Send.isReport).head? := by
    rw [List.head?_filter]
    exact congrArg (List.find? Send.isReport)
      (congrArg Performed.sends performed)
  rw [lastReport_concat, Transition.reportedAt?, shown, reports]
  cases reportDue? connection opening earlier
      (.of connection session request iteration) <;> rfl

/-! ## Ends -/

variable {result : Except IoError Unit}

/-- The error of a viewer that is silent for too long. -/
def idleSession : IoError where
  kind := .timedOut
  message := "idle RTSP session".toList

/-- Why an iteration ends its connection. -/
inductive Ends
    (connection : Connection)
    (opening : Opening)
    (earlier : List Transition)
    (transition : Transition) : Except IoError Unit → Prop where
  | tornDown
      (request : Request)
      (asked : transition.request = some request)
      (named : request.method = "TEARDOWN".toList)
      (admitted :
        Admitted connection transition.iteration transition.before request)
      (delivered : transition.before.delivery.isSome = true) :
      Ends connection opening earlier transition (.ok ())
  | unwritten
      (failure : SendFailure)
      (fails : transition.iteration.failure = some failure) :
      Ends connection opening earlier transition (.error failure.error)
  | unbound
      (request : Request)
      (asked : transition.request = some request)
      (named : request.method = "SETUP".toList)
      (error : IoError)
      (fails : transition.iteration.socketError = some error) :
      Ends connection opening earlier transition (.error error)
  | idle
      (stopped :
        (transition.handled connection).session.subscription = none)
      (late :
        seconds 30 <
          elapsed (lastRequest opening (earlier ++ [transition]))
            transition.iteration.idleAt) :
      Ends connection opening earlier transition (.error idleSession)

/-- A request fails only in SETUP, when its sockets have no address. -/
theorem socketError_of_failed
    {request : Request}
    {error : IoError}
    (failed :
      (dispatch connection iteration session request).flow =
        .failed error) :
    request.method = "SETUP".toList ∧
      iteration.socketError = some error := by
  have setUp :
      request.method = "SETUP".toList ∧ session.subscription = none := by
    have outcome := dispatch_dispatched connection iteration session request
    generalize dispatch connection iteration session request = handled
      at outcome failed
    cases outcome with
    | setUpFailed named stopped _ =>
        exact ⟨named, stopped⟩
    | _ =>
        cases failed
  refine ⟨setUp.1, ?_⟩
  have isSetup :
      dispatch connection iteration session request =
        setup connection iteration session request := by
    rw [dispatch, if_neg (by rw [setUp.1]; decide),
      if_neg (by rw [setUp.1]; decide), if_pos setUp]
  rw [isSetup, setup] at failed
  split at failed
  · split at failed
    · rename_i isError _
      cases failed
      exact isError
    · cases failed
  · cases failed

/-- The gates answer; what fails is behind them. -/
theorem serve_of_failed
    {request : Request}
    {error : IoError}
    (failed :
      (serve connection iteration session request).flow = .failed error) :
    serve connection iteration session request =
      dispatch connection iteration
        { session with lastControl := iteration.controlAt } request := by
  unfold serve at failed ⊢
  simp only at failed ⊢
  split at failed
  · cases failed
  split at failed
  · cases failed
  split at failed
  · cases failed
  rename_i accepted targeted rightSession
  rw [if_neg accepted, if_neg targeted, if_neg rightSession]

/-- The request that ends the connection in order. -/
theorem Ends.of_finished
    (finished :
      (served connection iteration session request).flow = .finished) :
    Ends connection opening earlier
      (.of connection session request iteration) (.ok ()) := by
  cases request with
  | none =>
      cases finished
  | some request =>
      have outcome := serve_served connection iteration session request
      change (serve connection iteration session request).flow = .finished
        at finished
      generalize serve connection iteration session request = handled
        at outcome finished
      cases outcome with
      | unauthorized =>
          cases finished
      | refused =>
          cases finished
      | admitted admitted dispatched =>
          cases dispatched with
          | tornDown named delivery delivered =>
              refine .tornDown request rfl named admitted ?_
              change session.delivery = some delivery at delivered
              exact Option.isSome_of_mem delivered
          | _ =>
              cases finished

/-- The request that ends the connection because its sockets are lost. -/
theorem Ends.of_failed
    {error : IoError}
    (failed :
      (served connection iteration session request).flow =
        .failed error) :
    Ends connection opening earlier
      (.of connection session request iteration) (.error error) := by
  cases request with
  | none =>
      cases failed
  | some request =>
      change (serve connection iteration session request).flow =
        .failed error at failed
      rw [serve_of_failed failed] at failed
      obtain ⟨named, fails⟩ := socketError_of_failed failed
      exact .unbound request rfl named error fails

/-- The media part ends only a connection that is idle. -/
theorem stream_closed
    (closes : (stream connection iteration session).2 = .closed result) :
    session.subscription = none ∧
      seconds 30 < elapsed session.lastControl iteration.idleAt ∧
        result = .error idleSession := by
  unfold stream at closes
  split at closes
  · rename_i stopped
    split at closes
    · rename_i late
      cases closes
      exact ⟨stopped, late, rfl⟩
    · cases closes
  · split at closes <;> cases closes

/-- A turn ends by its request or in its media part. -/
theorem turn_closed
    (closes :
      (turn connection iteration session request).2 = .closed result) :
    ((served connection iteration session request).flow = .finished ∧
        result = .ok ()) ∨
      (∃ error,
        (served connection iteration session request).flow =
            .failed error ∧
          result = .error error) ∨
        (stream connection iteration
            (served connection iteration session request).session).2 =
          .closed result := by
  unfold turn at closes
  simp only at closes
  split at closes
  · exact .inr (.inr closes)
  · cases closes
  · rename_i finished
    cases closes
    exact .inl ⟨finished, rfl⟩
  · rename_i error failed
    cases closes
    exact .inr (.inl ⟨error, failed, rfl⟩)

/-- An iteration ends with its turn or at a write that fails. -/
theorem perform_closed
    {failure : Option SendFailure}
    {sends : List Send}
    {next : Next}
    (closes : (perform failure sends next).next = .closed result) :
    next = .closed result ∨
      ∃ fails, failure = some fails ∧ result = .error fails.error := by
  unfold perform at closes
  split at closes
  · exact .inl closes
  · rename_i fails
    split at closes
    · exact .inl closes
    · simp only at closes
      split at closes
      · exact .inl closes
      · cases closes
        exact .inr ⟨fails, rfl, rfl⟩

/-- An iteration that ends the connection has one of the reasons. -/
theorem Clocked.ends
    (clocked : Clocked connection opening earlier session)
    (closes :
      (CamRtsp.step connection session request iteration).next =
        .closed result) :
    Ends connection opening earlier
      (.of connection session request iteration) result := by
  rcases perform_closed closes with ends | ⟨failure, fails, rfl⟩
  · rcases turn_closed ends with
      ⟨finished, rfl⟩ | ⟨error, failed, rfl⟩ | streamed
    · exact .of_finished finished
    · exact .of_failed failed
    · obtain ⟨stopped, late, rfl⟩ := stream_closed streamed
      refine .idle stopped ?_
      rw [lastRequest_concat, ← clocked.control]
      rw [served_clocks.1] at late
      exact late
  · exact .unwritten failure fails

/-- Nobody who has been silent for too long is kept. -/
theorem Clocked.kept
    (clocked : Clocked connection opening earlier session)
    (goesOn :
      (CamRtsp.step connection session request iteration).next =
        .running after)
    (stopped : after.subscription = none)
    (flow :
      (served connection iteration session request).flow = .proceed) :
    elapsed
        (lastRequest opening
          (earlier ++ [.of connection session request iteration]))
        iteration.idleAt ≤
      seconds 30 := by
  have whole := (step_running goesOn).2
  rw [CamRtsp.turn, flow] at whole
  change (stream connection iteration
      (served connection iteration session request).session).2 =
    .running after at whole
  rw [lastRequest_concat, ← clocked.control]
  have streamed := stream_streamed connection iteration
    (served connection iteration session request).session
  rw [← Prod.mk.eta (p := stream connection iteration
    (served connection iteration session request).session), whole]
    at streamed
  have unsubscribed :
      (served connection iteration session request).session.subscription =
        none :=
    streamed.sameControl.subscription.symm.trans stopped
  rw [stream, unsubscribed] at whole
  simp only at whole
  split at whole
  · cases whole
  · rename_i early
    rw [served_clocks.1] at early
    exact Nat.le_of_not_lt early

/-- An iteration sends the reports that are due, up to a failing write. -/
theorem Clocked.reports
    (clocked : Clocked connection opening earlier session) :
    ∃ packets octets,
      let due :=
        (reportDue? connection opening earlier
          (.of connection session request iteration)).toList.map
          fun due =>
            (Transition.of connection session request iteration).report
              connection packets octets due.1 due.2
      (CamRtsp.step connection session request iteration).sends.filter
          Send.isReport <+: due ∧
        ∀ after,
          (CamRtsp.step connection session request iteration).next =
            .running after →
          (CamRtsp.step connection session request
            iteration).sends.filter Send.isReport = due := by
  have turned : TurnClocks connection opening earlier
      (.of connection session request iteration) _ _ :=
    clocked.turn
  obtain ⟨packets, octets, reports⟩ := turned.reports
  refine ⟨packets, octets, ?_, ?_⟩
  · rw [← reports]
    exact (prefix_step_sends _ _ _ _).filter _
  · intro after goesOn
    rw [← reports, (step_running goesOn).1]

/-- A report in an iteration was five seconds behind the last one. -/
theorem late_of_reported
    {transition : Transition}
    {packets octets : UInt32}
    (reports :
      transition.performed.sends.filter Send.isReport <+:
        (reportDue? connection opening earlier transition).toList.map
          fun due => transition.report connection packets octets due.1 due.2)
    {reportedAt : Instant}
    (reported : transition.reportedAt? = some reportedAt) :
    seconds 5 ≤
      elapsed (lastReport opening earlier)
        transition.iteration.reportAt := by
  by_contra early
  have notDue : reportDue? connection opening earlier transition = none := by
    rw [reportDue?]
    cases transition.playing? connection with
    | none =>
        rfl
    | some delivery =>
        cases lastUnit connection (earlier ++ [transition]) with
        | none =>
            rfl
        | some unit =>
            exact if_neg early
  rw [notDue] at reports
  have nothing := List.prefix_nil.mp reports
  rw [Transition.reportedAt?, ← List.head?_filter, nothing] at reported
  cases reported

end Step

/-! ## Runs -/

section Runs

variable {connection : Connection}
variable {opening : Opening}
variable {before : List Transition}
variable {session : Session}
variable {transitions : List Transition}
variable {next : Next}

/-- The times are right at every iteration of a run. -/
theorem Runs.clocked
    (runs : Runs connection session transitions next)
    (clocked : Clocked connection opening before session)
    {earlier later : List Transition}
    {transition : Transition}
    (split : transitions = earlier ++ transition :: later) :
    transition =
        .of connection transition.before transition.request
          transition.iteration ∧
      Clocked connection opening (before ++ earlier) transition.before := by
  induction runs generalizing before earlier with
  | nil session =>
      cases earlier <;> cases split
  | closed session request iteration result closes =>
      cases earlier with
      | nil =>
          obtain ⟨rfl, _⟩ := List.cons.inj split
          rw [List.append_nil]
          exact ⟨rfl, clocked⟩
      | cons first rest =>
          obtain ⟨_, impossible⟩ := List.cons.inj split
          cases rest <;> cases impossible
  | running session request iteration after goesOn rest
      inductionHypothesis =>
      cases earlier with
      | nil =>
          obtain ⟨rfl, _⟩ := List.cons.inj split
          rw [List.append_nil]
          exact ⟨rfl, clocked⟩
      | cons first earlier =>
          obtain ⟨rfl, restEq⟩ := List.cons.inj split
          have continued :=
            inductionHypothesis (clocked.step goesOn) restEq
          rw [List.append_assoc] at continued
          exact continued

/-- `handle` ends with an iteration, or because nothing can be read. -/
theorem handle_closed
    {input : Bytes}
    {reads : List (ReadOutcome × Iteration)}
    {result : Except IoError Unit}
    (closes :
      (handle connection session input reads).2 = .closed result) :
    (∃ earlier transition,
        (handle connection session input reads).1 =
            earlier ++ [transition] ∧
          transition.performed.next = .closed result) ∨
      ∃ before read iteration after buffered error last,
        reads = before ++ (read, iteration) :: after ∧
          handle connection session input before =
              ((handle connection session input reads).1,
                .running last) ∧
            readControl read buffered = .error error ∧
              result = .error error := by
  induction reads generalizing session input with
  | nil =>
      cases closes
  | cons first later inductionHypothesis =>
      obtain ⟨read, iteration⟩ := first
      cases isRead : readControl read input with
      | error error =>
          simp only [handle, isRead] at closes ⊢
          cases closes
          exact .inr ⟨[], read, iteration, later, input, error, session,
            rfl, rfl, isRead, rfl⟩
      | ok answer =>
          obtain ⟨request, rest⟩ := answer
          cases performed :
              (step connection session request iteration).next with
          | running after =>
              simp only [handle, isRead, performed] at closes ⊢
              rcases inductionHypothesis closes with
                ⟨earlier, transition, isLast, ends⟩ |
                ⟨before, failing, lost, behind, buffered, error, last,
                  split, running, fails⟩
              · exact .inl
                  ⟨.of connection session request iteration :: earlier,
                    transition, congrArg (_ :: ·) isLast, ends⟩
              · refine .inr ⟨(read, iteration) :: before, failing, lost,
                  behind, buffered, error, last, congrArg (_ :: ·) split,
                  ?_, fails⟩
                simp only [handle, isRead, performed, running]
          | closed ended =>
              simp only [handle, isRead, performed] at closes ⊢
              refine .inl ⟨[], _, rfl, ?_⟩
              exact performed.trans closes

end Runs

/--
What a maintainer relies on.  A connection has one of the named ends, or its
reads fail; who does not play is not kept behind thirty seconds of silence; a
sender report goes out exactly when one is due, counted from the last access
unit; and when the clock does not run backwards between the test and the new
mark, so many reports take five seconds each.
-/
structure TimingRules
    (connection : Connection)
    (opening : Opening)
    (reads : List (ReadOutcome × Iteration)) : Prop where
  ended :
    ∀ result,
      (handle connection (.start opening) [] reads).2 = .closed result →
        (∃ earlier transition,
            (handle connection (.start opening) [] reads).1 =
                earlier ++ [transition] ∧
              Ends connection opening earlier transition result) ∨
          ∃ before read iteration after buffered error last,
            reads = before ++ (read, iteration) :: after ∧
              handle connection (.start opening) [] before =
                  ((handle connection (.start opening) [] reads).1,
                    .running last) ∧
                readControl read buffered = .error error ∧
                  result = .error error
  kept :
    ∀ earlier transition later after,
      (handle connection (.start opening) [] reads).1 =
          earlier ++ transition :: later →
        transition.performed.next = .running after →
          after.subscription = none →
            (transition.handled connection).flow = .proceed →
              elapsed (lastRequest opening (earlier ++ [transition]))
                  transition.iteration.idleAt ≤
                seconds 30
  reports :
    ∀ earlier transition later,
      (handle connection (.start opening) [] reads).1 =
          earlier ++ transition :: later →
        ∃ packets octets,
          let due :=
            (reportDue? connection opening earlier
              transition).toList.map fun due =>
                transition.report connection packets octets due.1 due.2
          transition.performed.sends.filter Send.isReport <+: due ∧
            ∀ after, transition.performed.next = .running after →
              transition.performed.sends.filter Send.isReport = due
  spaced :
    (∀ transition ∈ (handle connection (.start opening) [] reads).1,
      transition.iteration.reportAt ≤ transition.iteration.reportedAt) →
      ∀ earlier later,
        (handle connection (.start opening) [] reads).1 =
            earlier ++ later →
          opening.reportAt +
              seconds 5 *
                (earlier.filterMap Transition.reportedAt?).length ≤
            lastReport opening earlier

/-- The rules hold in every run of a connection. -/
theorem timing_of_a_connection
    (connection : Connection)
    (opening : Opening)
    (reads : List (ReadOutcome × Iteration)) :
    TimingRules connection opening reads := by
  obtain ⟨⟨next, runs⟩, _⟩ :=
    handle_runs connection (.start opening) [] reads
  have start : Clocked connection opening [] (.start opening) :=
    ⟨rfl, rfl, rfl⟩
  have reached {earlier later : List Transition} {transition : Transition}
      (split :
        (handle connection (.start opening) [] reads).1 =
          earlier ++ transition :: later) :
      transition =
          .of connection transition.before transition.request
            transition.iteration ∧
        Clocked connection opening earlier transition.before :=
    runs.clocked start split
  have reports {earlier later : List Transition} {transition : Transition}
      (split :
        (handle connection (.start opening) [] reads).1 =
          earlier ++ transition :: later) :
      ∃ packets octets,
        let due :=
          (reportDue? connection opening earlier
            transition).toList.map fun due =>
              transition.report connection packets octets due.1 due.2
        transition.performed.sends.filter Send.isReport <+: due ∧
          ∀ after, transition.performed.next = .running after →
            transition.performed.sends.filter Send.isReport = due := by
    obtain ⟨isOf, clocked⟩ := reached split
    rw [isOf]
    exact clocked.reports
  refine ⟨?_, ?_, fun _ _ _ => reports, ?_⟩
  · intro result closes
    refine (handle_closed closes).imp_left ?_
    rintro ⟨earlier, transition, isLast, ends⟩
    obtain ⟨isOf, clocked⟩ := reached isLast
    refine ⟨earlier, transition, isLast, ?_⟩
    rw [isOf] at ends ⊢
    exact clocked.ends ends
  · intro earlier transition later after split goesOn stopped flow
    obtain ⟨isOf, clocked⟩ := reached split
    rw [isOf] at goesOn flow ⊢
    exact clocked.kept goesOn stopped flow
  · intro inOrder earlier
    induction earlier using List.reverseRecOn with
    | nil =>
        intro later _
        exact Nat.le_refl _
    | append_singleton earlier transition inductionHypothesis =>
        intro later split
        rw [List.append_assoc] at split
        have before := inductionHypothesis _ split
        rw [lastReport_concat, List.filterMap_append]
        cases reported : transition.reportedAt? with
        | none =>
            simpa [reported] using before
        | some reportedAt =>
            obtain ⟨packets, octets, isPrefix, _⟩ := reports split
            have late := late_of_reported isPrefix reported
            have ordered := inOrder transition (by rw [split]; simp)
            have isMark : transition.iteration.reportedAt = reportedAt := by
              rw [Transition.reportedAt?, Option.map_eq_some_iff] at reported
              obtain ⟨_, _, isMark⟩ := reported
              exact isMark
            have behind :
                lastReport opening earlier ≤
                  transition.iteration.reportAt :=
              Nat.le_of_lt (Nat.lt_of_sub_pos
                (Nat.lt_of_lt_of_le (by decide) late))
            simp only [reported, List.filterMap_cons, List.filterMap_nil,
              List.length_append, List.length_singleton, Option.getD_some,
              Nat.mul_succ]
            calc
              opening.reportAt +
                    (seconds 5 *
                        (earlier.filterMap
                          Transition.reportedAt?).length +
                      seconds 5) =
                  opening.reportAt +
                      seconds 5 *
                        (earlier.filterMap
                          Transition.reportedAt?).length +
                    seconds 5 :=
                (Nat.add_assoc ..).symm
              _ ≤ lastReport opening earlier + seconds 5 :=
                Nat.add_le_add_right before _
              _ ≤ transition.iteration.reportAt :=
                Nat.add_le_of_le_sub' behind late
              _ ≤ reportedAt := isMark ▸ ordered

end CamRtsp
