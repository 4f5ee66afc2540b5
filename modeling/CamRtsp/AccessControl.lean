import CamRtsp.SessionMachine

namespace CamRtsp

open RustText

/-!
# No access without the password

With credentials configured, a request is served only when its Authorization
header proves the password, and until the first such request a connection
holds no resources and gives nothing away.
-/

/-! ## Nonces -/

/-- The same Digest parameters answer to one nonce only. -/
theorem DigestProof.nonce_eq
    {crates otherCrates : Crates}
    {credentials otherCredentials : Credentials}
    {auth otherAuth : AuthState}
    {now otherNow : Instant}
    {request otherRequest : Request}
    {values : TextMap}
    {algorithm otherAlgorithm : Text}
    (proof :
      DigestProof crates credentials auth now request values algorithm)
    (otherProof :
      DigestProof otherCrates otherCredentials otherAuth otherNow
        otherRequest values otherAlgorithm) :
    otherAuth.nonce = auth.nonce :=
  Option.some.inj (otherProof.nonce.symm.trans proof.nonce)

/-- A Digest header that is accepted twice was made for the same nonce. -/
theorem ProvesPassword.nonce_eq
    {crates otherCrates : Crates}
    {credentials otherCredentials : Credentials}
    {auth otherAuth : AuthState}
    {now otherNow : Instant}
    {request otherRequest : Request}
    {parameters : Text}
    (isDigest :
      request.header "authorization" =
        some ("Digest ".toList ++ parameters))
    (sameHeader :
      otherRequest.header "authorization" =
        request.header "authorization")
    (proof : ProvesPassword crates credentials auth now request)
    (otherProof :
      ProvesPassword otherCrates otherCredentials otherAuth otherNow
        otherRequest) :
    otherAuth.nonce = auth.nonce := by
  obtain ⟨_, mine⟩ := proof.digestProof isDigest
  obtain ⟨_, theirs⟩ :=
    otherProof.digestProof (sameHeader.trans isDigest)
  exact mine.nonce_eq theirs

/-! ## Requests -/

/-- Nothing is negotiated and nothing is subscribed. -/
structure Session.Bare (session : Session) : Prop where
  delivery : session.delivery = none
  subscription : session.subscription = none

/-- A write that only acknowledges: a response without a body. -/
def Send.Plain (send : Send) : Prop :=
  ∃ reply : Response, send = .response reply ∧ reply.body = []

section Request

variable {connection : Connection}
variable {iteration : Iteration}
variable {session : Session}
variable {request : Request}
variable {handled : Handled}

theorem answer_plain
    {status : Status}
    {headers : List Text}
    {flow : Flow} :
    ∀ send ∈ (answer session request status headers flow).sends,
      send.Plain := by
  intro send member
  rw [List.mem_singleton.mp member]
  exact ⟨_, rfl, rfl⟩

/-- Only an authorized request is answered with anything but 401. -/
theorem Served.authorized_of_answered
    (served : Served connection iteration session request handled)
    (notOptions : request.method ≠ "OPTIONS".toList)
    {reply : Response}
    (member : .response reply ∈ handled.sends)
    (answered : reply.status ≠ .unauthorized) :
    authorized connection.server.crates request
        connection.server.credentials session.auth
        iteration.checkedAt = true := by
  cases served with
  | unauthorized _ _ =>
      exact (answered (status_of_mem_answer member)).elim
  | refused accepted _ _ =>
      exact accepted.resolve_left notOptions
  | admitted admitted _ =>
      exact admitted.authorized.resolve_left notOptions

/-- Behind the gates nothing is challenged. -/
theorem Dispatched.status_ne_unauthorized
    (dispatched :
      Dispatched connection iteration session request handled)
    {reply : Response}
    (member : .response reply ∈ handled.sends) :
    reply.status ≠ .unauthorized := by
  intro challenged
  cases dispatched with
  | described _ codec _ =>
      simp only [List.mem_singleton, Send.response.injEq] at member
      rw [member] at challenged
      cases challenged
  | setUpFailed _ _ _ =>
      cases member
  | tornDown _ delivery _ =>
      simp only [teardown, answer, List.cons_append, List.nil_append,
        List.mem_cons, Send.response.injEq, List.not_mem_nil, or_false,
        reduceCtorEq] at member
      rw [member] at challenged
      cases challenged
  | _ =>
      rw [status_of_mem_answer member] at challenged
      cases challenged

/-- A challenge is the refusal of a request that is not authorized. -/
theorem Served.refusal_of_challenged
    (served : Served connection iteration session request handled)
    {reply : Response}
    (member : .response reply ∈ handled.sends)
    (challenged : reply.status = .unauthorized) :
    authorized connection.server.crates request
          connection.server.credentials session.auth
          iteration.checkedAt = false ∧
      handled =
        answer
          { session with
            lastControl := iteration.controlAt
            auth := renewed iteration session.auth }
          request .unauthorized
          (challenges (renewed iteration session.auth).nonce) .again := by
  cases served with
  | unauthorized _ rejected =>
      exact ⟨rejected, rfl⟩
  | refused _ status failing =>
      rw [status_of_mem_answer member] at challenged
      subst challenged
      rcases failing with isNotFound | isSessionNotFound
      · cases isNotFound
      · cases isSessionNotFound
  | admitted _ dispatched =>
      have notChallenge := dispatched.status_ne_unauthorized member
      exact (notChallenge challenged).elim

/-- The nonce behind a challenge is the renewed one. -/
theorem Served.auth_of_challenged
    (served : Served connection iteration session request handled)
    {reply : Response}
    (member : .response reply ∈ handled.sends)
    (challenged : reply.status = .unauthorized) :
    handled.session.auth = renewed iteration session.auth := by
  obtain ⟨_, rfl⟩ := served.refusal_of_challenged member challenged
  rfl

/-- A challenge offers the nonce that the next answer must use. -/
theorem Served.challenge_offers_nonce
    (served : Served connection iteration session request handled)
    {reply : Response}
    (member : .response reply ∈ handled.sends)
    (challenged : reply.status = .unauthorized) :
    reply.headers = challenges handled.session.auth.nonce := by
  obtain ⟨_, rfl⟩ := served.refusal_of_challenged member challenged
  simp only [answer, List.mem_singleton, Send.response.injEq] at member
  rw [member]
  rfl

/-- An OPTIONS request is only acknowledged. -/
theorem Dispatched.options_plain
    (dispatched :
      Dispatched connection iteration session request handled)
    (options : request.method = "OPTIONS".toList) :
    handled.session = session ∧ ∀ send ∈ handled.sends, send.Plain := by
  cases dispatched with
  | options _ =>
      exact ⟨rfl, answer_plain⟩
  | notValid =>
      exact ⟨rfl, answer_plain⟩
  | described named _ _ =>
      exact absurd (options.symm.trans named) (by decide)
  | unavailable named _ =>
      exact absurd (options.symm.trans named) (by decide)
  | setUp named _ _ _ _ _ =>
      exact absurd (options.symm.trans named) (by decide)
  | setUpFailed named _ _ =>
      exact absurd (options.symm.trans named) (by decide)
  | unsupported named _ =>
      exact absurd (options.symm.trans named) (by decide)
  | played named _ =>
      exact absurd (options.symm.trans named) (by decide)
  | paused named _ =>
      exact absurd (options.symm.trans named) (by decide)
  | parameters named =>
      exact absurd (options.symm.trans named) (by decide)
  | tornDown named _ _ =>
      exact absurd (options.symm.trans named) (by decide)

/-- Without authorization a request gains nothing. -/
theorem Served.bare_of_unauthorized
    (served : Served connection iteration session request handled)
    (bare : session.Bare)
    (rejected :
      authorized connection.server.crates request
        connection.server.credentials session.auth
        iteration.checkedAt = false) :
    handled.session.Bare ∧ ∀ send ∈ handled.sends, send.Plain := by
  cases served with
  | unauthorized _ _ =>
      exact ⟨⟨bare.delivery, bare.subscription⟩, answer_plain⟩
  | refused _ _ _ =>
      exact ⟨⟨bare.delivery, bare.subscription⟩, answer_plain⟩
  | admitted admitted dispatched =>
      have options : request.method = "OPTIONS".toList := by
        apply admitted.authorized.resolve_right
        rw [rejected]
        exact Bool.false_ne_true
      obtain ⟨sessionEq, plain⟩ := dispatched.options_plain options
      rw [sessionEq]
      exact ⟨⟨bare.delivery, bare.subscription⟩, plain⟩

end Request

/-! ## Iterations -/

namespace Transition

/-- The request of the iteration proves the password. -/
def Proves
    (connection : Connection)
    (credentials : Credentials)
    (transition : Transition) : Prop :=
  ∃ request ∈ transition.request,
    ProvesPassword connection.server.crates credentials
      transition.before.auth transition.iteration.checkedAt request

/-- The writes of the iteration, whether or not one of them fails. -/
def attempts
    (connection : Connection)
    (transition : Transition) : List Send :=
  (turn connection transition.iteration transition.before
    transition.request).1

/-- No resource is held at any point, and all writes only acknowledge. -/
structure GivesNothing
    (connection : Connection)
    (transition : Transition) : Prop where
  before : transition.before.Bare
  behindRequest : (transition.handled connection).session.Bare
  after : ∀ after ∈ transition.performed.next.session?, after.Bare
  writes : ∀ send ∈ transition.attempts connection, send.Plain

end Transition

section Iteration

variable {connection : Connection}
variable {credentials : Credentials}
variable {iteration : Iteration}
variable {session after : Session}
variable {request : Option Request}

/-- A request that proves nothing is not authorized. -/
theorem unauthorized_of_not_proves
    (configured : connection.server.credentials = some credentials)
    {asked : Request}
    (unproven :
      ¬ (Transition.of connection session (some asked) iteration).Proves
        connection credentials) :
    authorized connection.server.crates asked
        connection.server.credentials session.auth
        iteration.checkedAt = false := by
  rw [configured, Bool.eq_false_iff]
  intro accepted
  exact unproven ⟨asked, rfl, authorized_iff.mp accepted⟩

/-- Without a proof, the request part gains nothing. -/
theorem served_bare
    (configured : connection.server.credentials = some credentials)
    (bare : session.Bare)
    (unproven :
      ¬ (Transition.of connection session request iteration).Proves
        connection credentials) :
    (served connection iteration session request).session.Bare ∧
      ∀ send ∈ (served connection iteration session request).sends,
        send.Plain := by
  cases request with
  | none =>
      exact ⟨bare, by simp [served]⟩
  | some asked =>
      exact (serve_served connection iteration session
        asked).bare_of_unauthorized bare
          (unauthorized_of_not_proves configured unproven)

theorem SameControl.bare
    {before after : Session}
    (same : SameControl before after)
    (bare : before.Bare) :
    after.Bare where
  delivery := same.delivery.trans bare.delivery
  subscription := same.subscription.trans bare.subscription

/-- A bare session gives nothing away until the password is proved. -/
theorem givesNothing
    (configured : connection.server.credentials = some credentials)
    (bare : session.Bare)
    (unproven :
      ¬ (Transition.of connection session request iteration).Proves
        connection credentials) :
    (Transition.of connection session request iteration).GivesNothing
      connection := by
  obtain ⟨servedBare, plain⟩ := served_bare configured bare unproven
  refine
    { before := bare
      behindRequest := servedBare
      after := ?_
      writes := ?_ }
  · intro after running
    exact (step_sameControl (running_of_session? running)).bare servedBare
  · have turned := turn_turned connection iteration session request
    change ∀ send ∈ (turn connection iteration session request).1,
      send.Plain
    generalize served connection iteration session request = handled
      at turned plain servedBare
    generalize turn connection iteration session request = result
      at turned ⊢
    cases turned with
    | proceeded _ streamed =>
        intro send member
        rcases List.mem_append.mp member with inReply | inMedia
        · exact plain send inReply
        · obtain ⟨_, _, delivered, _⟩ := streamed.media inMedia
          rw [servedBare.delivery] at delivered
          cases delivered
    | _ =>
        exact plain

end Iteration

/-! ## Whole runs -/

/-- What the configured credentials guarantee along a run. -/
structure AccessRules
    (connection : Connection)
    (credentials : Credentials)
    (transitions : List Transition) : Prop where
  answerNeedsProof :
    ∀ transition ∈ transitions, ∀ request ∈ transition.request,
      request.method ≠ "OPTIONS".toList →
        ∀ response ∈ transition.responses,
          response.status ≠ .unauthorized →
            ProvesPassword connection.server.crates credentials
              transition.before.auth transition.iteration.checkedAt request
  nothingBeforeProof :
    ∀ earlier transition later,
      transitions = earlier ++ transition :: later →
        (∀ past ∈ earlier ++ [transition],
          ¬ past.Proves connection credentials) →
        transition.GivesNothing connection
  challengeOffersNonce :
    ∀ transition ∈ transitions, ∀ response ∈ transition.responses,
      response.status = .unauthorized →
        response.headers =
          challenges (transition.handled connection).session.auth.nonce
  digestBoundToNonce :
    ∀ transition ∈ transitions, ∀ request ∈ transition.request,
      ∀ parameters,
        request.header "authorization" =
            some ("Digest ".toList ++ parameters) →
          ProvesPassword connection.server.crates credentials
              transition.before.auth transition.iteration.checkedAt
              request →
            ∀ crates otherCredentials auth now (other : Request),
              other.header "authorization" =
                  request.header "authorization" →
                auth.nonce ≠ transition.before.auth.nonce →
                  authorized crates other (some otherCredentials) auth
                    now = false

section Run

variable {connection : Connection}
variable {credentials : Credentials}
variable {session : Session}
variable {transitions : List Transition}
variable {next : Next}

/-- Nothing is given away before the first proof of a run. -/
theorem Runs.nothing_before_proof
    (runs : Runs connection session transitions next)
    (configured : connection.server.credentials = some credentials)
    (bare : session.Bare)
    {earlier later : List Transition}
    {transition : Transition}
    (split : transitions = earlier ++ transition :: later)
    (unproven :
      ∀ past ∈ earlier ++ [transition],
        ¬ past.Proves connection credentials) :
    transition.GivesNothing connection := by
  induction runs generalizing earlier with
  | nil session =>
      simp at split
  | closed session request iteration result closes =>
      cases earlier with
      | nil =>
          cases split
          exact givesNothing configured bare (unproven _ (by simp))
      | cons first earlier =>
          simp at split
  | running session request iteration after goesOn rest
      inductionHypothesis =>
      cases earlier with
      | nil =>
          cases split
          exact givesNothing configured bare (unproven _ (by simp))
      | cons first earlier =>
          simp only [List.cons_append, List.cons.injEq] at split
          obtain ⟨isFirst, inRest⟩ := split
          have nothing :=
            givesNothing configured bare
              (isFirst ▸ unproven first (by simp))
          have stillBare : after.Bare := by
            apply nothing.after
            change after ∈
              (step connection session request iteration).next.session?
            rw [goesOn]
            rfl
          exact inductionHypothesis stillBare inRest
            fun past member => unproven past (by simp_all)

/-- The access rules hold along every run from a bare session. -/
theorem Runs.accessRules
    (runs : Runs connection session transitions next)
    (configured : connection.server.credentials = some credentials)
    (bare : session.Bare) :
    AccessRules connection credentials transitions where
  answerNeedsProof := by
    refine runs.forall_transitions (fun _ => True) (fun _ _ => trivial)
      ?_ trivial
    intro session request iteration _ asked isRequest notOptions response
      member answered
    cases isRequest
    have accepted :=
      (serve_served connection iteration session
        asked).authorized_of_answered notOptions
          (mem_served_of_mem_responses member) answered
    rw [configured] at accepted
    exact authorized_iff.mp accepted
  nothingBeforeProof := by
    intro earlier transition later split unproven
    exact runs.nothing_before_proof configured bare split unproven
  challengeOffersNonce := by
    refine runs.forall_transitions (fun _ => True) (fun _ _ => trivial)
      ?_ trivial
    intro session request iteration _ response member challenged
    have inReply := mem_served_of_mem_responses member
    cases request with
    | none =>
        cases inReply
    | some asked =>
        exact
          (serve_served connection iteration session
            asked).challenge_offers_nonce inReply challenged
  digestBoundToNonce := by
    intro transition _ request _ parameters isDigest proof crates
      otherCredentials auth now other sameHeader otherNonce
    rw [Bool.eq_false_iff]
    intro accepted
    exact otherNonce
      (proof.nonce_eq isDigest sameHeader (authorized_iff.mp accepted))

end Run

/--
With credentials configured, over every run of a connection: whoever gets
another answer than 401 to a request other than OPTIONS has proved the
password for it; before the first such request there is no delivery, no
subscription, no description and no packet; and a Digest header is worthless
under any other nonce.
-/
theorem access_needs_password
    (connection : Connection)
    (credentials : Credentials)
    (configured : connection.server.credentials = some credentials)
    (opening : Opening)
    (inputs : List (Option Request × Iteration)) :
    AccessRules connection credentials
      (run connection (.start opening) inputs).1 :=
  (run_runs connection (.start opening) inputs).accessRules configured
    ⟨rfl, rfl⟩

/-- A request without and one with the password. -/
theorem access_needs_password_for_setup :
    let connection : Connection := {
      server := {
        crates := {
          base64Encode := fun _ => []
          base64Decode := fun token =>
            if token = "YWRtaW46c2VjcmV0".toList then
              some (toUtf8 "admin:secret".toList)
            else
              none
          md5 := fun _ => []
          sha256 := fun _ => []
          framerate := fun _ _ => []
        }
        path := "/camera".toList
        pathValid := by decide
        credentials := some {
          username := "admin".toList
          password := "secret".toList
        }
        transportPolicy := .both
      }
      peerIp := .v4 ⟨#[127, 0, 0, 1], rfl⟩
      localAddr := {
        ip := .v4 ⟨#[127, 0, 0, 1], rfl⟩
        port := 554
        scopeId := 0
      }
      sessionData := List.replicate 12 7
      ssrc := 1
    }
    let opening : Opening := {
      nonceData := List.replicate 24 9
      issuedAt := 0
      sequence := 0
      reportAt := 0
      controlAt := 0
    }
    let iteration : Iteration := {
      controlAt := 1
      checkedAt := 1
      renewalAt := 1
      nonceData := []
      renewedAt := 1
      codec := none
      frameRate := none
      canBind := fun _ => true
      socketError := none
      subscription := 0
      idleAt := 1
      received := none
      sentAt := 1
      reportAt := 1
      elapsedAt := 1
      reportedAt := 1
      wallClock := { seconds := 0, nanoseconds := 0 }
      failure := none
    }
    let anonymous : Request := {
      method := "DESCRIBE".toList
      uri := "/camera".toList
      headers := ∅
    }
    let setup : Request := {
      method := "SETUP".toList
      uri := "/camera/trackID=0".toList
      headers := collectMap [
        ("authorization".toList, "Basic YWRtaW46c2VjcmV0".toList),
        ("transport".toList, "RTP/AVP/TCP".toList)]
    }
    AccessRules connection
      { username := "admin".toList, password := "secret".toList }
      (run connection (.start opening)
        [(some anonymous, iteration), (some setup, iteration)]).1 :=
  access_needs_password _ _ rfl _ _

end CamRtsp
