import CamRtsp.AccessControl
import CamRtsp.ControlStream
import CamRtsp.DigestCompleteness
import CamRtsp.RequestRoundTrip

namespace CamRtsp

open RustText CrlfLines

/-!
# Nonce expiry

`authorized` refuses a nonce older than 300 seconds at one reading of the
clock, and the 401 answer renews a nonce at least 300 seconds old at a later
one.  A client that answers every challenge correctly and in time is refused
at most twice in a row: once for the expiry, and never for the new nonce.
-/

/-! ## Correct clients -/

/-- The response a client computes, with `qop=auth` or without. -/
def answerResponse
    (crates : Crates)
    (algorithm : DigestAlgorithm)
    (credentials : Credentials)
    (request : Request)
    (nonce : Text) : Option (Text × Text) → Text
  | some (nc, cnonce) =>
      digestResponse crates algorithm credentials request nonce nc cnonce
  | none =>
      let hash := algorithm.hash crates
      let ha1 :=
        hash (colons
          [credentials.username, "camrtsp".toList, credentials.password])
      let ha2 := hash (colons [request.method, request.uri])
      hash (colons [ha1, nonce, ha2])

/-- The parameters a client sends, with `qop=auth` or without. -/
def answerEntries
    (username nonce uri response : Text)
    (algorithm : Option Text) : Option (Text × Text) → List (Text × Text)
  | some (nc, cnonce) =>
      digestEntries username nonce uri response nc cnonce algorithm
  | none =>
      [("username".toList, username),
        ("realm".toList, "camrtsp".toList),
        ("nonce".toList, nonce),
        ("uri".toList, uri),
        ("response".toList, response)] ++
        algorithm.toList.map fun name => ("algorithm".toList, name)

/--
The request carries a correct Digest answer to a challenge with the nonce.
The counter is missing in the older form without `qop`.
-/
structure SentDigest
    (crates : Crates)
    (credentials : Credentials)
    (nonce : Text)
    (request : Request) where
  algorithm : DigestAlgorithm
  named : Bool
  md5Default : named = false → algorithm = .md5
  counter : Option (Text × Text)
  counterValid :
    ∀ nc cnonce, counter = some (nc, cnonce) →
      nc.length = 8 ∧ (∀ c ∈ nc, isHexDigit c = true) ∧
        (∃ c ∈ nc, c ≠ '0') ∧ cnonce ≠ []
  sent : List SentParameter
  sentAll :
    (sent.map SentParameter.entry).Perm
      (answerEntries credentials.username nonce request.uri
        (answerResponse crates algorithm credentials request nonce counter)
        (if named then some algorithm.name else none) counter)
  plain : ∀ parameter ∈ sent, PlainValue parameter.value
  header :
    request.header "authorization" =
      some ("Digest ".toList ++
        [','].intercalate (sent.map SentParameter.render))

/--
The next request of the run answers the challenge: with a correct Digest for
the nonce it offers, and checked less than 300 seconds after its renewal check.
-/
def AnswersNext
    (crates : Crates)
    (credentials : Credentials)
    (challenge : Response)
    (renewalAt : Instant)
    (later : List Transition) : Prop :=
  ∀ idle answering rest request,
    later = idle ++ answering :: rest →
      (∀ transition ∈ idle, transition.request = none) →
        answering.request = some request →
          elapsed renewalAt answering.iteration.checkedAt < seconds 300 ∧
            ∃ nonce, challenge.headers = challenges nonce ∧
              Nonempty (SentDigest crates credentials nonce request)

/-- The client answers each 401 of the run. -/
def CorrectClient
    (crates : Crates)
    (credentials : Credentials)
    (transitions : List Transition) : Prop :=
  ∀ earlier challenged later challenge,
    transitions = earlier ++ challenged :: later →
      challenge ∈ challenged.responses →
        challenge.status = .unauthorized →
          AnswersNext crates credentials challenge
            challenged.iteration.renewalAt later

/-- Age check, renewal check and new nonce read the clock in order. -/
structure Iteration.ClockInOrder (iteration : Iteration) : Prop where
  checkedFirst : iteration.checkedAt ≤ iteration.renewalAt
  renewedLast : iteration.renewalAt ≤ iteration.renewedAt

/-! ## What the server accepts -/

section Answer

variable {crates : Crates}
variable {credentials : Credentials}
variable {nonce : Text}
variable {request : Request}

/-- Without `qop` three parameters are missing. -/
theorem answerEntries_sublist
    (username nonce uri response : Text)
    (algorithm : Option Text)
    (counter : Option (Text × Text)) :
    (answerEntries username nonce uri response algorithm counter).Sublist
      (digestEntries username nonce uri response
        (counter.elim [] Prod.fst) (counter.elim [] Prod.snd)
        algorithm) := by
  cases counter with
  | some pair =>
      exact List.Sublist.refl _
  | none =>
      apply List.Sublist.append_right
      simp

namespace SentDigest

/-- The algorithm as it is named in the answer. -/
def algorithmName
    (digest : SentDigest crates credentials nonce request) : Option Text :=
  if digest.named then some digest.algorithm.name else none

/-- The parameters of the answer. -/
def entries
    (digest : SentDigest crates credentials nonce request) :
    List (Text × Text) :=
  answerEntries credentials.username nonce request.uri
    (answerResponse crates digest.algorithm credentials request nonce
      digest.counter)
    digest.algorithmName digest.counter

/-- The server reads back all parameters of a correct answer. -/
theorem lookup_digestParameters
    (digest : SentDigest crates credentials nonce request) :
    let values :=
      digestParameters
        ([','].intercalate (digest.sent.map SentParameter.render))
    (∀ key value, (key, value) ∈ digest.entries →
      values.lookup key = some value) ∧
    ∀ key, key ∉ digest.entries.map Prod.fst →
      values.lookup key = none := by
  have included :=
    answerEntries_sublist credentials.username nonce request.uri
      (answerResponse crates digest.algorithm credentials request nonce
        digest.counter)
      digest.algorithmName digest.counter
  have sentAll :
      (digest.sent.map SentParameter.entry).Perm digest.entries :=
    digest.sentAll
  apply lookup_digestParameters_of_perm sentAll
  · rw [entries]
    cases digest.counter with
    | none =>
        exact List.cons_ne_nil _ _
    | some pair =>
        exact List.cons_ne_nil _ _
  · exact digestEntries_distinct.sublist (included.map Prod.fst)
  · intro entry member
    refine ⟨key_mem_names_of_mem_digestEntries (included.subset member), ?_⟩
    obtain ⟨parameter, inSent, rfl⟩ :=
      List.mem_map.mp (sentAll.mem_iff.mpr member)
    exact digest.plain parameter inSent

/-- The server takes the answer for the algorithm it was made with. -/
theorem lookup_algorithm
    (digest : SentDigest crates credentials nonce request) :
    ((digestParameters
        ([','].intercalate
          (digest.sent.map SentParameter.render))).lookup
            "algorithm".toList).getD "MD5".toList =
      digest.algorithm.name := by
  obtain ⟨found, missing⟩ := digest.lookup_digestParameters
  cases isNamed : digest.named with
  | true =>
      rw [found "algorithm".toList digest.algorithm.name]
      · rfl
      · cases counted : digest.counter <;>
          simp [entries, algorithmName, isNamed, answerEntries,
            digestEntries, counted]
  | false =>
      rw [missing "algorithm".toList, digest.md5Default isNamed]
      · rfl
      · cases counted : digest.counter <;>
          simp [entries, algorithmName, isNamed, answerEntries,
            digestEntries, counted]

/-- Both forms say who asks for what, and for which challenge. -/
theorem identity_mem_entries
    (digest : SentDigest crates credentials nonce request)
    {entry : Text × Text}
    (member :
      entry ∈
        [("username".toList, credentials.username),
          ("realm".toList, "camrtsp".toList),
          ("nonce".toList, nonce),
          ("uri".toList, request.uri)]) :
    entry ∈ digest.entries := by
  rw [entries]
  cases digest.counter with
  | none =>
      exact List.mem_append_left _ (List.mem_append_left [_] member)
  | some pair =>
      exact List.mem_append_left _ (List.mem_append_left [_, _, _, _] member)

/-- A correct answer to the current nonce proves the password. -/
theorem authorized
    {auth : AuthState}
    {now : Instant}
    (digest : SentDigest crates credentials auth.nonce request)
    (young : elapsed auth.issued now ≤ seconds 300) :
    authorized crates request (some credentials) auth now = true := by
  obtain ⟨found, missing⟩ := digest.lookup_digestParameters
  have sameHash :
      digestHash crates digest.algorithm.name =
        digest.algorithm.hash crates := by
    funext text
    exact digest.algorithm.digestHash_name crates text
  rw [authorized_iff]
  refine .digest _ digest.algorithm.name digest.header {
    young := young
    username := found _ _ (digest.identity_mem_entries (by simp))
    realm := found _ _ (digest.identity_mem_entries (by simp))
    nonce := found _ _ (digest.identity_mem_entries (by simp))
    uri := found _ _ (digest.identity_mem_entries (by simp))
    algorithmEq := digest.lookup_algorithm.symm
    knownAlgorithm := ?_
    response := ?_
  }
  · cases digest.algorithm
    · exact Or.inr (by decide)
    · exact Or.inl (by decide)
  · rw [sameHash]
    cases counted : digest.counter with
    | none =>
        rw [entries, counted] at found missing
        refine Or.inr ⟨missing _ ?_, missing _ ?_, missing _ ?_,
          found _ _ ?_⟩
        · cases digest.algorithmName <;> simp [answerEntries]
        · cases digest.algorithmName <;> simp [answerEntries]
        · cases digest.algorithmName <;> simp [answerEntries]
        · simp [answerEntries, answerResponse]
    | some pair =>
        obtain ⟨nc, cnonce⟩ := pair
        rw [entries, counted] at found
        obtain ⟨length, digits, nonzero, nonempty⟩ :=
          digest.counterValid nc cnonce counted
        exact Or.inl ⟨nc, cnonce,
          found _ _ (by simp [answerEntries, digestEntries]),
          found _ _ (by simp [answerEntries, digestEntries]),
          validCounter_of_isHexDigit length digits nonzero,
          found _ _ (by simp [answerEntries, digestEntries]),
          nonempty,
          found _ _ (by simp [answerEntries, digestEntries,
            answerResponse, digestResponse])⟩

end SentDigest

/-- A Digest answer to an expired nonce is refused. -/
theorem not_authorized_of_expired
    {auth : AuthState}
    {now : Instant}
    {parameters : Text}
    (isDigest :
      request.header "authorization" =
        some ("Digest ".toList ++ parameters))
    (expired : nonceTtl < elapsed auth.issued now) :
    authorized crates request (some credentials) auth now = false := by
  rw [Bool.eq_false_iff]
  intro accepted
  obtain ⟨_, proof⟩ := (authorized_iff.mp accepted).digestProof isDigest
  exact absurd proof.young (Nat.not_le_of_lt expired)

end Answer

/-! ## One challenge -/

/-- Different nonces make different challenges. -/
theorem challenges_inj {first second : Text} :
    challenges first = challenges second ↔ first = second := by
  constructor
  · intro same
    have firstSame := (List.cons.inj same).1
    simpa only [List.append_cancel_left_eq, List.append_cancel_right_eq]
      using firstSame
  · exact congrArg challenges

/-- A renewed nonce is not older than the renewal check. -/
theorem issued_renewed
    {iteration : Iteration}
    {auth : AuthState}
    (clock : iteration.ClockInOrder)
    (expired : nonceTtl ≤ elapsed auth.issued iteration.renewalAt) :
    iteration.renewalAt ≤ (renewed iteration auth).issued := by
  rw [renewed, if_pos expired]
  exact clock.renewedLast

/-- A nonce that the age check refuses is renewed by the later check. -/
theorem expired_at_renewal
    {iteration : Iteration}
    {auth : AuthState}
    (clock : iteration.ClockInOrder)
    (expired : nonceTtl < elapsed auth.issued iteration.checkedAt) :
    nonceTtl ≤ elapsed auth.issued iteration.renewalAt :=
  Nat.le_trans (Nat.le_of_lt expired)
    (Nat.sub_le_sub_right clock.checkedFirst auth.issued)

section Iteration

variable {connection : Connection}
variable {iteration : Iteration}
variable {session after : Session}
variable {request : Option Request}

/-- An iteration answers at most its request. -/
theorem length_responses_le :
    (Transition.of connection session request iteration).responses.length ≤
      request.toList.length := by
  have atMost :
      ((step connection session request iteration).sends.filterMap
        Send.response?).map Response.cseq <+:
        (request.map Request.cseq).toList :=
    prefix_step_cseqs
  have shorter := atMost.length_le
  rw [List.length_map, Option.toList_map, List.length_map] at shorter
  exact shorter

/-- An iteration without a request answers nothing. -/
theorem responses_of_no_request :
    (Transition.of connection session none iteration).responses = [] :=
  List.eq_nil_of_length_eq_zero
    (Nat.le_zero.mp length_responses_le)

/-- An iteration with a request that goes on answers it once. -/
theorem responses_of_running
    {asked : Request}
    (goesOn :
      (step connection session (some asked) iteration).next =
        .running after) :
    ∃ reply,
      (Transition.of connection session (some asked)
        iteration).responses = [reply] := by
  have once := congrArg List.length (step_cseqs goesOn)
  rw [List.length_map] at once
  exact List.length_eq_one_iff.mp once

end Iteration

/-! ## Challenges in a run -/

/-- The status codes of a run, in order. -/
def statuses (transitions : List Transition) : List Status :=
  (transitions.flatMap Transition.responses).map Response.status

theorem statuses_cons
    (first : Transition)
    (later : List Transition) :
    statuses (first :: later) =
      first.responses.map Response.status ++ statuses later := by
  simp [statuses]

/-- One 401 of a run, with the part of the run before it and behind it. -/
structure ChallengeAt
    (connection : Connection)
    (session : Session)
    (transitions : List Transition)
    (next : Next)
    (before later : List Status) where
  earlier : List Transition
  found : Session
  asked : Request
  iteration : Iteration
  challenge : Response
  rest : List Transition
  split :
    transitions =
      earlier ++ .of connection found (some asked) iteration :: rest
  answers :
    challenge ∈
      (Transition.of connection found (some asked) iteration).responses
  challenged : challenge.status = .unauthorized
  laterEq : statuses rest = later
  behind :
    rest = [] ∨
      ∃ after, after.auth = renewed iteration found.auth ∧
        Runs connection after rest next
  first :
    before = [] →
      found.auth = session.auth ∧
        ∀ transition ∈ earlier, transition.request = none

section Run

variable {connection : Connection}
variable {session after : Session}
variable {transitions rest : List Transition}
variable {next : Next}
variable {before later : List Status}
variable {iteration : Iteration}

/-- The nonce behind a 401 is the renewed one. -/
theorem auth_of_challenged
    {asked : Request}
    {challenge : Response}
    (goesOn :
      (step connection session (some asked) iteration).next =
        .running after)
    (answers :
      challenge ∈
        (Transition.of connection session (some asked)
          iteration).responses)
    (challenged : challenge.status = .unauthorized) :
    after.auth = renewed iteration session.auth := by
  rw [(step_sameControl goesOn).auth]
  exact
    (serve_served connection iteration session asked).auth_of_challenged
      (mem_served_of_mem_responses answers) challenged

/-- Every 401 among the status codes of a run is found in the run. -/
theorem Runs.exists_challenge
    (runs : Runs connection session transitions next)
    (split : statuses transitions = before ++ .unauthorized :: later) :
    Nonempty
      (ChallengeAt connection session transitions next before later) := by
  induction runs generalizing before with
  | nil session =>
      cases before <;> cases split
  | closed session request iteration result closes =>
      rw [statuses_cons] at split
      cases request with
      | none =>
          rw [responses_of_no_request] at split
          cases before <;> cases split
      | some asked =>
          have atMostOne :
              (Transition.of connection session (some asked)
                iteration).responses.length ≤ 1 :=
            length_responses_le
          have sizes := congrArg List.length split
          simp only [List.length_append, List.length_map, statuses,
            List.flatMap_nil, List.map_nil, List.length_nil,
            List.length_cons] at sizes
          have isFirst : before = [] :=
            List.eq_nil_of_length_eq_zero (by omega)
          have isLast : later = [] :=
            List.eq_nil_of_length_eq_zero (by omega)
          subst isFirst isLast
          obtain ⟨reply, isReply⟩ :=
            List.length_eq_one_iff.mp
              (Nat.le_antisymm atMostOne (by omega))
          rw [isReply] at split
          exact ⟨{
            earlier := []
            found := session
            asked := asked
            iteration := iteration
            challenge := reply
            rest := []
            split := rfl
            answers := by
              rw [isReply]
              exact List.mem_singleton_self _
            challenged := (List.cons.inj split).1
            laterEq := rfl
            behind := .inl rfl
            first := fun _ => ⟨rfl, by simp⟩
          }⟩
  | running session request iteration after goesOn rest
      inductionHypothesis =>
      rw [statuses_cons] at split
      cases request with
      | none =>
          rw [responses_of_no_request] at split
          obtain ⟨found⟩ := inductionHypothesis split
          refine ⟨{
            found with
            earlier := .of connection session none iteration :: found.earlier
            split := ?_
            first := ?_
          }⟩
          · rw [List.cons_append, ← found.split]
          · intro isFirst
            obtain ⟨sameAuth, idle⟩ := found.first isFirst
            refine ⟨sameAuth.trans (step_sameControl goesOn).auth, ?_⟩
            intro transition member
            rcases List.mem_cons.mp member with rfl | inRest
            · rfl
            · exact idle transition inRest
      | some asked =>
          obtain ⟨reply, isReply⟩ := responses_of_running goesOn
          rw [isReply] at split
          cases before with
          | nil =>
              obtain ⟨challenged, laterEq⟩ := List.cons.inj split
              have answers :
                  reply ∈
                    (Transition.of connection session (some asked)
                      iteration).responses := by
                rw [isReply]
                exact List.mem_singleton_self _
              exact ⟨{
                earlier := []
                found := session
                asked := asked
                iteration := iteration
                challenge := reply
                rest := _
                split := rfl
                answers := answers
                challenged := challenged
                laterEq := laterEq
                behind :=
                  .inr ⟨after, auth_of_challenged goesOn answers challenged,
                    rest⟩
                first := fun _ => ⟨rfl, by simp⟩
              }⟩
          | cons status before =>
              obtain ⟨_, inRest⟩ := List.cons.inj split
              obtain ⟨found⟩ := inductionHypothesis inRest
              refine ⟨{
                found with
                earlier :=
                  .of connection session (some asked) iteration ::
                    found.earlier
                split := ?_
                first := fun isFirst => by cases isFirst
              }⟩
              rw [List.cons_append, ← found.split]

end Run

/-! ## At most two in a row -/

section Client

variable {connection : Connection}
variable {credentials : Credentials}
variable {session : Session}
variable {transitions : List Transition}
variable {next : Next}
variable {challenge : Response}
variable {renewalAt : Instant}
variable {before later : List Status}

/-- A client that is correct in a run is correct in the rest of it. -/
theorem CorrectClient.rest
    {crates : Crates}
    {earlier rest : List Transition}
    (correct : CorrectClient crates credentials (earlier ++ rest)) :
    CorrectClient crates credentials rest := by
  intro front challenged behind challenge split answers isChallenge
  exact correct (earlier ++ front) challenged behind challenge
    (by rw [split, List.append_assoc]) answers isChallenge

/-- A correct client answers the first challenge and all later ones. -/
theorem CorrectClient.cons
    {crates : Crates}
    {first : Transition}
    {rest : List Transition}
    (answered :
      ∀ challenge ∈ first.responses, challenge.status = .unauthorized →
        AnswersNext crates credentials challenge
          first.iteration.renewalAt rest)
    (correct : CorrectClient crates credentials rest) :
    CorrectClient crates credentials (first :: rest) := by
  intro earlier challenged behind challenge split answers isChallenge
  cases earlier with
  | nil =>
      cases split
      exact answered challenge answers isChallenge
  | cons front earlier =>
      obtain ⟨_, inRest⟩ := List.cons.inj split
      exact correct earlier challenged behind challenge inRest answers
        isChallenge

/-- A challenge is answered by the very next iteration. -/
theorem AnswersNext.of_first
    {crates : Crates}
    {first : Transition}
    {rest : List Transition}
    {request : Request}
    {nonce : Text}
    (requested : first.request = some request)
    (inTime : elapsed renewalAt first.iteration.checkedAt < seconds 300)
    (offers : challenge.headers = challenges nonce)
    (digest : SentDigest crates credentials nonce request) :
    AnswersNext crates credentials challenge renewalAt
      (first :: rest) := by
  intro idle answering later asked split quiet isAsked
  cases idle with
  | nil =>
      cases split
      rw [requested] at isAsked
      cases isAsked
      exact ⟨inTime, nonce, offers, ⟨digest⟩⟩
  | cons front idle =>
      obtain ⟨isFront, _⟩ := List.cons.inj split
      have silent := quiet front List.mem_cons_self
      rw [← isFront, requested] at silent
      cases silent

/-- The challenge that a 401 carries is the renewed nonce. -/
theorem ChallengeAt.headers
    (place :
      ChallengeAt connection session transitions next before later) :
    place.challenge.headers =
      challenges (renewed place.iteration place.found.auth).nonce := by
  have served :=
    serve_served connection place.iteration place.found place.asked
  have inReply := mem_served_of_mem_responses place.answers
  rw [served.challenge_offers_nonce inReply place.challenged]
  congr 2
  exact served.auth_of_challenged inReply place.challenged

/-- A correct answer that is refused has met an expired nonce. -/
theorem ChallengeAt.expired
    (configured : connection.server.credentials = some credentials)
    (place : ChallengeAt connection session transitions next [] later)
    (offers : challenge.headers = challenges session.auth.nonce)
    (answered :
      AnswersNext connection.server.crates credentials challenge renewalAt
        transitions) :
    elapsed renewalAt place.iteration.checkedAt < seconds 300 ∧
      nonceTtl < elapsed place.found.auth.issued
        place.iteration.checkedAt := by
  obtain ⟨sameAuth, idle⟩ := place.first rfl
  obtain ⟨inTime, nonce, offersNonce, ⟨digest⟩⟩ :=
    answered place.earlier _ place.rest place.asked place.split idle rfl
  refine ⟨inTime, ?_⟩
  have isCurrent : nonce = place.found.auth.nonce := by
    rw [sameAuth]
    exact challenges_inj.mp (offersNonce.symm.trans offers)
  subst isCurrent
  by_contra young
  have accepted := digest.authorized (Nat.le_of_not_lt young)
  have rejected :=
    ((serve_served connection place.iteration place.found
      place.asked).refusal_of_challenged
        (mem_served_of_mem_responses place.answers) place.challenged).1
  rw [configured, accepted] at rejected
  cases rejected

/-- Behind a challenge with a fresh nonce a correct client is let in. -/
theorem Runs.no_challenge_of_fresh
    (runs : Runs connection session transitions next)
    (configured : connection.server.credentials = some credentials)
    (offers : challenge.headers = challenges session.auth.nonce)
    (fresh : renewalAt ≤ session.auth.issued)
    (answered :
      AnswersNext connection.server.crates credentials challenge renewalAt
        transitions) :
    ¬ [.unauthorized] <+: statuses transitions := by
  rintro ⟨later, split⟩
  have begins : statuses transitions = [] ++ .unauthorized :: later :=
    split.symm
  obtain ⟨place⟩ := runs.exists_challenge begins
  obtain ⟨inTime, expired⟩ := place.expired configured offers answered
  rw [(place.first rfl).1] at expired
  have notYounger :
      elapsed session.auth.issued place.iteration.checkedAt ≤
        elapsed renewalAt place.iteration.checkedAt :=
    Nat.sub_le_sub_left fresh _
  exact absurd (Nat.lt_of_le_of_lt notYounger inTime)
    (Nat.not_lt_of_lt expired)

/-- The run goes on behind a 401 that is not the last response. -/
theorem ChallengeAt.exists_behind
    {status : Status}
    (place :
      ChallengeAt connection session transitions next before
        (status :: later)) :
    ∃ after, after.auth = renewed place.iteration place.found.auth ∧
      Runs connection after place.rest next := by
  rcases place.behind with isLast | goesOn
  · have impossible := place.laterEq
    rw [isLast] at impossible
    cases impossible
  · exact goesOn

/-- A correct client answers the challenge. -/
theorem ChallengeAt.answered
    (place :
      ChallengeAt connection session transitions next before later)
    {crates : Crates}
    (correct : CorrectClient crates credentials transitions) :
    AnswersNext crates credentials place.challenge
      place.iteration.renewalAt place.rest :=
  correct place.earlier _ place.rest place.challenge place.split
    place.answers place.challenged

/-- The iteration of a challenge is one of the run. -/
theorem ChallengeAt.clockInOrder
    (place :
      ChallengeAt connection session transitions next before later)
    (clock :
      ∀ transition ∈ transitions, transition.iteration.ClockInOrder) :
    place.iteration.ClockInOrder := by
  have member :
      .of connection place.found (some place.asked) place.iteration ∈
        place.earlier ++
          .of connection place.found (some place.asked) place.iteration ::
            place.rest :=
    List.mem_append_right _ List.mem_cons_self
  rw [← place.split] at member
  exact clock _ member

/-- The rest of a run behind a challenge. -/
theorem ChallengeAt.mem_of_mem_rest
    (place :
      ChallengeAt connection session transitions next before later)
    {transition : Transition}
    (member : transition ∈ place.rest) :
    transition ∈ transitions := by
  rw [place.split]
  simp [member]

/-- Behind a challenge a correct client is refused at most once more. -/
theorem Runs.at_most_one_challenge
    (runs : Runs connection session transitions next)
    (configured : connection.server.credentials = some credentials)
    (clock :
      ∀ transition ∈ transitions, transition.iteration.ClockInOrder)
    (correct :
      CorrectClient connection.server.crates credentials transitions)
    (offers : challenge.headers = challenges session.auth.nonce)
    (answered :
      AnswersNext connection.server.crates credentials challenge renewalAt
        transitions) :
    ¬ [.unauthorized, .unauthorized] <+: statuses transitions := by
  rintro ⟨later, split⟩
  have begins :
      statuses transitions =
        [] ++ .unauthorized :: (.unauthorized :: later) :=
    split.symm
  obtain ⟨place⟩ := runs.exists_challenge begins
  have inOrder := place.clockInOrder clock
  obtain ⟨_, expired⟩ := place.expired configured offers answered
  -- Only its age refuses the answer, and the renewal check comes later.
  obtain ⟨after, renewedAuth, goesOn⟩ := place.exists_behind
  refine goesOn.no_challenge_of_fresh configured ?_ ?_
    (place.answered correct) ⟨later, place.laterEq.symm⟩
  · rw [renewedAuth]
    exact place.headers
  · rw [renewedAuth]
    exact issued_renewed inOrder (expired_at_renewal inOrder expired)

/-- A correct client is never refused three times in a row. -/
theorem Runs.at_most_two_challenges
    (runs : Runs connection session transitions next)
    (configured : connection.server.credentials = some credentials)
    (clock :
      ∀ transition ∈ transitions, transition.iteration.ClockInOrder)
    (correct :
      CorrectClient connection.server.crates credentials transitions) :
    ¬ [.unauthorized, .unauthorized, .unauthorized] <:+:
      statuses transitions := by
  rintro ⟨before, later, split⟩
  have contains :
      statuses transitions =
        before ++
          .unauthorized :: (.unauthorized :: .unauthorized :: later) := by
    rw [← split, List.append_assoc]
    rfl
  obtain ⟨place⟩ := runs.exists_challenge contains
  obtain ⟨after, renewedAuth, goesOn⟩ := place.exists_behind
  have correctBehind :
      CorrectClient connection.server.crates credentials place.rest := by
    rw [place.split, List.append_cons] at correct
    exact correct.rest
  refine goesOn.at_most_one_challenge configured
    (fun transition member => clock transition (place.mem_of_mem_rest member))
    correctBehind ?_ (place.answered correct) ⟨later, place.laterEq.symm⟩
  rw [renewedAuth]
  exact place.headers

end Client

/-! ## Refusals for age -/

namespace Transition

/-- The Digest answer of the iteration comes too late for its nonce. -/
structure TooLate (transition : Transition) (request : Request) : Prop where
  requested : transition.request = some request
  notOptions : request.method ≠ "OPTIONS".toList
  isDigest :
    ∃ parameters,
      request.header "authorization" =
        some ("Digest ".toList ++ parameters)
  expired :
    nonceTtl <
      elapsed transition.before.auth.issued transition.iteration.checkedAt

/-- The request is refused with a nonce that is drawn for the refusal. -/
structure Rechallenged
    (connection : Connection)
    (transition : Transition)
    (request : Request) : Prop where
  drawn :
    (transition.handled connection).session.auth =
      { nonce := randomHex transition.iteration.nonceData
        issued := transition.iteration.renewedAt }
  attempted :
    transition.attempts connection =
      [.response {
        cseq := request.cseq
        status := .unauthorized
        headers :=
          challenges (randomHex transition.iteration.nonceData)
        body := [] }]
  notExpired :
    randomHex transition.iteration.nonceData ≠
        transition.before.auth.nonce →
      ∀ response ∈ transition.responses,
        response.headers ≠ challenges transition.before.auth.nonce

end Transition

section Refusal

variable {connection : Connection}
variable {credentials : Credentials}
variable {iteration : Iteration}
variable {session : Session}

/-- The request part of a refusal. -/
theorem serve_of_rejected
    {request : Request}
    (notOptions : request.method ≠ "OPTIONS".toList)
    (rejected :
      authorized connection.server.crates request
        connection.server.credentials session.auth
        iteration.checkedAt = false) :
    serve connection iteration session request =
      answer
        { session with
          lastControl := iteration.controlAt
          auth := renewed iteration session.auth }
        request .unauthorized
        (challenges (renewed iteration session.auth).nonce) .again := by
  simp only [serve]
  rw [if_pos ⟨notOptions, rejected⟩]

/-- Every answer to an expired nonce is refused with a new one. -/
theorem rechallenged_of_tooLate
    {asked : Option Request}
    {request : Request}
    (configured : connection.server.credentials = some credentials)
    (clock : iteration.ClockInOrder)
    (tooLate :
      (Transition.of connection session asked iteration).TooLate request) :
    (Transition.of connection session asked iteration).Rechallenged
      connection request := by
  obtain ⟨requested, notOptions, ⟨parameters, isDigest⟩, expired⟩ := tooLate
  cases requested
  change nonceTtl < elapsed session.auth.issued iteration.checkedAt
    at expired
  have rejected :
      authorized connection.server.crates request
        connection.server.credentials session.auth
        iteration.checkedAt = false := by
    rw [configured]
    exact not_authorized_of_expired isDigest expired
  have isDrawn :
      renewed iteration session.auth =
        { nonce := randomHex iteration.nonceData
          issued := iteration.renewedAt } := by
    rw [renewed, if_pos (expired_at_renewal clock expired)]
  have refusal := serve_of_rejected notOptions rejected
  rw [isDrawn] at refusal
  refine { drawn := ?_, attempted := ?_, notExpired := ?_ }
  · simp only [Transition.handled, Transition.of, served, refusal, answer]
  · simp only [Transition.attempts, Transition.of, turn, served, refusal,
      answer]
  · intro differs response member offersExpired
    have inReply := mem_served_of_mem_responses member
    simp only [served, refusal, answer, List.mem_singleton,
      Send.response.injEq] at inReply
    rw [inReply] at offersExpired
    exact differs (challenges_inj.mp offersExpired)

/-- A challenge offers a nonce that is less than 300 seconds old. -/
theorem young_of_challenged
    {asked : Option Request}
    {response : Response}
    (clock : iteration.ClockInOrder)
    (answers :
      response ∈
        (Transition.of connection session asked iteration).responses)
    (challenged : response.status = .unauthorized) :
    elapsed
        ((Transition.of connection session asked iteration).handled
          connection).session.auth.issued
        iteration.renewalAt < nonceTtl := by
  have inReply := mem_served_of_mem_responses answers
  cases asked with
  | none =>
      cases inReply
  | some request =>
      have renewedAuth :
          (serve connection iteration session request).session.auth =
            renewed iteration session.auth :=
        (serve_served connection iteration session
          request).auth_of_challenged inReply challenged
      simp only [Transition.handled, Transition.of, served, renewedAuth]
      by_cases expired :
          nonceTtl ≤ elapsed session.auth.issued iteration.renewalAt
      · have noAge :
            elapsed (renewed iteration session.auth).issued
              iteration.renewalAt = 0 :=
          Nat.sub_eq_zero_of_le (issued_renewed clock expired)
        rw [noAge]
        decide
      · rw [renewed, if_neg expired]
        exact Nat.lt_of_not_le expired

end Refusal

/-- What nonce expiry means for a correct client. -/
structure NonceRules
    (connection : Connection)
    (transitions : List Transition) : Prop where
  atMostTwo :
    ¬ [.unauthorized, .unauthorized, .unauthorized] <:+:
      statuses transitions
  offersYoung :
    ∀ transition ∈ transitions, ∀ response ∈ transition.responses,
      response.status = .unauthorized →
        elapsed (transition.handled connection).session.auth.issued
          transition.iteration.renewalAt < nonceTtl
  renewsExpired :
    ∀ transition ∈ transitions, ∀ request, transition.TooLate request →
      transition.Rechallenged connection request

/--
Over every run of `handle` with credentials, whatever the client sends besides
its correct and timely answers: it is refused at most twice in a row, every
challenge offers a nonce that is not expired, and an answer to an expired nonce
is refused with one drawn at that moment.
-/
theorem nonce_expiry_never_traps
    (connection : Connection)
    (credentials : Credentials)
    (configured : connection.server.credentials = some credentials)
    (opening : Opening)
    (reads : List (ReadOutcome × Iteration))
    (clock :
      ∀ transition ∈ (handle connection (.start opening) [] reads).1,
        transition.iteration.ClockInOrder)
    (correct :
      CorrectClient connection.server.crates credentials
        (handle connection (.start opening) [] reads).1) :
    NonceRules connection
      (handle connection (.start opening) [] reads).1 := by
  obtain ⟨⟨next, runs⟩, _⟩ :=
    handle_runs connection (.start opening) [] reads
  have each :
      ∀ transition ∈ (handle connection (.start opening) [] reads).1,
        transition.iteration.ClockInOrder →
          (∀ response ∈ transition.responses,
            response.status = .unauthorized →
              elapsed (transition.handled connection).session.auth.issued
                transition.iteration.renewalAt < nonceTtl) ∧
            ∀ request, transition.TooLate request →
              transition.Rechallenged connection request := by
    refine runs.forall_transitions (fun _ => True) (fun _ _ => trivial)
      ?_ trivial
    intro session request iteration _ inOrder
    exact ⟨fun response answers challenged =>
        young_of_challenged inOrder answers challenged,
      fun request tooLate =>
        rechallenged_of_tooLate configured inOrder tooLate⟩
  exact {
    atMostTwo := runs.at_most_two_challenges configured clock correct
    offersYoung := fun transition member =>
      (each transition member (clock transition member)).1
    renewsExpired := fun transition member =>
      (each transition member (clock transition member)).2
  }

/-! ## A client that is refused twice -/

section Handle

variable {connection : Connection}
variable {session after : Session}
variable {input rest : Bytes}
variable {request : Option Request}
variable {read : ReadOutcome}
variable {iteration : Iteration}

/-- An iteration that goes on is followed by the rest of the loop. -/
theorem handle_running
    {later : List (ReadOutcome × Iteration)}
    (isRead : readControl read input = .ok (request, rest))
    (goesOn :
      (step connection session request iteration).next =
        .running after) :
    (handle connection session input ((read, iteration) :: later)).1 =
      .of connection session request iteration ::
        (handle connection after rest later).1 := by
  simp only [handle, isRead, goesOn]
  rfl

/-- The last read makes the last iteration. -/
theorem handle_last
    (isRead : readControl read input = .ok (request, rest)) :
    (handle connection session input [(read, iteration)]).1 =
      [.of connection session request iteration] := by
  simp only [handle, isRead]
  cases (step connection session request iteration).next with
  | running after =>
      rfl
  | closed result =>
      rfl

end Handle

/-- The user `admin` with the password `secret`. -/
def adminCredentials : Credentials where
  username := "admin".toList
  password := "secret".toList

/-- The MD5 hashes of the four texts that are hashed below. -/
def adminHashes : List (Text × Bytes) :=
  [("admin:camrtsp:secret".toList,
      [0xd3, 0x92, 0x51, 0x1f, 0x85, 0x42, 0xbe, 0xdf,
        0xcf, 0x65, 0x39, 0x16, 0x9c, 0x7e, 0x18, 0xcf]),
    ("DESCRIBE:/stream".toList,
      [0x2a, 0xaf, 0x47, 0x9d, 0x9e, 0xa4, 0x7c, 0xad,
        0x04, 0xc9, 0xb2, 0xe0, 0x71, 0xcb, 0x9b, 0xcc]),
    (("d392511f8542bedfcf6539169c7e18cf:5a:" ++
        "2aaf479d9ea47cad04c9b2e071cb9bcc").toList,
      [0x0a, 0xe9, 0xe0, 0x78, 0xf7, 0x73, 0x82, 0x32,
        0x72, 0xd9, 0xfa, 0xb0, 0x53, 0x56, 0xa6, 0x74]),
    (("d392511f8542bedfcf6539169c7e18cf:a5:" ++
        "2aaf479d9ea47cad04c9b2e071cb9bcc").toList,
      [0xfa, 0xd0, 0x03, 0x56, 0xcc, 0x08, 0x3b, 0x3e,
        0xde, 0x7d, 0xe4, 0x97, 0x2a, 0xc0, 0x87, 0xc6])]

/-- A server at `/stream` with credentials. -/
def adminConnection : Connection where
  server := {
    crates := {
      base64Encode := fun _ => []
      base64Decode := fun _ => none
      md5 := fun data =>
        ((adminHashes.find? fun entry => toUtf8 entry.1 == data).map
          Prod.snd).getD []
      sha256 := fun _ => []
      framerate := fun _ _ => []
    }
    path := "/stream".toList
    pathValid := by decide
    credentials := some adminCredentials
    transportPolicy := .both
  }
  peerIp := .v4 ⟨#[127, 0, 0, 1], rfl⟩
  localAddr := {
    ip := .v4 ⟨#[127, 0, 0, 1], rfl⟩
    port := 554
    scopeId := 0
  }
  sessionData := List.replicate 12 7
  ssrc := 1

/-- The first nonce is `5a`. -/
def adminOpening : Opening where
  nonceData := [0x5a]
  issuedAt := 0
  sequence := 0
  reportAt := 0
  controlAt := 0

/-- An iteration at the given second that would draw the nonce `a5`. -/
def adminIteration (second : Nat) : Iteration where
  controlAt := seconds second
  checkedAt := seconds second + 1
  renewalAt := seconds second + 2
  nonceData := [0xa5]
  renewedAt := seconds second + 3
  codec := none
  frameRate := none
  canBind := fun _ => true
  socketError := none
  subscription := 0
  idleAt := seconds second + 4
  received := none
  sentAt := seconds second + 4
  reportAt := seconds second + 4
  elapsedAt := seconds second + 4
  reportedAt := seconds second + 4
  wallClock := { seconds := 0, nanoseconds := 0 }
  failure := none

/-- A Digest answer in the form without `qop`. -/
def adminAnswer (nonce response : Text) : Text :=
  "Digest username=\"admin\",realm=\"camrtsp\",nonce=\"".toList ++
    nonce ++ "\",uri=\"/stream\",response=\"".toList ++ response ++
    "\"".toList

/-- The Authorization header of the client. -/
def adminField
    (value : Text)
    (trimmed : Trimmed value)
    (oneLine : '\r' ∉ value) : HeaderField where
  name := "Authorization".toList
  value := value
  nameNonempty := by decide
  nameColonFree := by decide
  nameTrimmed := by decide
  valueTrimmed := trimmed
  nameCrlfFree := crlfFree_of_not_mem (by decide)
  valueCrlfFree := crlfFree_of_not_mem oneLine

/-- A DESCRIBE request of the client. -/
def adminMessage
    (fields : List HeaderField)
    (keysDistinct : (fields.map HeaderField.key).Nodup)
    (bodyless :
      HeaderField.find? fields "content-length".toList = none)
    (fits :
      (toUtf8 (headerBlock '\r' '\n'
          (requestLines "DESCRIBE".toList "/stream".toList
            fields))).length ≤
        maxRequestBytes) : RequestMessage where
  method := "DESCRIBE".toList
  uri := "/stream".toList
  fields := fields
  body := []
  methodNonempty := by decide
  methodLetters := List.all_iff_forall_prop.mp rfl
  uriSolid := (by decide : IsWord "/stream".toList).solid
  uriForm := by decide
  keysDistinct := keysDistinct
  bodyAnnounced := by
    rw [bodyless]
  fits := fits

/-- The request that is challenged with the nonce `5a`. -/
def unansweredMessage : RequestMessage :=
  adminMessage [] (by decide) (by decide) (by decide)

/-- The answer to the nonce `5a`. -/
def firstAnswerMessage : RequestMessage :=
  adminMessage
    [adminField
      (adminAnswer "5a".toList "0ae9e078f773823272d9fab05356a674".toList)
      (by decide +kernel) (by decide +kernel)]
    (by decide +kernel) (by decide +kernel) (by decide +kernel)

/-- The answer to the nonce `a5`. -/
def secondAnswerMessage : RequestMessage :=
  adminMessage
    [adminField
      (adminAnswer "a5".toList "fad00356cc083b3ede7de4972ac087c6".toList)
      (by decide +kernel) (by decide +kernel)]
    (by decide +kernel) (by decide +kernel) (by decide +kernel)

/-- A correct answer in the form without `qop`. -/
def adminDigest
    (nonce : Text)
    (request : Request)
    (plain :
      ∀ parameter ∈
        (answerEntries adminCredentials.username nonce request.uri
          (answerResponse adminConnection.server.crates .md5
            adminCredentials request nonce none)
          none none).map quotedParameter,
        PlainValue parameter.value)
    (header :
      request.header "authorization" =
        some ("Digest ".toList ++
          [','].intercalate
            (((answerEntries adminCredentials.username nonce request.uri
              (answerResponse adminConnection.server.crates .md5
                adminCredentials request nonce none)
              none none).map quotedParameter).map
                SentParameter.render))) :
    SentDigest adminConnection.server.crates adminCredentials nonce
      request where
  algorithm := .md5
  named := false
  md5Default := fun _ => rfl
  counter := none
  counterValid := by simp
  sent := _
  sentAll := List.Perm.refl _
  plain := plain
  header := header

/-- The reads of the run: a request and two answers. -/
def adminReads : List (ReadOutcome × Iteration) :=
  [(.received unansweredMessage.encode (by decide +kernel),
      adminIteration 299),
    (.received firstAnswerMessage.encode (by decide +kernel),
      adminIteration 301),
    (.received secondAnswerMessage.encode (by decide +kernel),
      adminIteration 302)]

/-- The session behind the first challenge. -/
def challengedSession : Session :=
  { Session.start adminOpening with lastControl := seconds 299 }

/-- The session behind the second challenge. -/
def rechallengedSession : Session :=
  { Session.start adminOpening with
    lastControl := seconds 301
    auth := { nonce := "a5".toList, issued := seconds 301 + 3 } }

/-- The three iterations of the run. -/
def adminTransitions : List Transition :=
  [.of adminConnection (.start adminOpening)
      (some unansweredMessage.request) (adminIteration 299),
    .of adminConnection challengedSession
      (some firstAnswerMessage.request) (adminIteration 301),
    .of adminConnection rechallengedSession
      (some secondAnswerMessage.request) (adminIteration 302)]

/-- The first request is challenged with the nonce `5a`. -/
theorem step_unanswered :
    (step adminConnection (.start adminOpening)
        (some unansweredMessage.request) (adminIteration 299)).next =
      .running challengedSession :=
  rfl

/-- The first answer comes too late and is challenged with a new nonce. -/
theorem step_firstAnswer :
    (step adminConnection challengedSession
        (some firstAnswerMessage.request) (adminIteration 301)).next =
      .running rechallengedSession :=
  rfl

theorem handle_adminReads :
    (handle adminConnection (.start adminOpening) [] adminReads).1 =
      adminTransitions :=
  (handle_running (unansweredMessage.readControl_encode _)
      step_unanswered).trans
    (congrArg _
      ((handle_running (firstAnswerMessage.readControl_encode _)
          step_firstAnswer).trans
        (congrArg _
          (handle_last (secondAnswerMessage.readControl_encode _)))))

/-- The first answer is correct. -/
def firstDigest :
    SentDigest adminConnection.server.crates adminCredentials
      "5a".toList firstAnswerMessage.request :=
  adminDigest _ _ (by unfold PlainValue; decide +kernel)
    (by decide +kernel)

/-- The second answer is correct. -/
def secondDigest :
    SentDigest adminConnection.server.crates adminCredentials
      "a5".toList secondAnswerMessage.request :=
  adminDigest _ _ (by unfold PlainValue; decide +kernel)
    (by decide +kernel)

/-- The client is correct. -/
theorem adminTransitions_correct :
    CorrectClient adminConnection.server.crates adminCredentials
      adminTransitions := by
  refine .cons ?_ (.cons ?_ (.cons ?_ ?_))
  · intro challenge answers _
    rw [List.mem_singleton.mp answers]
    exact .of_first rfl (by decide) rfl firstDigest
  · intro challenge answers _
    rw [List.mem_singleton.mp answers]
    exact .of_first rfl (by decide) rfl secondDigest
  · intro _ _ _ idle answering rest _ split
    exact (List.append_ne_nil_of_right_ne_nil idle
      (List.cons_ne_nil answering rest) split.symm).elim
  · intro earlier challenged later _ split
    exact (List.append_ne_nil_of_right_ne_nil earlier
      (List.cons_ne_nil challenged later) split.symm).elim

/-- The clock runs forward in every iteration. -/
theorem adminIteration_clockInOrder (second : Nat) :
    (adminIteration second).ClockInOrder where
  checkedFirst := Nat.le_succ _
  renewedLast := Nat.le_succ _

/-- A correct client that is refused twice in a row, and then let in. -/
theorem nonce_expiry_never_traps_refused_twice :
    statuses
        (handle adminConnection (.start adminOpening) [] adminReads).1 =
        [.unauthorized, .unauthorized, .serviceUnavailable] ∧
      NonceRules adminConnection
        (handle adminConnection (.start adminOpening) [] adminReads).1 := by
  constructor
  · rw [handle_adminReads]
    rfl
  · apply nonce_expiry_never_traps adminConnection adminCredentials rfl
    · rw [handle_adminReads]
      exact List.forall_mem_cons.mpr ⟨adminIteration_clockInOrder 299,
        List.forall_mem_cons.mpr ⟨adminIteration_clockInOrder 301,
          List.forall_mem_singleton.mpr
            (adminIteration_clockInOrder 302)⟩⟩
    · rw [handle_adminReads]
      exact adminTransitions_correct

end CamRtsp
