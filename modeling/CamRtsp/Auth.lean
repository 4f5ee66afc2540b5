import CamRtsp.Request

namespace CamRtsp

open RustText

/-!
# Authentication

The server accepts Basic credentials, and RFC 2617 and RFC 7616 Digest
responses to its current nonce.  Base64 and the hash functions come from other
crates and stay abstract.
-/

/-- The functions of other crates that the server calls. -/
structure Crates where
  base64Encode : Bytes → Text
  base64Decode : Text → Option Bytes
  md5 : Bytes → Bytes
  sha256 : Bytes → Bytes
  framerate : UInt32 → UInt32 → Text

/-- The configured user. -/
structure Credentials where
  username : Text
  password : Text
  deriving Repr, DecidableEq

/-- The challenge a connection currently offers. -/
structure AuthState where
  nonce : Text
  issued : Instant
  deriving Repr, DecidableEq

/-- `NONCE_TTL`. -/
def nonceTtl : Nat :=
  seconds 300

/-- `random_hex` of the drawn bytes. -/
def randomHex (data : Bytes) : Text :=
  hex data

/-- One parameter of `digest_parameters`. -/
def digestParameter (part : Text) : Option (Text × Text) :=
  (splitOnce '=' (trim part)).map fun (key, value) =>
    (toAsciiLowercase (trim key), trimMatches '"' (trim value))

/-- `digest_parameters`. -/
def digestParameters (value : Text) : TextMap :=
  collectMap ((value.splitOn ',').filterMap digestParameter)

/-- The closure `hash` of `authorized`. -/
def digestHash (crates : Crates) (algorithm value : Text) : Text :=
  if eqIgnoreAsciiCase algorithm "SHA-256".toList then
    hex (crates.sha256 (toUtf8 value))
  else
    hex (crates.md5 (toUtf8 value))

/-- Text pieces joined by colons. -/
def colons (pieces : List Text) : Text :=
  [':'].intercalate pieces

/-- The counter of a Digest answer is eight bytes that read as non-zero. -/
def validCounter (nc : Text) : Bool :=
  (toUtf8 nc).length == 8 &&
    (fromStrRadix 16 (2 ^ 32) nc).any fun count => 0 < count

/-- The response `authorized` expects, if the parameters fit together. -/
def expectedResponse
    (crates : Crates)
    (credentials : Credentials)
    (request : Request)
    (nonce algorithm : Text)
    (qop nc cnonce : Option Text) : Option Text :=
  let hash := digestHash crates algorithm
  let ha1 :=
    hash (colons
      [credentials.username, "camrtsp".toList, credentials.password])
  let ha2 := hash (colons [request.method, request.uri])
  match qop, nc, cnonce with
  | some qop, some nc, some cnonce =>
      if qop = "auth".toList ∧ validCounter nc = true ∧ cnonce ≠ [] then
        some (hash (colons [ha1, nonce, nc, cnonce, qop, ha2]))
      else
        none
  | none, none, none => some (hash (colons [ha1, nonce, ha2]))
  | _, _, _ => none

/-- The Digest part of `authorized`. -/
def digestAuthorized
    (crates : Crates)
    (request : Request)
    (credentials : Credentials)
    (auth : AuthState)
    (now : Instant)
    (parameters : Text) : Bool :=
  if nonceTtl < elapsed auth.issued now then
    false
  else
    let values := digestParameters parameters
    if values.lookup "username".toList ≠ some credentials.username ∨
        values.lookup "realm".toList ≠ some "camrtsp".toList ∨
        values.lookup "nonce".toList ≠ some auth.nonce ∨
        values.lookup "uri".toList ≠ some request.uri then
      false
    else
      let algorithm :=
        (values.lookup "algorithm".toList).getD "MD5".toList
      if eqIgnoreAsciiCase algorithm "SHA-256".toList = false ∧
          eqIgnoreAsciiCase algorithm "MD5".toList = false then
        false
      else
        match
          expectedResponse crates credentials request auth.nonce algorithm
            (values.lookup "qop".toList) (values.lookup "nc".toList)
            (values.lookup "cnonce".toList) with
        | none => false
        | some expected =>
            (values.lookup "response".toList).any fun response =>
              decide (toUtf8 expected = toUtf8 response)

/-- `authorized`, with the clock read at the moment `now`. -/
def authorized
    (crates : Crates)
    (request : Request)
    (credentials : Option Credentials)
    (auth : AuthState)
    (now : Instant) : Bool :=
  match credentials with
  | none => true
  | some credentials =>
      match request.header "authorization" with
      | none => false
      | some value =>
          match stripPrefix "Basic ".toList value with
          | some token =>
              match crates.base64Decode token with
              | none => false
              | some decoded =>
                  decide
                    (toUtf8
                        (colons
                          [credentials.username, credentials.password]) =
                      decoded)
          | none =>
              match stripPrefix "Digest ".toList value with
              | none => false
              | some parameters =>
                  digestAuthorized crates request credentials auth now
                    parameters

/-! ## What an accepted header proves -/

/--
A Digest answer to the current nonce, which is at most 300 seconds old, for
this request: its response is the MD5 or SHA-256 hash over user, realm,
password, nonce, method and URI, with a counter and a client nonce or without.
-/
structure DigestProof
    (crates : Crates)
    (credentials : Credentials)
    (auth : AuthState)
    (now : Instant)
    (request : Request)
    (values : TextMap)
    (algorithm : Text) : Prop where
  young : elapsed auth.issued now ≤ seconds 300
  username : values.lookup "username".toList = some credentials.username
  realm : values.lookup "realm".toList = some "camrtsp".toList
  nonce : values.lookup "nonce".toList = some auth.nonce
  uri : values.lookup "uri".toList = some request.uri
  algorithmEq :
    algorithm = (values.lookup "algorithm".toList).getD "MD5".toList
  knownAlgorithm :
    eqIgnoreAsciiCase algorithm "SHA-256".toList = true ∨
      eqIgnoreAsciiCase algorithm "MD5".toList = true
  response :
    let hash := digestHash crates algorithm
    let ha1 :=
      hash (colons
        [credentials.username, "camrtsp".toList, credentials.password])
    let ha2 := hash (colons [request.method, request.uri])
    (∃ nc cnonce,
      values.lookup "qop".toList = some "auth".toList ∧
      values.lookup "nc".toList = some nc ∧ validCounter nc = true ∧
      values.lookup "cnonce".toList = some cnonce ∧ cnonce ≠ [] ∧
      values.lookup "response".toList =
        some (hash
          (colons [ha1, auth.nonce, nc, cnonce, "auth".toList, ha2]))) ∨
    (values.lookup "qop".toList = none ∧
      values.lookup "nc".toList = none ∧
      values.lookup "cnonce".toList = none ∧
      values.lookup "response".toList =
        some (hash (colons [ha1, auth.nonce, ha2])))

/--
The Authorization header shows that its author knows the password: it carries
the password itself, or a Digest answer.
-/
inductive ProvesPassword
    (crates : Crates)
    (credentials : Credentials)
    (auth : AuthState)
    (now : Instant)
    (request : Request) : Prop where
  | basic
      (token : Text)
      (isBasic :
        request.header "authorization" =
          some ("Basic ".toList ++ token))
      (decodes :
        crates.base64Decode token =
          some (toUtf8 (colons
            [credentials.username, credentials.password])))
  | digest
      (parameters algorithm : Text)
      (isDigest :
        request.header "authorization" =
          some ("Digest ".toList ++ parameters))
      (proof :
        DigestProof crates credentials auth now request
          (digestParameters parameters) algorithm)

/-- Distinct texts have distinct bytes. -/
theorem toUtf8_inj {first second : Text} :
    toUtf8 first = toUtf8 second ↔ first = second := by
  constructor
  · intro same
    have decoded := congrArg fromUtf8 same
    simpa using decoded
  · exact congrArg toUtf8

/-- The expected response exists in one of two forms. -/
theorem expectedResponse_eq_some_iff
    {crates : Crates}
    {credentials : Credentials}
    {request : Request}
    {nonce algorithm expected : Text}
    {qop nc cnonce : Option Text} :
    expectedResponse crates credentials request nonce algorithm qop nc
        cnonce = some expected ↔
      let hash := digestHash crates algorithm
      let ha1 :=
        hash (colons
          [credentials.username, "camrtsp".toList, credentials.password])
      let ha2 := hash (colons [request.method, request.uri])
      (∃ counter client,
        qop = some "auth".toList ∧ nc = some counter ∧
        validCounter counter = true ∧ cnonce = some client ∧
        client ≠ [] ∧
        expected =
          hash (colons
            [ha1, nonce, counter, client, "auth".toList, ha2])) ∨
      (qop = none ∧ nc = none ∧ cnonce = none ∧
        expected = hash (colons [ha1, nonce, ha2])) := by
  cases qop with
  | none =>
      cases nc with
      | some counter =>
          cases cnonce <;> simp [expectedResponse]
      | none =>
          cases cnonce with
          | some client =>
              simp [expectedResponse]
          | none =>
              constructor
              · intro same
                exact Or.inr
                  ⟨rfl, rfl, rfl, (Option.some.inj same).symm⟩
              · rintro (⟨_, _, absent, _⟩ | ⟨_, _, _, rfl⟩)
                · cases absent
                · rfl
  | some qop =>
      cases nc with
      | none =>
          cases cnonce <;> simp [expectedResponse]
      | some counter =>
          cases cnonce with
          | none =>
              simp [expectedResponse]
          | some client =>
              simp only [expectedResponse, Option.ite_none_right_eq_some,
                Option.some.injEq, reduceCtorEq, false_and, or_false]
              constructor
              · rintro ⟨⟨rfl, valid, nonempty⟩, rfl⟩
                exact ⟨counter, client, rfl, rfl, valid, rfl, nonempty,
                  rfl⟩
              · rintro ⟨_, _, rfl, rfl, valid, rfl, nonempty, rfl⟩
                exact ⟨⟨rfl, valid, nonempty⟩, rfl⟩

/-- The checks of the Digest part, one after the other. -/
theorem digestAuthorized_iff_checks
    {crates : Crates}
    {request : Request}
    {credentials : Credentials}
    {auth : AuthState}
    {now : Instant}
    {parameters algorithm : Text}
    {values : TextMap}
    (valuesEq : digestParameters parameters = values)
    (algorithmEq :
      (values.lookup "algorithm".toList).getD "MD5".toList = algorithm) :
    digestAuthorized crates request credentials auth now parameters =
        true ↔
      elapsed auth.issued now ≤ nonceTtl ∧
        (values.lookup "username".toList = some credentials.username ∧
          values.lookup "realm".toList = some "camrtsp".toList ∧
          values.lookup "nonce".toList = some auth.nonce ∧
          values.lookup "uri".toList = some request.uri) ∧
        (eqIgnoreAsciiCase algorithm "SHA-256".toList = true ∨
          eqIgnoreAsciiCase algorithm "MD5".toList = true) ∧
        ∃ expected,
          expectedResponse crates credentials request auth.nonce algorithm
              (values.lookup "qop".toList) (values.lookup "nc".toList)
              (values.lookup "cnonce".toList) = some expected ∧
            values.lookup "response".toList = some expected := by
  simp only [digestAuthorized, valuesEq, algorithmEq]
  by_cases stale : nonceTtl < elapsed auth.issued now
  · simp [stale]
  by_cases mismatch :
      values.lookup "username".toList ≠ some credentials.username ∨
        values.lookup "realm".toList ≠ some "camrtsp".toList ∨
        values.lookup "nonce".toList ≠ some auth.nonce ∨
        values.lookup "uri".toList ≠ some request.uri
  · rw [if_neg stale, if_pos mismatch]
    constructor
    · intro accepted
      cases accepted
    · rintro ⟨-, ⟨username, realm, nonce, uri⟩, -⟩
      rcases mismatch with other | other | other | other
      · exact (other username).elim
      · exact (other realm).elim
      · exact (other nonce).elim
      · exact (other uri).elim
  by_cases unknown :
      eqIgnoreAsciiCase algorithm "SHA-256".toList = false ∧
        eqIgnoreAsciiCase algorithm "MD5".toList = false
  · rw [if_neg stale, if_neg mismatch, if_pos unknown, unknown.1,
      unknown.2]
    simp
  rw [if_neg stale, if_neg mismatch, if_neg unknown]
  simp only [not_or, not_not] at mismatch
  have known :
      eqIgnoreAsciiCase algorithm "SHA-256".toList = true ∨
        eqIgnoreAsciiCase algorithm "MD5".toList = true := by
    by_contra neither
    simp only [not_or, Bool.not_eq_true] at neither
    exact unknown neither
  simp only [Nat.le_of_not_lt stale, mismatch, known, true_and]
  cases expectedResponse crates credentials request auth.nonce algorithm
      (values.lookup "qop".toList) (values.lookup "nc".toList)
      (values.lookup "cnonce".toList) with
  | none =>
      simp
  | some expected =>
      simp only [Option.any_eq_true, decide_eq_true_eq, toUtf8_inj,
        Option.some.injEq, exists_eq_left']
      exact
        ⟨fun ⟨response, found, same⟩ => same ▸ found,
          fun found => ⟨expected, found, rfl⟩⟩

/-- The Digest part accepts exactly Digest answers. -/
theorem digestAuthorized_iff
    {crates : Crates}
    {request : Request}
    {credentials : Credentials}
    {auth : AuthState}
    {now : Instant}
    {parameters : Text} :
    digestAuthorized crates request credentials auth now parameters =
        true ↔
      DigestProof crates credentials auth now request
        (digestParameters parameters)
        (((digestParameters parameters).lookup
          "algorithm".toList).getD "MD5".toList) := by
  rw [digestAuthorized_iff_checks rfl rfl]
  constructor
  · rintro ⟨young, ⟨username, realm, nonce, uri⟩, known, expected,
      computed, found⟩
    refine {
      young := young
      username := username
      realm := realm
      nonce := nonce
      uri := uri
      algorithmEq := rfl
      knownAlgorithm := known
      response := ?_
    }
    rw [found]
    rcases expectedResponse_eq_some_iff.mp computed with
      ⟨counter, client, qop, nc, valid, cnonce, nonempty, rfl⟩ |
        ⟨qop, nc, cnonce, rfl⟩
    · exact Or.inl
        ⟨counter, client, qop, nc, valid, cnonce, nonempty, rfl⟩
    · exact Or.inr ⟨qop, nc, cnonce, rfl⟩
  · intro proof
    refine ⟨proof.young,
      ⟨proof.username, proof.realm, proof.nonce, proof.uri⟩,
      proof.knownAlgorithm, ?_⟩
    rcases proof.response with
      ⟨counter, client, qop, nc, valid, cnonce, nonempty, found⟩ |
        ⟨qop, nc, cnonce, found⟩
    · exact ⟨_, expectedResponse_eq_some_iff.mpr (Or.inl
        ⟨counter, client, qop, nc, valid, cnonce, nonempty, rfl⟩),
        found⟩
    · exact ⟨_, expectedResponse_eq_some_iff.mpr (Or.inr
        ⟨qop, nc, cnonce, rfl⟩), found⟩

/-- With credentials, exactly proofs of the password are accepted. -/
theorem authorized_iff
    {crates : Crates}
    {request : Request}
    {credentials : Credentials}
    {auth : AuthState}
    {now : Instant} :
    authorized crates request (some credentials) auth now = true ↔
      ProvesPassword crates credentials auth now request := by
  constructor
  · intro accepted
    simp only [authorized] at accepted
    cases found : request.header "authorization" with
    | none =>
        simp [found] at accepted
    | some value =>
        simp only [found] at accepted
        cases isBasic : stripPrefix "Basic ".toList value with
        | some token =>
            simp only [isBasic] at accepted
            cases decoded : crates.base64Decode token with
            | none =>
                simp [decoded] at accepted
            | some bytes =>
                simp only [decoded, decide_eq_true_eq] at accepted
                refine .basic token ?_ ?_
                · rw [found, stripPrefix_eq_some_iff.mp isBasic]
                · rw [decoded, accepted]
        | none =>
            simp only [isBasic] at accepted
            cases isDigest : stripPrefix "Digest ".toList value with
            | none =>
                rw [isDigest] at accepted
                exact (Bool.false_ne_true accepted).elim
            | some parameters =>
                simp only [isDigest] at accepted
                refine .digest parameters _ ?_
                  (digestAuthorized_iff.mp accepted)
                rw [found, stripPrefix_eq_some_iff.mp isDigest]
  · rintro (⟨token, isBasic, decodes⟩ |
      ⟨parameters, algorithm, isDigest, proof⟩)
    · have stripped :
          stripPrefix "Basic ".toList ("Basic ".toList ++ token) =
            some token :=
        stripPrefix_eq_some_iff.mpr rfl
      simp only [authorized, isBasic, stripped, decodes, decide_true]
    · have stripped :
          stripPrefix "Digest ".toList ("Digest ".toList ++ parameters) =
            some parameters :=
        stripPrefix_eq_some_iff.mpr rfl
      have notBasic :
          stripPrefix "Basic ".toList ("Digest ".toList ++ parameters) =
            none := by
        simp [stripPrefix]
      simp only [authorized, isDigest, notBasic, stripped]
      rw [digestAuthorized_iff, ← proof.algorithmEq]
      exact proof

/-- A Digest header proves the password with a Digest answer only. -/
theorem ProvesPassword.digestProof
    {crates : Crates}
    {credentials : Credentials}
    {auth : AuthState}
    {now : Instant}
    {request : Request}
    {parameters : Text}
    (proof : ProvesPassword crates credentials auth now request)
    (isDigest :
      request.header "authorization" =
        some ("Digest ".toList ++ parameters)) :
    ∃ algorithm,
      DigestProof crates credentials auth now request
        (digestParameters parameters) algorithm := by
  cases proof with
  | basic token isBasic _ =>
      rw [isDigest] at isBasic
      have firstSame := congrArg (fun value => value.map List.head?) isBasic
      simp at firstSame
  | digest others algorithm isOthers proof =>
      rw [isDigest, Option.some.injEq,
        List.append_cancel_left_eq] at isOthers
      rw [isOthers]
      exact ⟨algorithm, proof⟩

end CamRtsp
