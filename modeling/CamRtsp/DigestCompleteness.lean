import CamRtsp.Auth
import CamRtsp.Target

namespace CamRtsp

open RustText

/-!
# Which correct Digest clients are let in

A client answers the current challenge with its parameters in any order, each
quoted or plain and with blanks around it.  The server splits the header at
every comma, also inside quotes, so it accepts the answer exactly when neither
the user name nor the URI contains one.
-/

/-- A hexadecimal digit. -/
def isHexDigit (c : Char) : Bool :=
  "0123456789abcdefABCDEF".toList.contains c

/-- The hash functions a client can choose. -/
inductive DigestAlgorithm where
  | md5
  | sha256
  deriving Repr, DecidableEq

namespace DigestAlgorithm

/-- The registered name. -/
def name : DigestAlgorithm → Text
  | md5 => "MD5".toList
  | sha256 => "SHA-256".toList

/-- The hash a client computes. -/
def hash (crates : Crates) : DigestAlgorithm → Text → Text
  | md5, text => hex (crates.md5 (toUtf8 text))
  | sha256, text => hex (crates.sha256 (toUtf8 text))

/-- The server computes the same hash for the name. -/
theorem digestHash_name
    (crates : Crates)
    (algorithm : DigestAlgorithm)
    (text : Text) :
    digestHash crates algorithm.name text = algorithm.hash crates text := by
  cases algorithm
  · have notSha :
        eqIgnoreAsciiCase "MD5".toList "SHA-256".toList = false := by
      decide
    change digestHash crates "MD5".toList text = _
    rw [digestHash, notSha, if_neg Bool.false_ne_true]
    rfl
  · have isSha :
        eqIgnoreAsciiCase "SHA-256".toList "SHA-256".toList = true := by
      decide
    change digestHash crates "SHA-256".toList text = _
    rw [digestHash, isSha, if_pos rfl]
    rfl

end DigestAlgorithm

/-- One `key="value"` or `key=value` with blanks around it. -/
structure SentParameter where
  key : Text
  value : Text
  quoted : Bool
  before : Text
  after : Text
  beforeBlank : ∀ c ∈ before, isWhitespace c = true
  afterBlank : ∀ c ∈ after, isWhitespace c = true
  plainTrimmed : quoted = false → Trimmed value

namespace SentParameter

/-- What the parameter says. -/
def entry (parameter : SentParameter) : Text × Text :=
  (parameter.key, parameter.value)

/-- The value as it is written. -/
def written (parameter : SentParameter) : Text :=
  if parameter.quoted then
    '"' :: (parameter.value ++ ['"'])
  else
    parameter.value

/-- The parameter as it is written. -/
def render (parameter : SentParameter) : Text :=
  parameter.before ++
    (parameter.key ++ '=' :: parameter.written) ++ parameter.after

end SentParameter

/-- A character that request URIs are made of. -/
def isUriChar (c : Char) : Bool :=
  '!' ≤ c && c ≤ '~' && c != '"' && c != '\\'

/-- The response a client computes with `qop=auth`. -/
def digestResponse
    (crates : Crates)
    (algorithm : DigestAlgorithm)
    (credentials : Credentials)
    (request : Request)
    (nonce nc cnonce : Text) : Text :=
  let hash := algorithm.hash crates
  let ha1 :=
    hash (colons
      [credentials.username, "camrtsp".toList, credentials.password])
  let ha2 := hash (colons [request.method, request.uri])
  hash (colons [ha1, nonce, nc, cnonce, "auth".toList, ha2])

/-- The parameters a client sends, in one order. -/
def digestEntries
    (username nonce uri response nc cnonce : Text)
    (algorithm : Option Text) : List (Text × Text) :=
  [("username".toList, username),
    ("realm".toList, "camrtsp".toList),
    ("nonce".toList, nonce),
    ("uri".toList, uri),
    ("response".toList, response),
    ("qop".toList, "auth".toList),
    ("nc".toList, nc),
    ("cnonce".toList, cnonce)] ++
    algorithm.toList.map fun name => ("algorithm".toList, name)

/--
A client that knows the password answers the current challenge, less than 300
seconds old, for a URI under the stream path.
-/
structure DigestAnswer (crates : Crates) where
  credentials : Credentials
  usernameNonempty : credentials.username ≠ []
  passwordNonempty : credentials.password ≠ []
  usernamePlain :
    ∀ c ∈ credentials.username,
      c ≠ '"' ∧ c ≠ '\\' ∧ c ≠ '\r' ∧ c ≠ '\n'
  path : Text
  pathValid : validPath path = true
  authority : Text
  query : Text
  queryForm : query = [] ∨ query.head? = some '?'
  uriPlain : ∀ c ∈ authority ++ path ++ query, isUriChar c = true
  request : Request
  uriEq : request.uri = "rtsp://".toList ++ (authority ++ path ++ query)
  auth : AuthState
  nonceData : Bytes
  nonceEq : auth.nonce = randomHex nonceData
  now : Instant
  young : elapsed auth.issued now < seconds 300
  algorithm : DigestAlgorithm
  named : Bool
  md5Default : named = false → algorithm = .md5
  nc : Text
  ncLength : nc.length = 8
  ncHex : ∀ c ∈ nc, isHexDigit c = true
  ncNonzero : ∃ c ∈ nc, c ≠ '0'
  cnonce : Text
  cnonceNonempty : cnonce ≠ []
  cnonceHex : ∀ c ∈ cnonce, isHexDigit c = true
  sent : List SentParameter
  sentAll :
    (sent.map SentParameter.entry).Perm
      (digestEntries credentials.username auth.nonce request.uri
        (digestResponse crates algorithm credentials request auth.nonce nc
          cnonce)
        nc cnonce (if named then some algorithm.name else none))
  header :
    request.header "authorization" =
      some ("Digest ".toList ++
        [','].intercalate (sent.map SentParameter.render))

/-! ## Hexadecimal text -/

/-- Hexadecimal digits are neither blank nor punctuation of the header. -/
theorem isHexDigit_plain {c : Char} (isHex : isHexDigit c = true) :
    c ≠ ',' ∧ c ≠ '"' ∧ c ≠ '+' ∧ c.toNat < 128 := by
  have everyDigit :
      ∀ c ∈ "0123456789abcdefABCDEF".toList,
        c ≠ ',' ∧ c ≠ '"' ∧ c ≠ '+' ∧ c.toNat < 128 :=
    List.all_iff_forall_prop.mp rfl
  exact everyDigit c (List.contains_iff_mem.mp isHex)

/-- Hexadecimal output consists of hexadecimal digits. -/
theorem isHexDigit_of_mem_hex {bytes : Bytes} {c : Char}
    (member : c ∈ hex bytes) :
    isHexDigit c = true := by
  simp only [hex, List.mem_flatMap, hexByte] at member
  obtain ⟨byte, _, digit⟩ := member
  have everyDigit : ∀ value : Fin 16, isHexDigit (Nat.digitChar value) := by
    decide
  have upper : byte.toNat / 16 < 16 := by
    have bound := byte.toNat_lt
    omega
  have lower : byte.toNat % 16 < 16 := Nat.mod_lt _ (by decide)
  rcases List.mem_cons.mp digit with rfl | second
  · exact everyDigit ⟨byte.toNat / 16, upper⟩
  · rw [List.mem_singleton.mp second]
    exact everyDigit ⟨byte.toNat % 16, lower⟩

/-- A hexadecimal digit has a value, and only `0` has the value zero. -/
theorem toDigit_of_isHexDigit {c : Char} (isHex : isHexDigit c = true) :
    ∃ digit, toDigit 16 c = some digit ∧ digit < 16 ∧
      (c ≠ '0' → 0 < digit) := by
  have everyDigit :
      ∀ c ∈ "0123456789abcdefABCDEF".toList,
        ∃ digit ∈ toDigit 16 c, digit < 16 ∧ (c ≠ '0' → 0 < digit) :=
    List.all_iff_forall_prop.mp rfl
  exact everyDigit c (List.contains_iff_mem.mp isHex)

/-- Hexadecimal digits read as a number in range. -/
theorem digitsValue_of_isHexDigit
    {text : Text}
    (digits : ∀ c ∈ text, isHexDigit c = true)
    (value : Nat) :
    ∃ result, digitsValue 16 value text = some result ∧
      result < (value + 1) * 16 ^ text.length ∧
      ((0 < value ∨ ∃ c ∈ text, c ≠ '0') → 0 < result) := by
  induction text generalizing value with
  | nil =>
      exact ⟨value, rfl, by simp, by simp⟩
  | cons first rest inductionHypothesis =>
      obtain ⟨digit, digitEq, bound, nonzero⟩ :=
        toDigit_of_isHexDigit (digits first List.mem_cons_self)
      obtain ⟨result, resultEq, resultBound, positive⟩ :=
        inductionHypothesis
          (List.forall_mem_of_forall_mem_cons digits)
          (value * 16 + digit)
      refine ⟨result, ?_, ?_, ?_⟩
      · rw [digitsValue, digitEq, Option.bind_some, resultEq]
      · refine Nat.lt_of_lt_of_le resultBound ?_
        rw [List.length_cons, Nat.pow_succ', ← Nat.mul_assoc]
        exact Nat.mul_le_mul_right _ (by omega)
      · rintro (valuePositive | ⟨c, member, notZero⟩)
        · exact positive (Or.inl (by omega))
        · rcases List.mem_cons.mp member with rfl | later
          · have digitPositive := nonzero notZero
            exact positive (Or.inl (by omega))
          · exact positive (Or.inr ⟨c, later, notZero⟩)

/-- Eight hexadecimal digits that are not all zero are a valid counter. -/
theorem validCounter_of_isHexDigit
    {nc : Text}
    (length : nc.length = 8)
    (digits : ∀ c ∈ nc, isHexDigit c = true)
    (nonzero : ∃ c ∈ nc, c ≠ '0') :
    validCounter nc = true := by
  obtain ⟨count, countEq, bound, positive⟩ :=
    digitsValue_of_isHexDigit digits 0
  have bytes : (toUtf8 nc).length = nc.length := by
    clear length nonzero countEq bound positive
    induction nc with
    | nil =>
        rfl
    | cons first rest inductionHypothesis =>
        have ascii :=
          (isHexDigit_plain (digits first List.mem_cons_self)).2.2.2
        rw [toUtf8_cons, utf8EncodeChar_of_ascii ascii]
        simpa using inductionHypothesis fun c member =>
          digits c (List.mem_cons_of_mem _ member)
  have noSign : nc.head? ≠ some '+' := by
    intro sign
    have plain :=
      isHexDigit_plain (digits '+' (List.mem_of_mem_head? sign))
    exact plain.2.2.1 rfl
  have nonempty : nc ≠ [] := by
    rintro rfl
    simp at length
  have inRange : count < 4294967296 := by
    rw [length] at bound
    exact Nat.lt_of_lt_of_le bound (by decide)
  have countPositive : 0 < count := positive (Or.inr nonzero)
  simp [validCounter, bytes, length, fromStrRadix, noSign, nonempty,
    countEq, Option.filter, inRange, countPositive]

/-! ## Reading the parameters back -/

/-- Blanks around trimmed text are trimmed away. -/
theorem trim_blanks
    {before text after : Text}
    (beforeBlank : ∀ c ∈ before, isWhitespace c = true)
    (afterBlank : ∀ c ∈ after, isWhitespace c = true)
    (trimmed : Trimmed text)
    (nonempty : text ≠ []) :
    trim (before ++ text ++ after) = text := by
  rw [List.append_assoc, trim_append_of_whitespace beforeBlank]
  obtain ⟨first, rest, rfl⟩ := List.exists_cons_of_ne_nil nonempty
  have firstKept := trimmed.head first rfl
  have front :
      (first :: rest ++ after).dropWhile isWhitespace =
        first :: rest ++ after := by
    simp [firstKept]
  have back :
      (first :: rest ++ after).rdropWhile isWhitespace =
        (first :: rest).rdropWhile isWhitespace := by
    rw [List.rdropWhile, List.rdropWhile, List.reverse_append,
      List.dropWhile_append_of_pos (by simpa using afterBlank)]
  rw [trim, front, back]
  have kept := trimmed.trim_eq
  rw [trim, List.dropWhile_cons_of_neg (by simp [firstKept])] at kept
  exact kept

namespace SentParameter

/-- The names of Digest parameters. -/
def names : List Text :=
  ["username".toList, "realm".toList, "nonce".toList, "uri".toList,
    "response".toList, "qop".toList, "nc".toList, "cnonce".toList,
    "algorithm".toList]

/-- Digest names survive trimming, folding and both splits. -/
theorem name_plain {name : Text} (member : name ∈ names) :
    ',' ∉ name ∧ '=' ∉ name ∧ toAsciiLowercase name = name ∧
      Trimmed name ∧ name ≠ [] := by
  revert name
  decide

variable (parameter : SentParameter)

/-- A written value ends in no blank. -/
theorem written_last :
    ∀ c ∈ ('=' :: parameter.written).getLast?,
      isWhitespace c = false := by
  intro c member
  cases isQuoted : parameter.quoted with
  | true =>
      have quote : c = '"' := by
        simpa [written, isQuoted, List.getLast?_cons,
          List.getLast?_append, eq_comm] using member
      rw [quote]
      decide
  | false =>
      have trimmed := parameter.plainTrimmed isQuoted
      rw [written, isQuoted] at member
      cases lastEq : parameter.value.getLast? with
      | none =>
          have equals : c = '=' := by
            simpa [List.getLast?_cons, lastEq, eq_comm] using member
          rw [equals]
          decide
      | some last =>
          have lastIs : c = last := by
            simpa [List.getLast?_cons, lastEq, eq_comm] using member
          rw [lastIs]
          exact trimmed.last last lastEq

/-- A written value without quotes at its ends is read back. -/
theorem read_written
    (headPlain : ∀ c ∈ parameter.value.head?, c ≠ '"')
    (lastPlain : ∀ c ∈ parameter.value.getLast?, c ≠ '"') :
    trimMatches '"' (trim parameter.written) = parameter.value := by
  have unquoted :
      trimMatches '"' parameter.value = parameter.value :=
    strip_eq_self
      (fun c member => by simpa using headPlain c member)
      (fun c member => by simpa using lastPlain c member)
  cases isQuoted : parameter.quoted with
  | false =>
      rw [written, isQuoted]
      simp only [Bool.false_eq_true, if_false]
      rw [(parameter.plainTrimmed isQuoted).trim_eq, unquoted]
  | true =>
      have quotes : Trimmed ('"' :: (parameter.value ++ ['"'])) := {
        head := by
          simp only [List.head?_cons, Option.mem_some_iff, forall_eq']
          decide
        last := by
          intro c member
          have quote : c = '"' := by
            simpa [List.getLast?_cons, List.getLast?_append, eq_comm]
              using member
          rw [quote]
          decide
      }
      have writtenEq :
          parameter.written = '"' :: (parameter.value ++ ['"']) := by
        simp [written, isQuoted]
      rw [writtenEq, quotes.trim_eq]
      cases valueEq : parameter.value with
      | nil =>
          simp [trimMatches]
      | cons first rest =>
          have firstPlain : first ≠ '"' :=
            headPlain first (by simp [valueEq])
          have back :
              (first :: rest ++ ['"']).rdropWhile (· == '"') =
                (first :: rest).rdropWhile (· == '"') :=
            List.rdropWhile_concat_pos _ _ _ (by simp)
          have front :
              ('"' :: (first :: rest ++ ['"'])).dropWhile (· == '"') =
                first :: rest ++ ['"'] := by
            simp [firstPlain]
          rw [trimMatches, front, back]
          rw [valueEq, trimMatches,
            List.dropWhile_cons_of_neg (by simpa using firstPlain)]
            at unquoted
          exact unquoted

/-- A parameter is read back as it was meant. -/
theorem digestParameter_render
    (named : parameter.key ∈ names)
    (headPlain : ∀ c ∈ parameter.value.head?, c ≠ '"')
    (lastPlain : ∀ c ∈ parameter.value.getLast?, c ≠ '"') :
    digestParameter parameter.render = some parameter.entry := by
  obtain ⟨_, noEquals, lower, nameTrimmed, nonempty⟩ :=
    name_plain named
  have isTrimmed : Trimmed (parameter.key ++ '=' :: parameter.written) := {
    head := by
      obtain ⟨first, rest, keyEq⟩ := List.exists_cons_of_ne_nil nonempty
      rw [keyEq] at nameTrimmed ⊢
      exact nameTrimmed.head
    last := by
      rw [List.getLast?_append]
      intro c member
      apply parameter.written_last c
      simpa using member
  }
  rw [digestParameter, render,
    trim_blanks parameter.beforeBlank parameter.afterBlank isTrimmed
      (by simp),
    splitOnce_append noEquals]
  simp only [Option.map_some, nameTrimmed.trim_eq, lower,
    parameter.read_written headPlain lastPlain]
  rfl

/-- A parameter without a comma in its value has none at all. -/
theorem comma_not_mem_render
    (named : parameter.key ∈ names)
    (plain : ',' ∉ parameter.value) :
    ',' ∉ parameter.render := by
  have blanks {text : Text}
      (blank : ∀ c ∈ text, isWhitespace c = true) : ',' ∉ text := by
    intro member
    have impossible := blank ',' member
    exact absurd impossible (by decide)
  have written : ',' ∉ parameter.written := by
    cases isQuoted : parameter.quoted <;>
      simp [SentParameter.written, isQuoted, plain]
  simp [render, blanks parameter.beforeBlank, blanks parameter.afterBlank,
    (name_plain named).1, written]

end SentParameter

/-- Values in the parameter map contain no comma. -/
theorem comma_not_mem_of_lookup_digestParameters
    {parameters key value : Text}
    (found : (digestParameters parameters).lookup key = some value) :
    ',' ∉ value := by
  have member := mem_of_lookup_collectMap found
  obtain ⟨piece, pieceMember, pieceEq⟩ := List.mem_filterMap.mp member
  have plain := not_mem_of_mem_splitOn pieceMember
  simp only [digestParameter, Option.map_eq_some_iff] at pieceEq
  obtain ⟨⟨before, after⟩, split, entryEq⟩ := pieceEq
  simp only [Prod.mk.injEq] at entryEq
  have inTrimmed : after <:+: trim piece := by
    rw [(splitOnce_some split).1]
    exact ⟨before ++ ['='], [], by simp⟩
  have inAfter : value <:+: trim after := by
    rw [← entryEq.2, trimMatches]
    exact (List.rdropWhile_prefix _ _).isInfix.trans
      (List.dropWhile_suffix _).isInfix
  intro comma
  exact plain
    ((inAfter.trans ((infix_trim after).trans
      (inTrimmed.trans (infix_trim piece)))).subset comma)

/-- Comma-free parameters with distinct names are all read back. -/
theorem digestParameters_render
    {sent : List SentParameter}
    (nonempty : sent ≠ [])
    (plain :
      ∀ parameter ∈ sent,
        parameter.key ∈ SentParameter.names ∧ ',' ∉ parameter.value ∧
          (∀ c ∈ parameter.value.head?, c ≠ '"') ∧
          ∀ c ∈ parameter.value.getLast?, c ≠ '"') :
    digestParameters ([','].intercalate (sent.map SentParameter.render)) =
      collectMap (sent.map SentParameter.entry) := by
  have pieces :
      ([','].intercalate (sent.map SentParameter.render)).splitOn ',' =
        sent.map SentParameter.render := by
    apply List.splitOn_intercalate
    · intro piece member
      obtain ⟨parameter, inSent, rfl⟩ := List.mem_map.mp member
      obtain ⟨named, noComma, _⟩ := plain parameter inSent
      exact parameter.comma_not_mem_render named noComma
    · simpa using nonempty
  have entries :
      (sent.map SentParameter.render).filterMap digestParameter =
        sent.map SentParameter.entry := by
    rw [List.filterMap_map, List.filterMap_eq_map_iff_forall_eq_some]
    intro parameter inSent
    obtain ⟨named, _, headPlain, lastPlain⟩ := plain parameter inSent
    exact parameter.digestParameter_render named headPlain lastPlain
  rw [digestParameters, pieces, entries]

/-! ## The exact condition -/

/-- A value that neither of the two splits can break. -/
def PlainValue (value : Text) : Prop :=
  ',' ∉ value ∧ '"' ∉ value

/-- Hexadecimal values are plain. -/
theorem plainValue_of_isHexDigit
    {value : Text}
    (digits : ∀ c ∈ value, isHexDigit c = true) :
    PlainValue value :=
  ⟨fun comma => (isHexDigit_plain (digits _ comma)).1 rfl,
    fun quote => (isHexDigit_plain (digits _ quote)).2.1 rfl⟩

/-- A computed hash is plain. -/
theorem plainValue_hash
    (crates : Crates)
    (algorithm : DigestAlgorithm)
    (text : Text) :
    PlainValue (algorithm.hash crates text) := by
  apply plainValue_of_isHexDigit
  intro c member
  cases algorithm <;> exact isHexDigit_of_mem_hex member

/-- Plain parameters are read back, in whatever order they are sent. -/
theorem lookup_digestParameters_of_perm
    {sent : List SentParameter}
    {entries : List (Text × Text)}
    (sentAll : (sent.map SentParameter.entry).Perm entries)
    (nonempty : entries ≠ [])
    (distinct : (entries.map Prod.fst).Nodup)
    (plain :
      ∀ entry ∈ entries,
        entry.1 ∈ SentParameter.names ∧ PlainValue entry.2) :
    let values :=
      digestParameters ([','].intercalate (sent.map SentParameter.render))
    (∀ key value, (key, value) ∈ entries →
      values.lookup key = some value) ∧
    ∀ key, key ∉ entries.map Prod.fst → values.lookup key = none := by
  have someSent : sent ≠ [] := by
    rintro rfl
    exact nonempty sentAll.symm.eq_nil
  have sentPlain :
      ∀ parameter ∈ sent,
        parameter.key ∈ SentParameter.names ∧ ',' ∉ parameter.value ∧
          (∀ c ∈ parameter.value.head?, c ≠ '"') ∧
          ∀ c ∈ parameter.value.getLast?, c ≠ '"' := by
    intro parameter member
    obtain ⟨named, noComma, noQuote⟩ :=
      plain parameter.entry
        (sentAll.mem_iff.mp (List.mem_map_of_mem member))
    refine ⟨named, noComma, ?_, ?_⟩
    · rintro c isHead rfl
      exact noQuote (List.mem_of_mem_head? isHead)
    · rintro c isLast rfl
      exact noQuote (List.mem_of_mem_getLast? isLast)
  have sentDistinct :
      ((sent.map SentParameter.entry).map Prod.fst).Nodup :=
    (sentAll.map Prod.fst).nodup_iff.mpr distinct
  simp only [digestParameters_render someSent sentPlain]
  constructor
  · intro key value member
    exact
      lookup_collectMap_of_mem sentDistinct (sentAll.mem_iff.mpr member)
  · intro key absent
    apply lookup_collectMap_of_not_mem
    rw [(sentAll.map Prod.fst).mem_iff]
    exact absent

section Entries

variable {username nonce uri response nc cnonce : Text}
variable {algorithm : Option Text}

/-- The names of the sent parameters. -/
theorem map_fst_digestEntries :
    (digestEntries username nonce uri response nc cnonce
        algorithm).map Prod.fst =
      SentParameter.names.take 8 ++
        algorithm.toList.map fun _ => "algorithm".toList := by
  cases algorithm <;> rfl

/-- The names of the sent parameters are distinct. -/
theorem digestEntries_distinct :
    ((digestEntries username nonce uri response nc cnonce
      algorithm).map Prod.fst).Nodup := by
  rw [map_fst_digestEntries]
  cases algorithm with
  | none =>
      decide
  | some name =>
      rw [Option.toList_some, List.map_singleton]
      decide

/-- The names of the sent parameters are Digest names. -/
theorem key_mem_names_of_mem_digestEntries
    {entry : Text × Text}
    (member :
      entry ∈
        digestEntries username nonce uri response nc cnonce algorithm) :
    entry.1 ∈ SentParameter.names := by
  have keyMember :
      entry.1 ∈
        (digestEntries username nonce uri response nc cnonce
          algorithm).map Prod.fst :=
    List.mem_map_of_mem member
  rw [map_fst_digestEntries] at keyMember
  rcases List.mem_append.mp keyMember with fixed | optional
  · exact List.mem_of_mem_take fixed
  · obtain ⟨name, _, keyEq⟩ := List.mem_map.mp optional
    rw [← keyEq]
    decide

/-- Plain values make plain parameters. -/
theorem plain_of_mem_digestEntries
    (usernamePlain : PlainValue username)
    (noncePlain : PlainValue nonce)
    (uriPlain : PlainValue uri)
    (responsePlain : PlainValue response)
    (ncPlain : PlainValue nc)
    (cnoncePlain : PlainValue cnonce)
    (algorithmPlain : ∀ name ∈ algorithm, PlainValue name)
    {entry : Text × Text}
    (member :
      entry ∈
        digestEntries username nonce uri response nc cnonce algorithm) :
    entry.1 ∈ SentParameter.names ∧ PlainValue entry.2 := by
  refine ⟨key_mem_names_of_mem_digestEntries member, ?_⟩
  rcases List.mem_append.mp member with fixed | optional
  · simp only [List.mem_cons, List.not_mem_nil, or_false] at fixed
    rcases fixed with rfl | rfl | rfl | rfl | rfl | rfl | rfl | rfl
    · exact usernamePlain
    · exact ⟨by decide, by decide⟩
    · exact noncePlain
    · exact uriPlain
    · exact responsePlain
    · exact ⟨by decide, by decide⟩
    · exact ncPlain
    · exact cnoncePlain
  · obtain ⟨name, isName, rfl⟩ := List.mem_map.mp optional
    exact algorithmPlain name (Option.mem_toList.mp isName)

end Entries

namespace DigestAnswer

variable {crates : Crates} (answer : DigestAnswer crates)

/-- The response to the challenge. -/
def response : Text :=
  digestResponse crates answer.algorithm answer.credentials answer.request
    answer.auth.nonce answer.nc answer.cnonce

/-- The algorithm as it is named in the answer. -/
def algorithmName : Option Text :=
  if answer.named then some answer.algorithm.name else none

/-- The parameters of the answer. -/
def entries : List (Text × Text) :=
  digestEntries answer.credentials.username answer.auth.nonce
    answer.request.uri answer.response answer.nc answer.cnonce
    answer.algorithmName

/-- The URI contains no quote. -/
theorem quote_not_mem_uri : '"' ∉ answer.request.uri := by
  intro member
  rw [answer.uriEq] at member
  rcases List.mem_append.mp member with scheme | rest
  · exact absurd scheme (by decide)
  · have plain := answer.uriPlain '"' rest
    exact absurd plain (by decide)

/-- The server takes the answer for the algorithm it was made with. -/
theorem algorithmName_getD :
    answer.algorithmName.getD "MD5".toList = answer.algorithm.name := by
  cases isNamed : answer.named with
  | true =>
      simp [algorithmName, isNamed]
  | false =>
      have isDefault := answer.md5Default isNamed
      simp only [algorithmName, isNamed, isDefault, Bool.false_eq_true,
        if_false, Option.getD_none]
      rfl

/-- Every parameter is plain if user name and URI have no comma. -/
theorem plain_of_mem_entries
    (usernamePlain : ',' ∉ answer.credentials.username)
    (uriPlain : ',' ∉ answer.request.uri)
    {entry : Text × Text}
    (member : entry ∈ answer.entries) :
    entry.1 ∈ SentParameter.names ∧ PlainValue entry.2 := by
  have userQuote : '"' ∉ answer.credentials.username :=
    fun quote => (answer.usernamePlain _ quote).1 rfl
  have noncePlain : PlainValue answer.auth.nonce := by
    rw [answer.nonceEq]
    exact plainValue_of_isHexDigit fun c => isHexDigit_of_mem_hex
  have algorithmPlain :
      ∀ name ∈ answer.algorithmName, PlainValue name := by
    intro name named
    have isName : answer.algorithm.name = name := by
      cases isNamed : answer.named with
      | true =>
          simpa [algorithmName, isNamed] using named
      | false =>
          simp [algorithmName, isNamed] at named
    rw [← isName]
    cases answer.algorithm <;> exact ⟨by decide, by decide⟩
  exact plain_of_mem_digestEntries ⟨usernamePlain, userQuote⟩ noncePlain
    ⟨uriPlain, answer.quote_not_mem_uri⟩ (plainValue_hash _ _ _)
    (plainValue_of_isHexDigit answer.ncHex)
    (plainValue_of_isHexDigit answer.cnonceHex) algorithmPlain member

/-- The server reads back all parameters. -/
theorem lookup_digestParameters
    (usernamePlain : ',' ∉ answer.credentials.username)
    (uriPlain : ',' ∉ answer.request.uri) :
    let values :=
      digestParameters
        ([','].intercalate (answer.sent.map SentParameter.render))
    (∀ key value, (key, value) ∈ answer.entries →
      values.lookup key = some value) ∧
    values.lookup "algorithm".toList = answer.algorithmName := by
  have sentAll :
      (answer.sent.map SentParameter.entry).Perm answer.entries :=
    answer.sentAll
  obtain ⟨found, missing⟩ :=
    lookup_digestParameters_of_perm sentAll (List.cons_ne_nil _ _)
      digestEntries_distinct
      fun entry member =>
        answer.plain_of_mem_entries usernamePlain uriPlain member
  refine ⟨found, ?_⟩
  cases isNamed : answer.algorithmName with
  | some name =>
      apply found
      simp [entries, digestEntries, isNamed]
  | none =>
      apply missing
      rw [entries, isNamed, map_fst_digestEntries]
      decide

end DigestAnswer

/-- An accepted answer has no comma in user name or URI. -/
theorem comma_free_of_authorized
    {crates : Crates}
    (answer : DigestAnswer crates)
    (accepted :
      authorized crates answer.request (some answer.credentials)
        answer.auth answer.now = true) :
    ',' ∉ answer.credentials.username ∧ ',' ∉ answer.request.uri := by
  obtain ⟨_, proof⟩ :=
    (authorized_iff.mp accepted).digestProof answer.header
  exact ⟨comma_not_mem_of_lookup_digestParameters proof.username,
    comma_not_mem_of_lookup_digestParameters proof.uri⟩

/--
A correct Digest answer to a current challenge is accepted exactly when neither
the user name nor the request URI contains a comma.
-/
theorem digest_answer_authorized_iff
    {crates : Crates}
    (answer : DigestAnswer crates) :
    authorized crates answer.request (some answer.credentials) answer.auth
        answer.now = true ↔
      ',' ∉ answer.credentials.username ∧ ',' ∉ answer.request.uri := by
  constructor
  · exact comma_free_of_authorized answer
  · rintro ⟨usernamePlain, uriPlain⟩
    obtain ⟨found, algorithmEq⟩ :=
      answer.lookup_digestParameters usernamePlain uriPlain
    have sameHash :
        digestHash crates answer.algorithm.name =
          answer.algorithm.hash crates := by
      funext text
      exact answer.algorithm.digestHash_name crates text
    rw [authorized_iff]
    refine .digest _ answer.algorithm.name answer.header {
      young := Nat.le_of_lt answer.young
      username := found _ _ (by simp [DigestAnswer.entries, digestEntries])
      realm := found _ _ (by simp [DigestAnswer.entries, digestEntries])
      nonce := found _ _ (by simp [DigestAnswer.entries, digestEntries])
      uri := found _ _ (by simp [DigestAnswer.entries, digestEntries])
      algorithmEq := ?_
      knownAlgorithm := ?_
      response := ?_
    }
    · rw [algorithmEq, answer.algorithmName_getD]
    · cases answer.algorithm
      · exact Or.inr (by decide)
      · exact Or.inl (by decide)
    · rw [sameHash]
      exact Or.inl ⟨answer.nc, answer.cnonce,
        found _ _ (by simp [DigestAnswer.entries, digestEntries]),
        found _ _ (by simp [DigestAnswer.entries, digestEntries]),
        validCounter_of_isHexDigit answer.ncLength answer.ncHex
          answer.ncNonzero,
        found _ _ (by simp [DigestAnswer.entries, digestEntries]),
        answer.cnonceNonempty,
        found _ _ (by simp [DigestAnswer.entries, digestEntries,
          DigestAnswer.response, digestResponse])⟩

/-- A parameter in quotes. -/
def quotedParameter (entry : Text × Text) : SentParameter where
  key := entry.1
  value := entry.2
  quoted := true
  before := []
  after := []
  beforeBlank := by simp
  afterBlank := by simp
  plainTrimmed := by simp

/-- The answer of a user for `rtsp://host/camera`. -/
def userAnswer
    (crates : Crates)
    (username : Text)
    (nonempty : username ≠ [])
    (plain :
      ∀ c ∈ username, c ≠ '"' ∧ c ≠ '\\' ∧ c ≠ '\r' ∧ c ≠ '\n') :
    DigestAnswer crates :=
  let credentials : Credentials := {
    username := username
    password := "secret".toList
  }
  let uri := "rtsp://host/camera".toList
  let nonce := randomHex [0x5a]
  let nc := "00000001".toList
  let cnonce := "0a".toList
  let sent : List (Text × Text) :=
    digestEntries credentials.username nonce uri
      (digestResponse crates .sha256 credentials
        { method := "DESCRIBE".toList, uri := uri, headers := ∅ }
        nonce nc cnonce)
      nc cnonce (some DigestAlgorithm.sha256.name)
  { credentials := credentials
    usernameNonempty := nonempty
    passwordNonempty := List.cons_ne_nil _ _
    usernamePlain := plain
    path := "/camera".toList
    pathValid := by decide
    authority := "host".toList
    query := []
    queryForm := Or.inl rfl
    uriPlain := List.all_eq_true.mp rfl
    request := {
      method := "DESCRIBE".toList
      uri := uri
      headers :=
        collectMap
          [("authorization".toList,
            "Digest ".toList ++
              [','].intercalate
                ((sent.map quotedParameter).map
                  SentParameter.render))]
    }
    uriEq := by
      change "rtsp://host/camera".toList = _
      decide
    auth := { nonce := nonce, issued := 0 }
    nonceData := [0x5a]
    nonceEq := rfl
    now := 0
    young := by decide
    algorithm := .sha256
    named := true
    md5Default := by simp
    nc := nc
    ncLength := by decide
    ncHex := List.all_eq_true.mp rfl
    ncNonzero := ⟨'1', by decide, by decide⟩
    cnonce := cnonce
    cnonceNonempty := by decide
    cnonceHex := List.all_eq_true.mp rfl
    sent := sent.map quotedParameter
    sentAll := List.Perm.refl _
    header := by
      apply lookup_collectMap_of_mem
      · exact List.nodup_singleton _
      · exact List.mem_singleton_self _ }

/-- The correct answer of the user `ab` is accepted, whatever the hashes. -/
theorem digest_answer_authorized_plain :
    ∃ username nonempty plain,
      username = "ab".toList ∧
        ∀ crates : Crates,
          let answer := userAnswer crates username nonempty plain
          authorized crates answer.request (some answer.credentials)
            answer.auth answer.now = true := by
  refine ⟨"ab".toList, by decide, List.all_iff_forall_prop.mp rfl, rfl, ?_⟩
  intro crates
  apply (digest_answer_authorized_iff _).mpr
  constructor
  · change ',' ∉ "ab".toList
    decide
  · change ',' ∉ "rtsp://host/camera".toList
    decide

/-- The correct answer of the user `a,b` is rejected, whatever the hashes. -/
theorem digest_answer_rejected_for_comma :
    ¬ ∃ crates : Crates, ∀ answer : DigestAnswer crates,
      authorized crates answer.request (some answer.credentials)
        answer.auth answer.now = true := by
  rintro ⟨crates, accepts⟩
  let answer :=
    userAnswer crates "a,b".toList (by decide)
      (List.all_iff_forall_prop.mp rfl)
  have plain := comma_free_of_authorized answer (accepts answer)
  have comma : ',' ∈ answer.credentials.username := by
    change ',' ∈ "a,b".toList
    decide
  exact plain.1 comma

end CamRtsp
