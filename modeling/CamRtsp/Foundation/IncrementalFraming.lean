import Mathlib.Data.List.Basic

/-!
# Incremental framing

A connection delivers a byte stream in arbitrary pieces.  A framing parser
keeps a buffer: it is called until it yields no message, then the next piece
is appended.  A parser whose answers never change when more bytes follow
(`PrefixStable`) makes the messages a function of the stream alone.

The second part is the matching decode-after-encode rule: if every encoded
message is taken off the front of whatever follows it, then a concatenation of
encodings drains to exactly the encoded messages.
-/

namespace IncrementalFraming

variable {β μ ε σ : Type}

/--
A framing parser.  `take` removes at most one message from the front of the
buffer, and a yielded message always consumes something.
-/
structure Parser (β μ ε : Type) where
  take : List β → Except ε (Option μ × List β)
  consumes :
    ∀ {buffer message rest},
      take buffer = .ok (some message, rest) →
      rest.length < buffer.length

/--
What a parser yields before it stops, and how it stops: with an error, or
waiting with the unconsumed items.
-/
abbrev Outcome (β μ ε : Type) :=
  List μ × Except ε (List β)

/-- Outcomes that agree up to which error is reported. -/
def SameOutcome (first second : Outcome β μ ε) : Prop :=
  first.1 = second.1 ∧ first.2.toOption = second.2.toOption

theorem SameOutcome.refl (outcome : Outcome β μ ε) :
    SameOutcome outcome outcome :=
  ⟨rfl, rfl⟩

theorem SameOutcome.symm
    {first second : Outcome β μ ε}
    (same : SameOutcome first second) :
    SameOutcome second first :=
  ⟨same.1.symm, same.2.symm⟩

theorem SameOutcome.trans
    {first second third : Outcome β μ ε}
    (firstSecond : SameOutcome first second)
    (secondThird : SameOutcome second third) :
    SameOutcome first third :=
  ⟨firstSecond.1.trans secondThird.1,
    firstSecond.2.trans secondThird.2⟩

/-- Put already yielded messages in front of an outcome. -/
def prepend
    (messages : List μ)
    (outcome : Outcome β μ ε) : Outcome β μ ε :=
  (messages ++ outcome.1, outcome.2)

@[simp] theorem prepend_nil (outcome : Outcome β μ ε) :
    prepend [] outcome = outcome :=
  rfl

@[simp] theorem prepend_append
    (first second : List μ)
    (outcome : Outcome β μ ε) :
    prepend (first ++ second) outcome =
      prepend first (prepend second outcome) := by
  simp [prepend]

theorem SameOutcome.prepend
    {first second : Outcome β μ ε}
    (same : SameOutcome first second)
    (messages : List μ) :
    SameOutcome
      (prepend messages first) (IncrementalFraming.prepend messages second) :=
  ⟨congrArg (messages ++ ·) same.1, same.2⟩

namespace Parser

/-- Call `take` until it yields no message. -/
def drain (parser : Parser β μ ε) (buffer : List β) : Outcome β μ ε :=
  match _taken : parser.take buffer with
  | .error error => ([], .error error)
  | .ok (none, rest) => ([], .ok rest)
  | .ok (some message, rest) => prepend [message] (parser.drain rest)
termination_by buffer.length
decreasing_by exact parser.consumes _taken

/-- Drain, then append the next read, until the reads are used up. -/
def feed
    (parser : Parser β μ ε)
    (buffer : List β) : List (List β) → Outcome β μ ε
  | [] => parser.drain buffer
  | read :: reads =>
      match parser.drain buffer with
      | (messages, .error error) => (messages, .error error)
      | (messages, .ok rest) =>
          prepend messages (parser.feed (rest ++ read) reads)

/--
More items never change an answer: a message or an error stays one, and what
was consumed without an answer does not matter any more.
-/
structure PrefixStable (parser : Parser β μ ε) : Prop where
  message :
    ∀ {buffer message rest},
      parser.take buffer = .ok (some message, rest) →
      ∀ later,
        parser.take (buffer ++ later) =
          .ok (some message, rest ++ later)
  error :
    ∀ {buffer error},
      parser.take buffer = .error error →
      ∀ later, ∃ laterError,
        parser.take (buffer ++ later) = .error laterError
  pending :
    ∀ {buffer rest},
      parser.take buffer = .ok (none, rest) →
      ∀ later,
        parser.take (buffer ++ later) = parser.take (rest ++ later)

variable {parser : Parser β μ ε}

theorem drain_error
    {buffer : List β}
    {error : ε}
    (taken : parser.take buffer = .error error) :
    parser.drain buffer = ([], .error error) := by
  rw [drain]
  split <;> simp_all

theorem drain_pending
    {buffer rest : List β}
    (taken : parser.take buffer = .ok (none, rest)) :
    parser.drain buffer = ([], .ok rest) := by
  rw [drain]
  split <;> simp_all

theorem drain_message
    {buffer rest : List β}
    {message : μ}
    (taken : parser.take buffer = .ok (some message, rest)) :
    parser.drain buffer = prepend [message] (parser.drain rest) := by
  rw [drain]
  split <;> simp_all

/-- Buffers with the same next answer drain alike. -/
theorem drain_congr
    {first second : List β}
    (same : parser.take first = parser.take second) :
    parser.drain first = parser.drain second := by
  cases taken : parser.take second with
  | error error =>
      rw [drain_error taken, drain_error (same.trans taken)]
  | ok answer =>
      obtain ⟨message, rest⟩ := answer
      cases message with
      | none =>
          rw [drain_pending taken, drain_pending (same.trans taken)]
      | some message =>
          rw [drain_message taken, drain_message (same.trans taken)]

/-- Draining a prefix first does not change the outcome. -/
theorem drain_append
    (stable : parser.PrefixStable)
    (buffer later : List β) :
    SameOutcome
      (parser.drain (buffer ++ later))
      (match parser.drain buffer with
        | (messages, .error error) => (messages, .error error)
        | (messages, .ok rest) =>
            prepend messages (parser.drain (rest ++ later))) := by
  cases taken : parser.take buffer with
  | error error =>
      obtain ⟨laterError, laterTaken⟩ := stable.error taken later
      rw [drain_error taken, drain_error laterTaken]
      exact ⟨rfl, rfl⟩
  | ok answer =>
      obtain ⟨message, rest⟩ := answer
      cases message with
      | none =>
          rw [drain_pending taken,
            drain_congr (stable.pending taken later)]
          exact .refl _
      | some message =>
          have restAppend := drain_append stable rest later
          rw [drain_message taken,
            drain_message (stable.message taken later)]
          have step := restAppend.prepend [message]
          cases drained : parser.drain rest with
          | mk messages stop =>
              rw [drained] at step
              cases stop with
              | error error =>
                  simpa [prepend] using step
              | ok unconsumed =>
                  simpa [prepend] using step
termination_by buffer.length
decreasing_by exact parser.consumes taken

/-- Feeding reads has the outcome of draining their concatenation. -/
theorem feed_flatten
    (stable : parser.PrefixStable)
    (buffer : List β)
    (reads : List (List β)) :
    SameOutcome
      (parser.feed buffer reads)
      (parser.drain (buffer ++ reads.flatten)) := by
  induction reads generalizing buffer with
  | nil =>
      simpa [feed] using SameOutcome.refl _
  | cons read reads inductionHypothesis =>
      have whole := drain_append stable buffer (read ++ reads.flatten)
      rw [List.flatten_cons, feed]
      cases drained : parser.drain buffer with
      | mk messages stop =>
          rw [drained] at whole
          cases stop with
          | error error =>
              exact whole.symm
          | ok rest =>
              have fed := inductionHypothesis (rest ++ read)
              rw [List.append_assoc] at fed
              exact (fed.prepend messages).trans whole.symm

/-- Two ways of cutting one stream into reads have the same outcome. -/
theorem feed_of_flatten_eq
    (stable : parser.PrefixStable)
    {first second : List (List β)}
    (sameStream : first.flatten = second.flatten) :
    SameOutcome (parser.feed [] first) (parser.feed [] second) := by
  have firstWhole := feed_flatten stable [] first
  have secondWhole := feed_flatten stable [] second
  rw [sameStream] at firstWhole
  exact firstWhole.trans secondWhole.symm

/-- A message that is not complete yet yields nothing. -/
theorem drain_of_incomplete
    (stable : parser.PrefixStable)
    {front back : List β}
    {message : μ}
    (whole : parser.take (front ++ back) = .ok (some message, []))
    (incomplete : back ≠ []) :
    ∃ rest, parser.drain front = ([], .ok rest) := by
  cases taken : parser.take front with
  | error error =>
      obtain ⟨laterError, laterTaken⟩ := stable.error taken back
      rw [whole] at laterTaken
      cases laterTaken
  | ok answer =>
      obtain ⟨yielded, rest⟩ := answer
      cases yielded with
      | none =>
          exact ⟨rest, drain_pending taken⟩
      | some other =>
          have laterTaken := stable.message taken back
          rw [whole] at laterTaken
          simp only [Except.ok.injEq, Prod.mk.injEq] at laterTaken
          have empty := (List.append_eq_nil_iff.mp laterTaken.2.symm).2
          exact (incomplete empty).elim

/--
If each encoded message is either skipped or yielded in front of anything,
draining a concatenation yields the meanings and continues behind it.
-/
theorem drain_flatMap
    {encode : σ → List β}
    {meaning : σ → Option μ}
    {sources : List σ}
    (skipped :
      ∀ source ∈ sources,
        meaning source = none →
        ∀ later,
          parser.take (encode source ++ later) = parser.take later)
    (yielded :
      ∀ source ∈ sources, ∀ message,
        meaning source = some message →
        ∀ later,
          parser.take (encode source ++ later) =
            .ok (some message, later))
    (later : List β) :
    parser.drain (sources.flatMap encode ++ later) =
      prepend (sources.filterMap meaning) (parser.drain later) := by
  induction sources with
  | nil =>
      simp
  | cons source sources inductionHypothesis =>
      have tail :=
        inductionHypothesis
          (fun other member => skipped other (by simp [member]))
          (fun other member => yielded other (by simp [member]))
      rw [List.flatMap_cons, List.append_assoc]
      cases means : meaning source with
      | none =>
          rw [drain_congr (skipped source (by simp) means _), tail]
          simp [means]
      | some message =>
          rw [drain_message (yielded source (by simp) message means _),
            tail]
          simp [means, prepend]

end Parser

end IncrementalFraming
