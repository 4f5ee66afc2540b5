import CamRtsp.RequestFraming

namespace CamRtsp

open RustText CrlfLines

/-!
# What is known about a parsed request

The URI of a parsed request is a single word, and its header values are trimmed
parts of single lines.
-/

/-- A word of a request line contains no carriage return. -/
theorem cr_not_mem_word
    {word : Text}
    (isWord : IsWord word) :
    '\r' ∉ word := by
  intro member
  have visible := isWord.solid '\r' member
  exact absurd visible (by decide)

/-- Every stored header value is trimmed and lies within a line. -/
theorem parseHeaders_values
    {headers parsed : TextMap}
    {lines : List Text}
    (free : ∀ line ∈ lines, CrlfFree '\r' '\n' line)
    (before :
      ∀ name value, headers.lookup name = some value →
        Trimmed value ∧ CrlfFree '\r' '\n' value)
    (parses : parseHeaders headers lines = .ok parsed) :
    ∀ name value, parsed.lookup name = some value →
      Trimmed value ∧ CrlfFree '\r' '\n' value := by
  induction lines generalizing headers with
  | nil =>
      cases parses
      exact before
  | cons line later inductionHypothesis =>
      cases split : splitOnce ':' line with
      | none =>
          simp [parseHeaders, split] at parses
      | some pair =>
          obtain ⟨key, value⟩ := pair
          simp only [parseHeaders, split] at parses
          split at parses
          · cases parses
          · refine inductionHypothesis
              (fun other member => free other (by simp [member])) ?_
              parses
            intro name stored found
            by_cases isKey : name = toAsciiLowercase (trim key)
            · subst isKey
              rw [AList.lookup_insert, Option.some.injEq] at found
              subst found
              obtain ⟨shape, _⟩ := splitOnce_some split
              have inLine : value <:+: line :=
                ⟨key ++ [':'], [], by simp [shape]⟩
              exact ⟨trimmed_trim value,
                (free line (by simp)).part
                  ((infix_trim value).trans inLine)⟩
            · rw [AList.lookup_insert_ne isKey] at found
              exact before name stored found

/-- What the server relies on about a request it has parsed. -/
structure Request.Parsed (request : Request) : Prop where
  uri : IsWord request.uri
  values :
    ∀ name value, request.headers.lookup name = some value →
      Trimmed value ∧ CrlfFree '\r' '\n' value

theorem parsed_of_parseRequest
    {raw : Text}
    {request : Request}
    (parses : parseRequest raw = .ok request) :
    request.Parsed := by
  simp only [parseRequest] at parses
  split at parses
  · cases parses
  · cases parses
  · rename_i method uri version words
    split at parses
    · have uriWord :
          uri ∈ splitWhitespace
            ((splitLines '\r' '\n' raw).headD []) := by
        rw [words]
        simp
      have free :
          ∀ line ∈ (splitLines '\r' '\n' raw).tail.filter
              fun line => !line.isEmpty,
            CrlfFree '\r' '\n' line := by
        intro line member
        exact crlfFree_of_mem_splitLines
          (List.mem_of_mem_tail (List.mem_of_mem_filter member))
      generalize (splitLines '\r' '\n' raw).tail.filter
        (fun line => !line.isEmpty) = lines at free parses
      cases headersParse : parseHeaders ∅ lines with
      | error error =>
          rw [headersParse] at parses
          cases parses
      | ok headers =>
          rw [headersParse] at parses
          cases parses
          exact {
            uri := isWord_of_mem_splitWhitespace uriWord
            values :=
              parseHeaders_values free (by simp) headersParse
          }
    · cases parses

/-- The CSeq that is echoed lies within a line and has no blanks around it. -/
theorem Request.Parsed.cseq
    {request : Request}
    (parsed : request.Parsed) :
    Trimmed request.cseq ∧ CrlfFree '\r' '\n' request.cseq := by
  unfold Request.cseq Request.header
  cases found :
      request.headers.lookup (toAsciiLowercase "cseq".toList) with
  | none =>
      exact ⟨by decide, crlfFree_of_not_mem (by decide)⟩
  | some value =>
      exact parsed.values _ _ found

/-- Requests that are taken off the buffer are parsed. -/
theorem parsed_of_takeRequest
    {input rest : Bytes}
    {request : Request}
    (taken : takeRequest input = .ok (some request, rest)) :
    request.Parsed := by
  obtain ⟨text, _, textTaken⟩ := takeText_of_takeRequest taken
  obtain ⟨_, _, _, _, _, _, _, _, _, _, _, parse⟩ :=
    textRequest_of_takeText textTaken
  exact parsed_of_parseRequest parse

/-- The request an iteration reads is parsed. -/
theorem parsed_of_readControl
    {read : ReadOutcome}
    {input rest : Bytes}
    {request : Request}
    (isRead : readControl read input = .ok (some request, rest)) :
    request.Parsed := by
  unfold readControl at isRead
  split at isRead
  · cases isRead
  · rename_i taken
    cases isRead
    exact parsed_of_takeRequest taken
  · split at isRead
    · cases isRead
    · exact parsed_of_takeRequest isRead
    · split at isRead <;> cases isRead

end CamRtsp
