import CamRtsp.Foundation.RustText

/-!
# Lines terminated by CR LF

Text protocols delimit header lines by a CR LF pair and end a header block
with an empty line.  The lemmas are stated over any alphabet with two distinct
symbols `cr` and `lf`, so that they apply both to bytes, where a scanner looks
for the end of a block, and to decoded characters, where the block is split
into lines.  The last section carries a block of character lines to its UTF-8
bytes.
-/

namespace CrlfLines

variable {α : Type}

section Position

variable [DecidableEq α]

/-- `slice::windows(n).position(|window| window == pattern)`. -/
def position (pattern : List α) : List α → Option Nat
  | [] => if pattern = [] then some 0 else none
  | item :: rest =>
      if pattern <+: item :: rest then
        some 0
      else
        (position pattern rest).map (· + 1)

/-- A reported position is the start of an occurrence. -/
theorem position_some
    {pattern items : List α}
    {start : Nat}
    (found : position pattern items = some start) :
    pattern <+: items.drop start ∧
      start + pattern.length ≤ items.length := by
  induction items generalizing start with
  | nil =>
      simp only [position] at found
      split at found
      · rename_i isEmpty
        cases found
        simp [isEmpty]
      · cases found
  | cons item rest inductionHypothesis =>
      by_cases here : pattern <+: item :: rest
      · simp only [position, here, ↓reduceIte,
          Option.some.injEq] at found
        subst start
        exact ⟨here, by simpa using here.length_le⟩
      · simp only [position, here, ↓reduceIte,
          Option.map_eq_some_iff] at found
        obtain ⟨later, restFound, rfl⟩ := found
        obtain ⟨occurrence, bound⟩ := inductionHypothesis restFound
        refine ⟨by simpa using occurrence, ?_⟩
        simp only [List.length_cons]
        omega

/-- Where the pattern occurs, some position is reported, and no later one. -/
theorem position_le_of_occurrence
    {pattern items : List α}
    {start : Nat}
    (occurrence : pattern <+: items.drop start)
    (bound : start ≤ items.length) :
    ∃ first, position pattern items = some first ∧ first ≤ start := by
  induction items generalizing start with
  | nil =>
      have isEmpty : pattern = [] := by simpa using occurrence
      exact ⟨0, by simp [position, isEmpty], Nat.zero_le _⟩
  | cons item rest inductionHypothesis =>
      by_cases here : pattern <+: item :: rest
      · exact ⟨0, by simp [position, here], Nat.zero_le _⟩
      · cases start with
        | zero =>
            exact (here (by simpa using occurrence)).elim
        | succ before =>
            have restOccurrence : pattern <+: rest.drop before := by
              simpa using occurrence
            obtain ⟨first, found, firstLe⟩ :=
              inductionHypothesis restOccurrence (by simpa using bound)
            exact ⟨first + 1, by simp [position, here, found],
              Nat.succ_le_succ firstLe⟩

/-- Items after an occurrence do not move the reported position. -/
theorem position_append_of_some
    {pattern items : List α}
    {start : Nat}
    (found : position pattern items = some start)
    (later : List α) :
    position pattern (items ++ later) = some start := by
  induction items generalizing start with
  | nil =>
      simp only [position] at found
      split at found
      · rename_i isEmpty
        cases found
        cases later <;> simp [position, isEmpty]
      · cases found
  | cons item rest inductionHypothesis =>
      by_cases here : pattern <+: item :: rest
      · simp only [position, here, ↓reduceIte,
          Option.some.injEq] at found
        have stillHere : pattern <+: item :: (rest ++ later) := by
          simpa using here.trans (List.prefix_append _ later)
        simp [position, stillHere, found]
      · simp only [position, here, ↓reduceIte,
          Option.map_eq_some_iff] at found
        obtain ⟨before, restFound, rfl⟩ := found
        have stillAbsent : ¬ pattern <+: item :: (rest ++ later) := by
          intro appears
          have shorter : pattern.length ≤ (item :: rest).length := by
            have bound := (position_some restFound).2
            simp only [List.length_cons]
            omega
          exact here
            (List.prefix_of_prefix_length_le appears
              (by simp) shorter)
        simp [position, stillAbsent, inductionHypothesis restFound]

/-- An occurrence that only later items complete reaches into them. -/
theorem length_lt_of_position_append
    {pattern items later : List α}
    {start : Nat}
    (absent : position pattern items = none)
    (found : position pattern (items ++ later) = some start) :
    items.length < start + pattern.length := by
  by_contra inside
  obtain ⟨occurrence, _⟩ := position_some found
  have contained : pattern <+: items.drop start := by
    rw [List.drop_append_of_le_length (by omega)] at occurrence
    refine List.prefix_of_prefix_length_le occurrence
      (List.prefix_append _ _) ?_
    simp only [List.length_drop]
    omega
  obtain ⟨first, earlier, _⟩ :=
    position_le_of_occurrence contained (by omega)
  simp [absent] at earlier

end Position

variable (cr lf : α)

/-- `str::split("\r\n")`. -/
def splitLines [DecidableEq α] : List α → List (List α)
  | [] => [[]]
  | [item] => [[item]]
  | first :: second :: rest =>
      if first = cr ∧ second = lf then
        [] :: splitLines rest
      else
        (splitLines (second :: rest)).modifyHead (first :: ·)

/-- The items contain no terminator. -/
def CrlfFree (items : List α) : Prop :=
  ¬ [cr, lf] <:+: items

/-- Every line followed by its terminator. -/
def joinLines (lines : List (List α)) : List α :=
  lines.flatMap (· ++ [cr, lf])

/-- Header lines followed by the empty line. -/
def headerBlock (lines : List (List α)) : List α :=
  joinLines cr lf lines ++ [cr, lf]

/-- The pattern that ends a header block. -/
def blankLine : List α :=
  [cr, lf, cr, lf]

variable {cr lf}

@[simp] theorem crlfFree_nil : CrlfFree cr lf [] := by
  simp [CrlfFree]

/-- Items after the first are free of terminators as well. -/
theorem CrlfFree.tail
    {item : α}
    {items : List α}
    (free : CrlfFree cr lf (item :: items)) :
    CrlfFree cr lf items :=
  fun occurs => free (occurs.trans (List.suffix_cons item items).isInfix)

/-- Any contiguous part is free of terminators. -/
theorem CrlfFree.part
    {part items : List α}
    (free : CrlfFree cr lf items)
    (isPart : part <:+: items) :
    CrlfFree cr lf part :=
  fun occurs => free (occurs.trans isPart)

/-- Two adjacent items of a free list are not a terminator. -/
theorem CrlfFree.adjacent
    {first second : α}
    {rest : List α}
    (free : CrlfFree cr lf (first :: second :: rest)) :
    ¬ (first = cr ∧ second = lf) := by
  rintro ⟨rfl, rfl⟩
  exact free ⟨[], rest, rfl⟩

/-- Prepending keeps a list free unless the new item starts a terminator. -/
theorem crlfFree_cons
    {item : α}
    {items : List α}
    (free : CrlfFree cr lf items)
    (noPair : item = cr → items.head? ≠ some lf) :
    CrlfFree cr lf (item :: items) := by
  rintro ⟨before, after, shape⟩
  cases before with
  | nil =>
      simp only [List.nil_append, List.cons_append,
        List.cons.injEq] at shape
      obtain ⟨itemEq, itemsEq⟩ := shape
      exact noPair itemEq.symm (by simp [← itemsEq])
  | cons first before =>
      simp only [List.cons_append, List.cons.injEq] at shape
      exact free ⟨before, after, by simpa using shape.2⟩

/-- A list without `cr` contains no terminator. -/
theorem crlfFree_of_not_mem
    {items : List α}
    (absent : cr ∉ items) :
    CrlfFree cr lf items :=
  fun occurs => absent (occurs.subset (by simp))

/--
Free parts concatenate to a free list when the second does not start with
`lf`.
-/
theorem CrlfFree.append
    {first second : List α}
    (firstFree : CrlfFree cr lf first)
    (secondFree : CrlfFree cr lf second)
    (noLineFeed : second.head? ≠ some lf) :
    CrlfFree cr lf (first ++ second) := by
  induction first with
  | nil =>
      simpa using secondFree
  | cons item rest inductionHypothesis =>
      rw [List.cons_append]
      apply crlfFree_cons (inductionHypothesis firstFree.tail)
      intro isCr
      cases rest with
      | nil =>
          simpa using noLineFeed
      | cons next rest =>
          intro isLf
          simp only [List.cons_append, List.head?_cons,
            Option.some.injEq] at isLf
          exact firstFree.adjacent ⟨isCr, isLf⟩

/-- Items other than `cr` in front complete no terminator. -/
theorem CrlfFree.append_of_not_mem
    {first second : List α}
    (absent : cr ∉ first)
    (free : CrlfFree cr lf second) :
    CrlfFree cr lf (first ++ second) := by
  induction first with
  | nil =>
      simpa using free
  | cons item rest inductionHypothesis =>
      simp only [List.mem_cons, not_or] at absent
      exact crlfFree_cons (inductionHypothesis absent.2)
        fun isCr => (absent.1 isCr.symm).elim

/-- A non-empty free line never starts with a terminator. -/
theorem not_crlf_prefix_line
    {line : List α}
    (free : CrlfFree cr lf line)
    (nonempty : line ≠ [])
    (distinct : cr ≠ lf)
    (rest : List α) :
    ¬ [cr, lf] <+: line ++ cr :: rest := by
  intro starts
  match line with
  | [] =>
      exact nonempty rfl
  | [item] =>
      simp only [List.cons_append, List.nil_append,
        List.cons_prefix_cons] at starts
      exact distinct starts.2.1.symm
  | first :: second :: line =>
      simp only [List.cons_append, List.cons_prefix_cons] at starts
      exact free.adjacent ⟨starts.1.symm, starts.2.1.symm⟩

variable [DecidableEq α]

/-- Splitting takes a line off the front of terminated text. -/
theorem splitLines_line
    {line : List α}
    (free : CrlfFree cr lf line)
    (distinct : cr ≠ lf)
    (rest : List α) :
    splitLines cr lf (line ++ cr :: lf :: rest) =
      line :: splitLines cr lf rest := by
  induction line with
  | nil =>
      simp [splitLines]
  | cons first line inductionHypothesis =>
      have restSplit := inductionHypothesis free.tail
      cases line with
      | nil =>
          have notPair : ¬ (first = cr ∧ cr = lf) :=
            fun both => distinct both.2
          simp only [List.nil_append] at restSplit
          simp [splitLines, notPair]
      | cons second line =>
          have notPair := free.adjacent
          simp only [List.cons_append] at restSplit
          simp [splitLines, notPair, restSplit]

/-- The first piece starts with `lf` only if the text does. -/
theorem head?_of_head?_splitLines
    {items piece : List α}
    (isFirst : (splitLines cr lf items).head? = some piece)
    (startsLf : piece.head? = some lf) :
    items.head? = some lf := by
  match items with
  | [] =>
      simp only [splitLines, List.head?_cons,
        Option.some.injEq] at isFirst
      simp [← isFirst] at startsLf
  | [item] =>
      simp only [splitLines, List.head?_cons,
        Option.some.injEq] at isFirst
      simpa [← isFirst] using startsLf
  | first :: second :: rest =>
      by_cases pair : first = cr ∧ second = lf
      · rw [splitLines, if_pos pair] at isFirst
        simp only [List.head?_cons, Option.some.injEq] at isFirst
        simp [← isFirst] at startsLf
      · rw [splitLines, if_neg pair, List.head?_modifyHead,
          Option.map_eq_some_iff] at isFirst
        obtain ⟨later, _, rfl⟩ := isFirst
        simpa using startsLf

/-- Every piece of a split is free of terminators. -/
theorem crlfFree_of_mem_splitLines
    {items piece : List α}
    (member : piece ∈ splitLines cr lf items) :
    CrlfFree cr lf piece := by
  induction items using splitLines.induct cr lf
    generalizing piece with
  | case1 =>
      simp only [splitLines, List.mem_singleton] at member
      simp [member]
  | case2 item =>
      simp only [splitLines, List.mem_singleton] at member
      subst piece
      exact crlfFree_cons crlfFree_nil (by simp)
  | case3 first second rest pair inductionHypothesis =>
      rw [splitLines, if_pos pair, List.mem_cons] at member
      rcases member with isEmpty | inRest
      · simp [isEmpty]
      · exact inductionHypothesis inRest
  | case4 first second rest notPair inductionHypothesis =>
      rw [splitLines, if_neg notPair] at member
      cases pieces : splitLines cr lf (second :: rest) with
      | nil =>
          simp [pieces] at member
      | cons head tail =>
          simp only [pieces, List.modifyHead_cons,
            List.mem_cons] at member
          rcases member with isHead | inTail
          · subst piece
            apply crlfFree_cons
            · exact inductionHypothesis (by simp [pieces])
            · intro isCr headLf
              have isFirst :
                  (splitLines cr lf (second :: rest)).head? =
                    some head := by
                simp [pieces]
              have secondLf := head?_of_head?_splitLines isFirst headLf
              exact notPair
                ⟨isCr, Option.some.inj secondLf⟩
          · exact inductionHypothesis (by simp [pieces, inTail])

/-- Splitting a run of terminated lines gives the lines. -/
theorem splitLines_joinLines
    {lines : List (List α)}
    (free : ∀ line ∈ lines, CrlfFree cr lf line)
    (distinct : cr ≠ lf)
    (rest : List α) :
    splitLines cr lf (joinLines cr lf lines ++ rest) =
      lines ++ splitLines cr lf rest := by
  induction lines with
  | nil =>
      simp [joinLines]
  | cons line lines inductionHypothesis =>
      have tailSplit :=
        inductionHypothesis fun later member =>
          free later (by simp [member])
      have headSplit :=
        splitLines_line (free line (by simp)) distinct
          (joinLines cr lf lines ++ rest)
      simp only [joinLines, List.flatMap_cons, List.append_assoc,
        List.cons_append, List.nil_append] at headSplit tailSplit ⊢
      rw [headSplit, tailSplit]

/-- Splitting a header block gives its lines and two empty pieces. -/
theorem splitLines_headerBlock
    {lines : List (List α)}
    (free : ∀ line ∈ lines, CrlfFree cr lf line)
    (distinct : cr ≠ lf) :
    splitLines cr lf (headerBlock cr lf lines) =
      lines ++ [[], []] := by
  rw [headerBlock, splitLines_joinLines free distinct]
  simp [splitLines]

/-- The end of a line starts a blank line exactly when a terminator follows. -/
theorem position_blankLine_line
    {line : List α}
    (free : CrlfFree cr lf line)
    (distinct : cr ≠ lf)
    (rest : List α) :
    position (blankLine cr lf) (line ++ cr :: lf :: rest) =
      if [cr, lf] <+: rest then
        some line.length
      else
        (position (blankLine cr lf) rest).map
          (· + (line.length + 2)) := by
  induction line with
  | nil =>
      have notAtLf : ¬ blankLine cr lf <+: lf :: rest := by
        simp [blankLine, distinct]
      by_cases follows : [cr, lf] <+: rest
      · have here : blankLine cr lf <+: cr :: lf :: rest := by
          simpa [blankLine] using follows
        simp [position, here, follows]
      · have notHere : ¬ blankLine cr lf <+: cr :: lf :: rest := by
          simpa [blankLine] using follows
        simp only [List.nil_append, position, notHere, ↓reduceIte,
          notAtLf, follows, Option.map_map, List.length_nil]
        rfl
  | cons first line inductionHypothesis =>
      have notHere :
          ¬ blankLine cr lf <+: first :: (line ++ cr :: lf :: rest) := by
        intro here
        simp only [blankLine, List.cons_prefix_cons] at here
        obtain ⟨isCr, tailPrefix⟩ := here
        cases line with
        | nil =>
            simp only [List.nil_append, List.cons_prefix_cons]
              at tailPrefix
            exact distinct tailPrefix.1.symm
        | cons second line =>
            simp only [List.cons_append, List.cons_prefix_cons]
              at tailPrefix
            exact free.adjacent ⟨isCr.symm, tailPrefix.1.symm⟩
      rw [List.cons_append, position, if_neg notHere,
        inductionHypothesis free.tail]
      split
      · simp
      · simp only [Option.map_map, List.length_cons]
        congr 1

/-- The first blank line after a header block's start is the block's end. -/
theorem position_headerBlock
    {lines : List (List α)}
    (nonempty : lines ≠ [])
    (free : ∀ line ∈ lines, CrlfFree cr lf line)
    (solid : ∀ line ∈ lines, line ≠ [])
    (distinct : cr ≠ lf)
    (rest : List α) :
    ∃ start,
      position (blankLine cr lf) (headerBlock cr lf lines ++ rest) =
          some start ∧
        start + 4 = (headerBlock cr lf lines).length := by
  induction lines with
  | nil =>
      exact (nonempty rfl).elim
  | cons line lines inductionHypothesis =>
      have lineFree := free line (by simp)
      have shape :
          headerBlock cr lf (line :: lines) ++ rest =
            line ++ cr :: lf :: (headerBlock cr lf lines ++ rest) := by
        simp [headerBlock, joinLines]
      rw [shape, position_blankLine_line lineFree distinct]
      cases lines with
      | nil =>
          exact ⟨line.length,
            by simp [headerBlock, joinLines],
            by simp [headerBlock, joinLines]⟩
      | cons next lines =>
          obtain ⟨start, found, startEq⟩ :=
            inductionHypothesis (by simp)
              (fun later member => free later (by simp [member]))
              (fun later member => solid later (by simp [member]))
          have notBlank :
              ¬ [cr, lf] <+:
                headerBlock cr lf (next :: lines) ++ rest := by
            have nextShape :
                headerBlock cr lf (next :: lines) ++ rest =
                  next ++ cr :: (lf ::
                    (headerBlock cr lf lines ++ rest)) := by
              simp [headerBlock, joinLines]
            rw [nextShape]
            exact not_crlf_prefix_line (free next (by simp))
              (solid next (by simp)) distinct _
          refine ⟨start + (line.length + 2), ?_, ?_⟩
          · rw [if_neg notBlank, found]
            rfl
          · have lengthEq :
                (headerBlock cr lf (line :: next :: lines)).length =
                  line.length + 2 +
                    (headerBlock cr lf (next :: lines)).length := by
              simp [headerBlock, joinLines]
              omega
            omega

/-! ## Header blocks in UTF-8 -/

section Utf8

open RustText

/-- The first byte is a line feed only if the first character is. -/
theorem head?_toUtf8
    {text : Text}
    (startsLf : (toUtf8 text).head? = some 10) :
    text.head? = some '\n' := by
  cases text with
  | nil =>
      simp at startsLf
  | cons c rest =>
      by_cases ascii : c.toNat < 128
      · rw [toUtf8_cons, utf8EncodeChar_of_ascii ascii] at startsLf
        simp only [List.cons_append, List.head?_cons,
          Option.some.injEq] at startsLf
        have number := congrArg UInt8.toNat startsLf
        simp only [UInt8.toNat_ofNat', Nat.toUInt8] at number
        have isLf : c.toNat = '\n'.toNat := by
          change c.toNat = 10
          have small : (10 : UInt8).toNat = 10 := rfl
          omega
        simp [Char.toNat_inj.mp isLf]
      · obtain ⟨byte, bytes, shape⟩ :=
          List.exists_cons_of_ne_nil
            (String.utf8EncodeChar_ne_nil (c := c))
        have wide : 128 ≤ byte.toNat :=
          le_of_mem_utf8EncodeChar (Nat.not_lt.mp ascii)
            (by simp [shape])
        rw [toUtf8_cons, shape] at startsLf
        simp only [List.cons_append, List.head?_cons,
          Option.some.injEq] at startsLf
        subst byte
        exact absurd wide (by decide)

/-- Encoding creates no line terminator. -/
theorem crlfFree_toUtf8
    {text : Text}
    (free : CrlfFree '\r' '\n' text) :
    CrlfFree 13 10 (toUtf8 text) := by
  induction text with
  | nil =>
      simp
  | cons c rest inductionHypothesis =>
      have restFree := inductionHypothesis free.tail
      rw [toUtf8_cons]
      by_cases ascii : c.toNat < 128
      · rw [utf8EncodeChar_of_ascii ascii]
        apply crlfFree_cons restFree
        intro isCr startsLf
        have number := congrArg UInt8.toNat isCr
        simp only [UInt8.toNat_ofNat', Nat.toUInt8] at number
        have cIsCr : c.toNat = '\r'.toNat := by
          change c.toNat = 13
          have small : (13 : UInt8).toNat = 13 := rfl
          omega
        have restStartsLf := head?_toUtf8 startsLf
        cases rest with
        | nil =>
            simp at restStartsLf
        | cons next rest =>
            exact free.adjacent
              ⟨Char.toNat_inj.mp cIsCr, by simpa using restStartsLf⟩
      · apply CrlfFree.append_of_not_mem _ restFree
        intro member
        have wide :=
          le_of_mem_utf8EncodeChar (Nat.not_lt.mp ascii) member
        exact absurd wide (by decide)

/-- A header block is encoded line by line. -/
theorem toUtf8_headerBlock (lines : List Text) :
    toUtf8 (headerBlock '\r' '\n' lines) =
      headerBlock 13 10 (lines.map toUtf8) := by
  have terminator : toUtf8 ['\r', '\n'] = [13, 10] := by decide
  induction lines with
  | nil =>
      simpa [headerBlock, joinLines] using terminator
  | cons line lines inductionHypothesis =>
      simp only [headerBlock, joinLines, List.flatMap_cons,
        List.append_assoc, toUtf8_append, terminator, List.map_cons]
        at inductionHypothesis ⊢
      rw [inductionHypothesis]

/-- In encoded text, too, the first blank line ends the header block. -/
theorem position_toUtf8_headerBlock
    {lines : List Text}
    (nonempty : lines ≠ [])
    (free : ∀ line ∈ lines, CrlfFree '\r' '\n' line)
    (solid : ∀ line ∈ lines, line ≠ [])
    (rest : Bytes) :
    ∃ start,
      position (blankLine 13 10)
          (toUtf8 (headerBlock '\r' '\n' lines) ++ rest) =
          some start ∧
        start + 4 =
          (toUtf8 (headerBlock '\r' '\n' lines)).length := by
  rw [toUtf8_headerBlock]
  apply position_headerBlock
  · simpa using nonempty
  · intro bytes member
    obtain ⟨line, lineMember, rfl⟩ := List.mem_map.mp member
    exact crlfFree_toUtf8 (free line lineMember)
  · intro bytes member
    obtain ⟨line, lineMember, rfl⟩ := List.mem_map.mp member
    simpa using solid line lineMember
  · decide

end Utf8

end CrlfLines
