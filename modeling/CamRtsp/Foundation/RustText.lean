import Mathlib.Data.Bool.AllAny
import Mathlib.Data.List.DropRight
import Mathlib.Data.List.Basic
import Mathlib.Data.List.Infix
import Mathlib.Data.List.AList

/-!
# Rust text as character lists

A Rust `str` is a sequence of Unicode scalar values, which is exactly a list
of Lean characters.  This module collects the standard-library operations that
text protocols rely on: whitespace trimming, splitting, ASCII case folding,
integer parsing and formatting, and the passage to and from UTF-8 bytes.
-/

namespace RustText

/-- A Rust string slice. -/
abbrev Text := List Char

/-- A Rust byte slice. -/
abbrev Bytes := List UInt8

/-- `HashMap<String, String>`, up to its unspecified iteration order. -/
abbrev TextMap := AList fun _ : Text => Text

/-! ## Whitespace -/

/-- `char::is_whitespace`: the Unicode `White_Space` property. -/
def isWhitespace (c : Char) : Bool :=
  (9 ≤ c.toNat && c.toNat ≤ 13) || c.toNat == 0x20 ||
    c.toNat == 0x85 || c.toNat == 0xa0 || c.toNat == 0x1680 ||
    (0x2000 ≤ c.toNat && c.toNat ≤ 0x200a) || c.toNat == 0x2028 ||
    c.toNat == 0x2029 || c.toNat == 0x202f || c.toNat == 0x205f ||
    c.toNat == 0x3000

/-- `str::trim`. -/
def trim (text : Text) : Text :=
  (text.dropWhile isWhitespace).rdropWhile isWhitespace

/-- `str::trim_matches` for one character. -/
def trimMatches (c : Char) (text : Text) : Text :=
  (text.dropWhile (· == c)).rdropWhile (· == c)

/-- `str::trim_end_matches` for one character. -/
def trimEndMatches (c : Char) (text : Text) : Text :=
  text.rdropWhile (· == c)

/-- Neither end of the text is a whitespace character. -/
structure Trimmed (text : Text) : Prop where
  head : ∀ c ∈ text.head?, isWhitespace c = false
  last : ∀ c ∈ text.getLast?, isWhitespace c = false

instance : DecidablePred Trimmed := fun text =>
  decidable_of_iff
    (text.head?.all (fun c => !isWhitespace c) = true ∧
      text.getLast?.all (fun c => !isWhitespace c) = true)
    ⟨fun ends =>
      ⟨by simpa [Option.all_eq_true] using ends.1,
        by simpa [Option.all_eq_true] using ends.2⟩,
    fun trimmed =>
      ⟨by simpa [Option.all_eq_true] using trimmed.head,
        by simpa [Option.all_eq_true] using trimmed.last⟩⟩

/-- Removing a prefix and a suffix that do not match changes nothing. -/
theorem strip_eq_self
    {p : Char → Bool}
    {text : Text}
    (head : ∀ c ∈ text.head?, p c = false)
    (last : ∀ c ∈ text.getLast?, p c = false) :
    (text.dropWhile p).rdropWhile p = text := by
  have front : text.dropWhile p = text := by
    cases text with
    | nil =>
        rfl
    | cons first rest =>
        have firstKept := head first (by simp)
        simp [firstKept]
  rw [front, List.rdropWhile_eq_self_iff]
  intro nonempty
  have lastKept :=
    last (text.getLast nonempty) (by
      simp [List.getLast?_eq_some_getLast nonempty])
  simp [lastKept]

/-- Trimming already trimmed text changes nothing. -/
theorem Trimmed.trim_eq
    {text : Text}
    (trimmed : Trimmed text) :
    trim text = text :=
  strip_eq_self trimmed.head trimmed.last

/-- The result of trimming is trimmed. -/
theorem trimmed_trim (text : Text) : Trimmed (trim text) where
  head := by
    intro c member
    have nonempty : trim text ≠ [] := by
      intro empty
      simp [empty] at member
    obtain ⟨tail, split⟩ :=
      List.rdropWhile_prefix isWhitespace (text.dropWhile isWhitespace)
    have headEq :
        (text.dropWhile isWhitespace).head? = some c := by
      rw [← split, List.head?_append]
      change ((trim text).head?.or tail.head?) = some c
      simp [Option.mem_def.mp member]
    have notWhitespace :=
      List.head?_dropWhile_not isWhitespace text
    simpa [headEq] using notWhitespace
  last := by
    intro c member
    have nonempty : trim text ≠ [] := by
      intro empty
      simp [empty] at member
    have lastEq : (trim text).getLast nonempty = c := by
      rw [List.getLast?_eq_some_getLast nonempty] at member
      simpa using member
    have notWhitespace :=
      List.rdropWhile_last_not isWhitespace
        (text.dropWhile isWhitespace) nonempty
    rw [← lastEq]
    exact Bool.eq_false_iff.mpr notWhitespace

/-- Trimming keeps a contiguous part of the text. -/
theorem infix_trim (text : Text) : trim text <:+: text :=
  (List.rdropWhile_prefix isWhitespace _).isInfix.trans
    (List.dropWhile_suffix isWhitespace).isInfix

/-- Trimming ignores a whitespace prefix. -/
theorem trim_append_of_whitespace
    {blank text : Text}
    (whitespace : ∀ c ∈ blank, isWhitespace c = true) :
    trim (blank ++ text) = trim text := by
  have dropped :
      (blank ++ text).dropWhile isWhitespace =
        text.dropWhile isWhitespace := by
    rw [List.dropWhile_append_of_pos whitespace]
  simp only [trim, dropped]

/-- Visible characters survive trimming. -/
theorem mem_trim
    {text : Text}
    {c : Char}
    (member : c ∈ text)
    (visible : isWhitespace c = false) :
    c ∈ trim text := by
  have mem_dropWhile (items : Text) (inside : c ∈ items) :
      c ∈ items.dropWhile isWhitespace := by
    rw [← List.takeWhile_append_dropWhile (p := isWhitespace) (l := items),
      List.mem_append] at inside
    refine inside.resolve_left fun dropped => ?_
    rw [List.mem_takeWhile_imp dropped] at visible
    cases visible
  rw [trim, List.rdropWhile, List.mem_reverse]
  exact mem_dropWhile _ (List.mem_reverse.mpr (mem_dropWhile _ member))

/-! ## Splitting -/

/-- `str::split_once` for one character. -/
def splitOnce (separator : Char) : Text → Option (Text × Text)
  | [] => none
  | c :: rest =>
      if c = separator then
        some ([], rest)
      else
        (splitOnce separator rest).map
          fun (before, after) => (c :: before, after)

/-- A separator absent from the key splits exactly after the key. -/
theorem splitOnce_append
    {separator : Char}
    {key value : Text}
    (absent : separator ∉ key) :
    splitOnce separator (key ++ separator :: value) =
      some (key, value) := by
  induction key with
  | nil =>
      simp [splitOnce]
  | cons first rest inductionHypothesis =>
      simp only [List.mem_cons, not_or] at absent
      have firstNe : first ≠ separator := Ne.symm absent.1
      simp [splitOnce, firstNe, inductionHypothesis absent.2]

/-- A successful split recovers the text and a separator-free key. -/
theorem splitOnce_some
    {separator : Char}
    {text key value : Text}
    (split : splitOnce separator text = some (key, value)) :
    text = key ++ separator :: value ∧ separator ∉ key := by
  induction text generalizing key value with
  | nil =>
      simp [splitOnce] at split
  | cons first rest inductionHypothesis =>
      by_cases isSeparator : first = separator
      · simp [splitOnce, isSeparator] at split
        obtain ⟨rfl, rfl⟩ := split
        simp [isSeparator]
      · simp only [splitOnce, isSeparator, ↓reduceIte,
          Option.map_eq_some_iff] at split
        obtain ⟨⟨before, after⟩, restSplit, shape⟩ := split
        simp only [Prod.mk.injEq] at shape
        obtain ⟨rfl, rfl⟩ := shape
        obtain ⟨restShape, absent⟩ := inductionHypothesis restSplit
        refine ⟨by simp [restShape], ?_⟩
        simp [absent, Ne.symm isSeparator]

/-- Text without the separator does not split. -/
theorem splitOnce_eq_none
    {separator : Char}
    {text : Text}
    (absent : separator ∉ text) :
    splitOnce separator text = none := by
  induction text with
  | nil =>
      rfl
  | cons first rest inductionHypothesis =>
      simp only [List.mem_cons, not_or] at absent
      simp [splitOnce, Ne.symm absent.1,
        inductionHypothesis absent.2]

/-- `str::split_whitespace`: the maximal runs of other characters. -/
def splitWhitespace (text : Text) : List Text :=
  (text.splitOnP isWhitespace).filter fun word => !word.isEmpty

/-- A non-empty word with no whitespace character inside it. -/
structure IsWord (word : Text) : Prop where
  nonempty : word ≠ []
  solid : ∀ c ∈ word, isWhitespace c = false

instance : DecidablePred IsWord := fun word =>
  decidable_of_iff
    (word.isEmpty = false ∧ word.all (fun c => !isWhitespace c) = true)
    ⟨fun checked =>
      ⟨by simpa using checked.1, by simpa using checked.2⟩,
    fun isWord =>
      ⟨by simpa using isWord.nonempty, by simpa using isWord.solid⟩⟩

/-- A single word is its own only word. -/
theorem splitWhitespace_word
    {word : Text}
    (isWord : IsWord word) :
    splitWhitespace word = [word] := by
  simp [splitWhitespace, List.splitOnP_eq_singleton isWord.solid,
    isWord.nonempty]

/-- A leading word followed by a blank is split off. -/
theorem splitWhitespace_cons
    {word rest : Text}
    {blank : Char}
    (isWord : IsWord word)
    (isBlank : isWhitespace blank = true) :
    splitWhitespace (word ++ blank :: rest) =
      word :: splitWhitespace rest := by
  simp [splitWhitespace,
    List.splitOnP_append_cons_of_forall_mem isWord.solid blank
      isBlank rest,
    isWord.nonempty]

/-- The pieces of a split are the separator-free parts of the text. -/
theorem of_mem_splitOnP
    {p : Char → Bool}
    {text piece : Text}
    {c : Char}
    (member : piece ∈ text.splitOnP p)
    (inside : c ∈ piece) :
    c ∈ text ∧ p c = false := by
  induction text generalizing piece with
  | nil =>
      simp at member
      simp [member] at inside
  | cons first rest inductionHypothesis =>
      have later {piece : Text}
          (inRest : piece ∈ rest.splitOnP p)
          (inside : c ∈ piece) :
          c ∈ first :: rest ∧ p c = false :=
        (inductionHypothesis inRest inside).imp_left
          (List.mem_cons_of_mem first)
      rw [List.splitOnP_cons_eq_if_modifyHead] at member
      by_cases isSeparator : p first
      · simp only [isSeparator, ↓reduceIte, List.mem_cons] at member
        rcases member with rfl | inRest
        · simp at inside
        · exact later inRest inside
      · simp only [isSeparator, Bool.false_eq_true, ↓reduceIte] at member
        cases pieces : rest.splitOnP p with
        | nil =>
            simp [pieces] at member
        | cons head tail =>
            simp only [pieces, List.modifyHead_cons,
              List.mem_cons] at member
            rcases member with rfl | inTail
            · rcases List.mem_cons.mp inside with rfl | inHead
              · exact ⟨List.mem_cons_self, by simpa using isSeparator⟩
              · exact later (by simp [pieces]) inHead
            · exact later (by simp [pieces, inTail]) inside

/-- The words of a text lie within it. -/
theorem mem_of_mem_splitWhitespace
    {text word : Text}
    {c : Char}
    (member : word ∈ splitWhitespace text)
    (inside : c ∈ word) :
    c ∈ text :=
  (of_mem_splitOnP (List.mem_of_mem_filter member) inside).1

/-- Every word found by `splitWhitespace` is a word. -/
theorem isWord_of_mem_splitWhitespace
    {text word : Text}
    (member : word ∈ splitWhitespace text) :
    IsWord word := by
  simp only [splitWhitespace, List.mem_filter] at member
  exact
    { nonempty := by simpa using member.2
      solid := fun _ inside => (of_mem_splitOnP member.1 inside).2 }

/-- `str::strip_prefix`. -/
def stripPrefix (front text : Text) : Option Text :=
  if front <+: text then some (text.drop front.length) else none

/-- Stripping succeeds exactly on texts with the prefix. -/
theorem stripPrefix_eq_some_iff {front text rest : Text} :
    stripPrefix front text = some rest ↔ text = front ++ rest := by
  constructor
  · intro stripped
    simp only [stripPrefix, Option.ite_none_right_eq_some,
      Option.some.injEq] at stripped
    obtain ⟨⟨tail, rfl⟩, rfl⟩ := stripped
    simp
  · rintro rfl
    simp [stripPrefix]

/-- No piece of a split contains the separator. -/
theorem not_mem_of_mem_splitOn
    {separator : Char}
    {text piece : Text}
    (member : piece ∈ text.splitOn separator) :
    separator ∉ piece := by
  intro inside
  rw [List.splitOn_eq_splitOnP] at member
  simpa using (of_mem_splitOnP member inside).2

/-! ## Maps -/

/-- `collect` into a map: a later value for a key replaces an earlier one. -/
def collectMap (entries : List (Text × Text)) : TextMap :=
  entries.foldl (fun map entry => map.insert entry.1 entry.2) ∅

/-- Inserting further entries finds one of them or what was there before. -/
theorem lookup_foldl_insert_some
    {entries : List (Text × Text)}
    {map : TextMap}
    {key value : Text}
    (found :
      (entries.foldl (fun map entry => map.insert entry.1 entry.2)
        map).lookup key = some value) :
    (key, value) ∈ entries ∨ map.lookup key = some value := by
  induction entries generalizing map with
  | nil =>
      exact Or.inr found
  | cons entry entries inductionHypothesis =>
      rcases inductionHypothesis found with later | inserted
      · exact Or.inl (List.mem_cons_of_mem entry later)
      · by_cases same : key = entry.1
        · subst same
          rw [AList.lookup_insert] at inserted
          obtain rfl := Option.some.inj inserted
          exact Or.inl List.mem_cons_self
        · rw [AList.lookup_insert_ne same] at inserted
          exact Or.inr inserted

/-- Everything a collected map holds was among the entries. -/
theorem mem_of_lookup_collectMap
    {entries : List (Text × Text)}
    {key value : Text}
    (found : (collectMap entries).lookup key = some value) :
    (key, value) ∈ entries := by
  rcases lookup_foldl_insert_some found with member | empty
  · exact member
  · simp at empty

/-- Further entries with other keys change nothing. -/
theorem lookup_foldl_insert_of_not_mem
    {entries : List (Text × Text)}
    {map : TextMap}
    {key : Text}
    (absent : key ∉ entries.map Prod.fst) :
    (entries.foldl (fun map entry => map.insert entry.1 entry.2)
      map).lookup key = map.lookup key := by
  induction entries generalizing map with
  | nil =>
      rfl
  | cons entry entries inductionHypothesis =>
      simp only [List.map_cons, List.mem_cons, not_or] at absent
      rw [List.foldl_cons, inductionHypothesis absent.2,
        AList.lookup_insert_ne absent.1]

/-- With distinct keys a collected map holds all entries. -/
theorem lookup_collectMap_of_mem
    {entries : List (Text × Text)}
    (distinct : (entries.map Prod.fst).Nodup)
    {key value : Text}
    (member : (key, value) ∈ entries) :
    (collectMap entries).lookup key = some value := by
  obtain ⟨before, after, rfl⟩ := List.append_of_mem member
  rw [List.map_append, List.map_cons] at distinct
  have absent : key ∉ after.map Prod.fst :=
    (List.nodup_cons.mp distinct.of_append_right).1
  rw [collectMap, List.foldl_append, List.foldl_cons,
    lookup_foldl_insert_of_not_mem absent, AList.lookup_insert]

/-- A collected map has no keys but those of the entries. -/
theorem lookup_collectMap_of_not_mem
    {entries : List (Text × Text)}
    {key : Text}
    (absent : key ∉ entries.map Prod.fst) :
    (collectMap entries).lookup key = none := by
  rw [collectMap, lookup_foldl_insert_of_not_mem absent,
    AList.lookup_empty]

/-! ## ASCII case -/

/-- `str::to_ascii_lowercase`. -/
def toAsciiLowercase (text : Text) : Text :=
  text.map Char.toLower

/-- `str::to_ascii_uppercase`. -/
def toAsciiUppercase (text : Text) : Text :=
  text.map Char.toUpper

/-- `str::eq_ignore_ascii_case`. -/
def eqIgnoreAsciiCase (first second : Text) : Bool :=
  toAsciiLowercase first == toAsciiLowercase second

/-! ## Numbers -/

/-- `char::to_digit`. -/
def toDigit (radix : Nat) (c : Char) : Option Nat :=
  let value :=
    if '0' ≤ c ∧ c ≤ '9' then some (c.toNat - '0'.toNat)
    else if 'a' ≤ c ∧ c ≤ 'z' then some (c.toNat - 'a'.toNat + 10)
    else if 'A' ≤ c ∧ c ≤ 'Z' then some (c.toNat - 'A'.toNat + 10)
    else none
  value.filter (· < radix)

/-- Reads digits most significant first, on top of what is already read. -/
def digitsValue (radix : Nat) : Nat → Text → Option Nat
  | value, [] => some value
  | value, c :: rest =>
      (toDigit radix c).bind fun digit =>
        digitsValue radix (value * radix + digit) rest

/--
`from_str_radix` of an unsigned type with `bound` values: an optional `+`,
then at least one digit, and no overflow.
-/
def fromStrRadix (radix bound : Nat) (text : Text) : Option Nat :=
  let digits := if text.head? = some '+' then text.tail else text
  if digits = [] then
    none
  else
    (digitsValue radix 0 digits).filter (· < bound)

/-- Decimal `Display` of an unsigned integer. -/
def decimal (number : Nat) : Text :=
  Nat.toDigits 10 number

/-- A decimal digit character reads back as its value. -/
theorem toDigit_of_isDigit
    {c : Char}
    (isDigit : c.isDigit = true) :
    toDigit 10 c = some (c.toNat - '0'.toNat) := by
  have bounds : '0' ≤ c ∧ c ≤ '9' := by
    simpa [Char.isDigit, Char.le_def] using isDigit
  have upper : c.toNat ≤ '9'.toNat := by
    simpa [Char.le_def, UInt32.le_iff_toNat_le] using bounds.2
  have nine : '9'.toNat = 57 := rfl
  have zero : '0'.toNat = 48 := rfl
  simp only [toDigit, bounds, and_self, ↓reduceIte, Option.filter]
  simp only [nine] at upper
  simp only [zero]
  simp
  omega

/-- Reading decimal digit characters computes their value. -/
theorem digitsValue_of_isDigit
    {text : Text}
    (digits : ∀ c ∈ text, c.isDigit = true)
    (value : Nat) :
    digitsValue 10 value text =
      some (Nat.ofDigitChars 10 text value) := by
  induction text generalizing value with
  | nil =>
      simp [digitsValue]
  | cons first rest inductionHypothesis =>
      have firstDigit := toDigit_of_isDigit (digits first (by simp))
      have restDigits : ∀ c ∈ rest, c.isDigit = true :=
        fun c member => digits c (by simp [member])
      simp only [digitsValue, firstDigit, Option.bind_some,
        inductionHypothesis restDigits, Nat.ofDigitChars_cons,
        Nat.mul_comm]

/-- Every character of a decimal numeral is a digit. -/
theorem isDigit_of_mem_decimal
    {number : Nat}
    {c : Char}
    (member : c ∈ decimal number) :
    c.isDigit = true :=
  Nat.isDigit_of_mem_toDigits (by decide) (by decide) member

/-- The digits of a number have its value. -/
theorem digitsValue_decimal (number : Nat) :
    digitsValue 10 0 (decimal number) = some number := by
  rw [digitsValue_of_isDigit fun c => isDigit_of_mem_decimal]
  simp [decimal]

/-- A decimal numeral, possibly behind a plus sign. -/
def IsNumeral (text : Text) (number : Nat) : Prop :=
  ∃ digits, (text = digits ∨ text = '+' :: digits) ∧ digits ≠ [] ∧
    (∀ c ∈ digits, c.isDigit = true) ∧
      Nat.ofDigitChars 10 digits 0 = number

/-- Only digit characters have a decimal value. -/
theorem isDigit_of_toDigit
    {c : Char}
    {digit : Nat}
    (valued : toDigit 10 c = some digit) :
    c.isDigit = true := by
  unfold toDigit at valued
  split at valued
  · rename_i bounds
    simpa [Char.isDigit, Char.le_def] using bounds
  · obtain ⟨letter, small⟩ := Option.filter_eq_some_iff.mp valued
    simp only [decide_eq_true_eq] at small
    split at letter
    · cases letter
      omega
    · split at letter
      · cases letter
        omega
      · cases letter

/-- What is read as a decimal number consists of digits. -/
theorem isDigit_of_digitsValue
    {text : Text}
    {value number : Nat}
    (read : digitsValue 10 value text = some number) :
    ∀ c ∈ text, c.isDigit = true := by
  induction text generalizing value with
  | nil =>
      simp
  | cons first rest inductionHypothesis =>
      obtain ⟨digit, valued, restRead⟩ := Option.bind_eq_some_iff.mp read
      exact List.forall_mem_cons.mpr
        ⟨isDigit_of_toDigit valued, inductionHypothesis restRead⟩

/-- Exactly the numerals below the bound are read, as what they say. -/
theorem fromStrRadix_eq_some_iff
    {bound number : Nat}
    {text : Text} :
    fromStrRadix 10 bound text = some number ↔
      IsNumeral text number ∧ number < bound := by
  unfold fromStrRadix
  constructor
  · intro read
    generalize digitsEq :
      (if text.head? = some '+' then text.tail else text) = digits at read
    simp only at read
    split at read
    · cases read
    · rename_i nonempty
      obtain ⟨valued, below⟩ := Option.filter_eq_some_iff.mp read
      have isDigit := isDigit_of_digitsValue valued
      rw [digitsValue_of_isDigit isDigit] at valued
      refine ⟨⟨digits, ?_, nonempty, isDigit, Option.some.inj valued⟩,
        of_decide_eq_true below⟩
      split at digitsEq
      · rename_i sign
        obtain ⟨rest, rfl⟩ := List.head?_eq_some_iff.mp sign
        exact .inr (congrArg _ digitsEq)
      · exact .inl digitsEq
  · rintro ⟨⟨digits, textEq, nonempty, isDigit, rfl⟩, below⟩
    have digitsEq :
        (if text.head? = some '+' then text.tail else text) = digits := by
      rcases textEq with rfl | rfl
      · rw [if_neg]
        intro sign
        exact absurd (isDigit _ (List.mem_of_mem_head? sign)) (by decide)
      · rfl
    simp only [digitsEq]
    rw [if_neg nonempty, digitsValue_of_isDigit isDigit]
    exact Option.filter_eq_some_iff.mpr ⟨rfl, decide_eq_true below⟩

/-- A number is written as a numeral. -/
theorem isNumeral_decimal (number : Nat) :
    IsNumeral (decimal number) number := by
  refine ⟨_, .inl rfl, Nat.toDigits_ne_nil, fun c => isDigit_of_mem_decimal,
    ?_⟩
  simp [decimal]

/-- A decimal digit is visible. -/
theorem isWhitespace_of_isDigit
    {c : Char}
    (isDigit : c.isDigit = true) :
    isWhitespace c = false := by
  have range : 48 ≤ c.toNat ∧ c.toNat ≤ 57 := by
    simpa [Char.isDigit, UInt32.le_iff_toNat_le] using isDigit
  simp only [isWhitespace, Bool.or_eq_false_iff,
    Bool.and_eq_false_iff, decide_eq_false_iff_not,
    beq_eq_false_iff_ne]
  omega

/-- A decimal numeral has no whitespace around it. -/
theorem trimmed_decimal (number : Nat) : Trimmed (decimal number) where
  head := by
    intro c member
    exact isWhitespace_of_isDigit
      (isDigit_of_mem_decimal (List.mem_of_mem_head? member))
  last := by
    intro c member
    exact isWhitespace_of_isDigit
      (isDigit_of_mem_decimal (List.mem_of_mem_getLast? member))

/-- One byte as two lowercase hexadecimal digits, as `{:02x}` prints it. -/
def hexByte (byte : UInt8) : Text :=
  [Nat.digitChar (byte.toNat / 16), Nat.digitChar (byte.toNat % 16)]

/-- Bytes in lowercase hexadecimal. -/
def hex (bytes : Bytes) : Text :=
  bytes.flatMap hexByte

/-! ## UTF-8 -/

/-- The UTF-8 bytes of a text: `str::as_bytes`. -/
def toUtf8 (text : Text) : Bytes :=
  text.flatMap String.utf8EncodeChar

/-- `std::str::from_utf8`. -/
def fromUtf8 (bytes : Bytes) : Option Text :=
  bytes.toByteArray.utf8Decode?.map Array.toList

@[simp] theorem toUtf8_nil : toUtf8 [] = [] :=
  rfl

@[simp] theorem toUtf8_cons (c : Char) (text : Text) :
    toUtf8 (c :: text) = String.utf8EncodeChar c ++ toUtf8 text := by
  simp [toUtf8]

@[simp] theorem toUtf8_append (first second : Text) :
    toUtf8 (first ++ second) = toUtf8 first ++ toUtf8 second := by
  simp [toUtf8]

/-- Decoding inverts encoding. -/
@[simp] theorem fromUtf8_toUtf8 (text : Text) :
    fromUtf8 (toUtf8 text) = some text := by
  have encoded : (toUtf8 text).toByteArray = text.utf8Encode := rfl
  simp [fromUtf8, encoded, List.utf8Decode?_utf8Encode]

/-- Only the empty text encodes to no bytes. -/
@[simp] theorem toUtf8_eq_nil {text : Text} :
    toUtf8 text = [] ↔ text = [] := by
  cases text <;> simp

/-- An ASCII character is encoded as the byte with its number. -/
theorem utf8EncodeChar_of_ascii
    {c : Char}
    (ascii : c.toNat < 128) :
    String.utf8EncodeChar c = [c.toNat.toUInt8] := by
  have size : c.utf8Size = 1 := by
    rw [Char.utf8Size_eq_one_iff, UInt32.le_iff_toNat_le]
    change c.toNat ≤ 127
    omega
  rw [String.utf8EncodeChar_eq_singleton size]
  rfl

/-- Every other character is encoded with bytes outside the ASCII range. -/
theorem le_of_mem_utf8EncodeChar
    {c : Char}
    (wide : 128 ≤ c.toNat)
    {byte : UInt8}
    (member : byte ∈ String.utf8EncodeChar c) :
    128 ≤ byte.toNat := by
  have notOne : ¬ c.val ≤ 127 := by
    rw [UInt32.le_iff_toNat_le]
    change ¬ c.toNat ≤ 127
    omega
  have marked
      (low mark : UInt8)
      (high : 128 ≤ mark.toNat) :
      128 ≤ (low ||| mark).toNat := by
    rw [UInt8.toNat_or]
    exact Nat.le_trans high Nat.right_le_or
  rcases Char.utf8Size_eq c with one | two | three | four
  · exact absurd (Char.utf8Size_eq_one_iff.mp one) notOne
  · rw [String.utf8EncodeChar_eq_cons_cons two] at member
    simp only [List.mem_cons, List.not_mem_nil, or_false] at member
    rcases member with rfl | rfl <;> exact marked _ _ (by decide)
  · rw [String.utf8EncodeChar_eq_cons_cons_cons three] at member
    simp only [List.mem_cons, List.not_mem_nil, or_false] at member
    rcases member with rfl | rfl | rfl <;>
      exact marked _ _ (by decide)
  · rw [String.utf8EncodeChar_eq_cons_cons_cons_cons four] at member
    simp only [List.mem_cons, List.not_mem_nil, or_false] at member
    rcases member with rfl | rfl | rfl | rfl <;>
      exact marked _ _ (by decide)

end RustText
