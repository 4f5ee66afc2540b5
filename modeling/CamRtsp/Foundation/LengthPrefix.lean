import CamRtsp.Foundation.BigEndian

/-!
# Length-prefixed units

A container that puts each unit behind its big-endian length of a fixed width.
Every buffer falls, in one way only, into complete units and a remainder that
begins with no complete unit; what a parser does with a buffer is a function of
that split.
-/

namespace LengthPrefix

open RustText BigEndian

variable {width : Nat}

/-- A unit behind its length. -/
def field (width : Nat) (unit : Bytes) : Bytes :=
  toBytes width unit.length ++ unit

/-- Units behind their lengths. -/
def fields (width : Nat) (units : List Bytes) : Bytes :=
  units.flatMap (field width)

/-- The length at the front of a buffer. -/
def announced (width : Nat) (bytes : Bytes) : Nat :=
  ofBytes (bytes.take width)

/-- The unit at the front of a buffer, and the bytes behind it. -/
def takeField (width : Nat) (bytes : Bytes) : Option (Bytes × Bytes) :=
  if bytes.length < width then
    none
  else if (bytes.drop width).length < announced width bytes then
    none
  else
    some ((bytes.drop width).take (announced width bytes),
      (bytes.drop width).drop (announced width bytes))

/-- The lengths of all units can be written. -/
def Bounded (width : Nat) (units : List Bytes) : Prop :=
  ∀ unit ∈ units, unit.length < 256 ^ width

@[simp] theorem fields_nil : fields width [] = [] :=
  rfl

@[simp] theorem fields_cons (unit : Bytes) (units : List Bytes) :
    fields width (unit :: units) = field width unit ++ fields width units :=
  rfl

@[simp] theorem length_field (unit : Bytes) :
    (field width unit).length = width + unit.length := by
  simp [field]

theorem bounded_cons {unit : Bytes} {units : List Bytes} :
    Bounded width (unit :: units) ↔
      unit.length < 256 ^ width ∧ Bounded width units :=
  List.forall_mem_cons

/-! ## One unit -/

/-- A unit behind its length is read back, whatever follows. -/
theorem takeField_append
    {unit : Bytes}
    (bounded : unit.length < 256 ^ width)
    (later : Bytes) :
    takeField width (field width unit ++ later) = some (unit, later) := by
  have announcedEq :
      announced width (field width unit ++ later) = unit.length := by
    rw [announced, field, List.append_assoc,
      List.take_left' (length_toBytes width unit.length),
      ofBytes_toBytes_of_lt bounded]
  have behind :
      (field width unit ++ later).drop width = unit ++ later := by
    rw [field, List.append_assoc,
      List.drop_left' (length_toBytes width unit.length)]
  rw [takeField, announcedEq, behind, if_neg, if_neg, List.take_left,
    List.drop_left]
  · simp
  · simp
    omega

/-- The bytes of a number that was read are the bytes it was read from. -/
theorem toBytes_announced
    {bytes : Bytes}
    (complete : width ≤ bytes.length) :
    toBytes width (announced width bytes) = bytes.take width := by
  have length : (bytes.take width).length = width := by
    rw [List.length_take, Nat.min_eq_left complete]
  have written := toBytes_ofBytes (bytes.take width)
  rw [length] at written
  exact written

/-- What a successful reading has checked, and what it returns. -/
structure Taken
    (width : Nat)
    (bytes unit later : Bytes) : Prop where
  complete : ¬ bytes.length < width
  inside : ¬ (bytes.drop width).length < announced width bytes
  unitEq : unit = (bytes.drop width).take (announced width bytes)
  laterEq : later = (bytes.drop width).drop (announced width bytes)

theorem taken_of_takeField
    {bytes unit later : Bytes}
    (taken : takeField width bytes = some (unit, later)) :
    Taken width bytes unit later := by
  unfold takeField at taken
  split at taken
  · cases taken
  · rename_i complete
    split at taken
    · cases taken
    · rename_i inside
      obtain ⟨rfl, rfl⟩ := Prod.mk.inj (Option.some.inj taken)
      exact ⟨complete, inside, rfl, rfl⟩

/-- Nothing is read when the length or the unit is incomplete. -/
theorem takeField_eq_none_iff {bytes : Bytes} :
    takeField width bytes = none ↔
      bytes.length < width ∨
        (bytes.drop width).length < announced width bytes := by
  unfold takeField
  split
  · rename_i short
    exact iff_of_true rfl (.inl short)
  · rename_i complete
    split
    · rename_i outside
      exact iff_of_true rfl (.inr outside)
    · rename_i inside
      exact iff_of_false (fun impossible => nomatch impossible)
        (not_or.mpr ⟨complete, inside⟩)

/-- A unit is read exactly from its own bytes. -/
theorem takeField_eq_some_iff {bytes unit later : Bytes} :
    takeField width bytes = some (unit, later) ↔
      unit.length < 256 ^ width ∧ bytes = field width unit ++ later := by
  constructor
  · intro taken
    obtain ⟨complete, inside, rfl, rfl⟩ := taken_of_takeField taken
    have length :
        ((bytes.drop width).take (announced width bytes)).length =
          announced width bytes := by
      rw [List.length_take, Nat.min_eq_left (Nat.le_of_not_lt inside)]
    have bounded : announced width bytes < 256 ^ width := by
      have bound := ofBytes_lt (bytes.take width)
      rw [List.length_take, Nat.min_eq_left (Nat.le_of_not_lt complete)]
        at bound
      exact bound
    refine ⟨by rw [length]; exact bounded, ?_⟩
    rw [field, length, toBytes_announced (Nat.le_of_not_lt complete),
      List.append_assoc, List.take_append_drop, List.take_append_drop]
  · rintro ⟨bounded, rfl⟩
    exact takeField_append bounded later

/-- Which unit is read, without what is behind it. -/
theorem exists_takeField_iff {bytes unit : Bytes} :
    (∃ later, takeField width bytes = some (unit, later)) ↔
      width ≤ bytes.length ∧ unit.length = announced width bytes ∧
        unit <+: bytes.drop width := by
  constructor
  · rintro ⟨later, taken⟩
    obtain ⟨complete, inside, rfl, rfl⟩ := taken_of_takeField taken
    refine ⟨Nat.le_of_not_lt complete, ?_, List.take_prefix _ _⟩
    rw [List.length_take, Nat.min_eq_left (Nat.le_of_not_lt inside)]
  · rintro ⟨complete, lengthEq, later, behindEq⟩
    have inside : ¬ (bytes.drop width).length < announced width bytes := by
      rw [← behindEq, List.length_append, lengthEq]
      omega
    refine ⟨later, ?_⟩
    rw [takeField, if_neg (Nat.not_lt.mpr complete), if_neg inside,
      ← lengthEq, ← behindEq, List.take_left, List.drop_left]

/-- What is read is shorter than the buffer. -/
theorem length_lt_of_takeField
    (positive : 0 < width)
    {bytes unit later : Bytes}
    (taken : takeField width bytes = some (unit, later)) :
    later.length < bytes.length := by
  obtain ⟨_, rfl⟩ := takeField_eq_some_iff.mp taken
  rw [List.length_append, length_field]
  omega

/-- As many units at the front of one buffer are the same units. -/
theorem fields_append_inj
    {units others : List Bytes}
    {tail otherTail : Bytes}
    (counted : units.length = others.length)
    (bounded : Bounded width units)
    (otherBounded : Bounded width others)
    (same : fields width units ++ tail = fields width others ++ otherTail) :
    units = others ∧ tail = otherTail := by
  induction units generalizing others with
  | nil =>
      rw [List.length_eq_zero_iff.mp counted.symm] at same ⊢
      exact ⟨rfl, same⟩
  | cons unit units inductionHypothesis =>
      obtain ⟨other, others, rfl⟩ :=
        List.exists_cons_of_length_eq_add_one counted.symm
      obtain ⟨unitBounded, laterBounded⟩ := bounded_cons.mp bounded
      obtain ⟨firstBounded, othersBounded⟩ := bounded_cons.mp otherBounded
      rw [fields_cons, fields_cons, List.append_assoc, List.append_assoc]
        at same
      have taken := takeField_append unitBounded (fields width units ++ tail)
      rw [same, takeField_append firstBounded] at taken
      obtain ⟨rfl, laterEq⟩ := Prod.mk.inj (Option.some.inj taken)
      obtain ⟨rfl, tailEq⟩ :=
        inductionHypothesis (Nat.succ.inj counted) laterBounded
          othersBounded laterEq.symm
      exact ⟨rfl, tailEq⟩

/-! ## Splitting a buffer -/

/-- Complete units, and a remainder that begins with no complete unit. -/
structure Split
    (width : Nat)
    (bytes : Bytes)
    (units : List Bytes)
    (tail : Bytes) : Prop where
  bytesEq : bytes = fields width units ++ tail
  bounded : Bounded width units
  maximal : takeField width tail = none

/-- The first unit of a split is read first. -/
theorem Split.takeField_cons
    {bytes unit tail : Bytes}
    {units : List Bytes}
    (split : Split width bytes (unit :: units) tail) :
    takeField width bytes = some (unit, fields width units ++ tail) := by
  apply takeField_eq_some_iff.mpr
  refine ⟨(bounded_cons.mp split.bounded).1, ?_⟩
  rw [split.bytesEq, fields_cons, List.append_assoc]

/-- Behind its first unit, a split goes on. -/
theorem Split.behind
    {bytes unit tail : Bytes}
    {units : List Bytes}
    (split : Split width bytes (unit :: units) tail) :
    Split width (fields width units ++ tail) units tail where
  bytesEq := rfl
  bounded := (bounded_cons.mp split.bounded).2
  maximal := split.maximal

/-- A buffer is split in one way, by induction on its units. -/
theorem Split.unique
    {bytes tail otherTail : Bytes}
    {units others : List Bytes}
    (split : Split width bytes units tail)
    (other : Split width bytes others otherTail) :
    units = others ∧ tail = otherTail := by
  induction units generalizing bytes others with
  | nil =>
      have nothing : takeField width bytes = none := by
        rw [split.bytesEq]
        exact split.maximal
      cases others with
      | nil =>
          exact ⟨rfl, split.bytesEq.symm.trans other.bytesEq⟩
      | cons unit others =>
          rw [other.takeField_cons] at nothing
          cases nothing
  | cons unit units inductionHypothesis =>
      have taken := split.takeField_cons
      cases others with
      | nil =>
          have nothing : takeField width bytes = none := by
            rw [other.bytesEq]
            exact other.maximal
          rw [nothing] at taken
          cases taken
      | cons otherUnit others =>
          rw [other.takeField_cons] at taken
          obtain ⟨rfl, laterEq⟩ := Prod.mk.inj (Option.some.inj taken)
          have behind := other.behind
          rw [laterEq] at behind
          obtain ⟨rfl, rfl⟩ := inductionHypothesis split.behind behind
          exact ⟨rfl, rfl⟩

/-- Complete units in front of a split belong to it. -/
theorem Split.prepend
    {bytes tail : Bytes}
    {units earlier : List Bytes}
    (split : Split width bytes units tail)
    (bounded : Bounded width earlier) :
    Split width (fields width earlier ++ bytes) (earlier ++ units) tail where
  bytesEq := by
    rw [split.bytesEq, fields, fields, fields, List.flatMap_append,
      List.append_assoc]
  bounded := by
    intro unit member
    rcases List.mem_append.mp member with front | back
    · exact bounded unit front
    · exact split.bounded unit back
  maximal := split.maximal

/-- Every buffer can be split, by induction on its length. -/
theorem exists_split (positive : 0 < width) (bytes : Bytes) :
    ∃ units tail, Split width bytes units tail := by
  cases taken : takeField width bytes with
  | none =>
      exact ⟨[], bytes, rfl, by simp [Bounded], taken⟩
  | some pair =>
      obtain ⟨unit, later⟩ := pair
      have shorter := length_lt_of_takeField positive taken
      obtain ⟨units, tail, split⟩ := exists_split positive later
      obtain ⟨bounded, bytesEq⟩ := takeField_eq_some_iff.mp taken
      refine ⟨unit :: units, tail, ?_, ?_, split.maximal⟩
      · rw [bytesEq, split.bytesEq, fields_cons, List.append_assoc]
      · exact bounded_cons.mpr ⟨bounded, split.bounded⟩
termination_by bytes.length

end LengthPrefix
