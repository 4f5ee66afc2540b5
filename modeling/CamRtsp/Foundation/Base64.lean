import Mathlib.Data.List.Basic

/-!
# Base64

The standard alphabet with padding: three bytes are four characters of six
bits, and a shorter end is filled up with `=`.  What is decoded has to be
canonical, without bits behind the last byte.
-/

namespace Base64

/-- The characters of the values below 64. -/
def alphabet : List Char :=
  "ABCDEFGHIJKLMNOPQRSTUVWXYZabcdefghijklmnopqrstuvwxyz0123456789+/".toList

/-- The character of a value. -/
def symbol (value : Nat) : Char :=
  alphabet.getD value '='

/-- The value of a character. -/
def value? (symbol : Char) : Option Nat :=
  alphabet.idxOf? symbol

/-- A character reads back as its value. -/
theorem value?_symbol :
    ∀ value < 64, value? (symbol value) = some value := by
  decide +kernel

/-- The padding is no value. -/
theorem symbol_ne_padding : ∀ value < 64, symbol value ≠ '=' := by
  decide +kernel

/-- The character is in the alphabet. -/
theorem symbol_mem : ∀ value < 64, symbol value ∈ alphabet := by
  decide +kernel

/-- The characters of some bytes. -/
def encode : List UInt8 → List Char
  | [] => []
  | [first] =>
      [symbol (first.toNat / 4), symbol (first.toNat % 4 * 16), '=', '=']
  | [first, second] =>
      [symbol (first.toNat / 4),
        symbol (first.toNat % 4 * 16 + second.toNat / 16),
        symbol (second.toNat % 16 * 4), '=']
  | first :: second :: third :: rest =>
      symbol (first.toNat / 4) ::
        symbol (first.toNat % 4 * 16 + second.toNat / 16) ::
          symbol (second.toNat % 16 * 4 + third.toNat / 64) ::
            symbol (third.toNat % 64) :: encode rest

/-- The byte of an end with two characters. -/
def decodeOne (first second : Nat) : Option (List UInt8) :=
  if second % 16 = 0 then
    some [UInt8.ofNat (first * 4 + second / 16)]
  else
    none

/-- The bytes of an end with three characters. -/
def decodeTwo (first second third : Nat) : Option (List UInt8) :=
  if third % 4 = 0 then
    some
      [UInt8.ofNat (first * 4 + second / 16),
        UInt8.ofNat (second % 16 * 16 + third / 4)]
  else
    none

/-- The bytes of some characters. -/
def decode : List Char → Option (List UInt8)
  | [] => some []
  | first :: second :: third :: fourth :: rest =>
      (value? first).bind fun first =>
        (value? second).bind fun second =>
          if rest = [] ∧ third = '=' ∧ fourth = '=' then
            decodeOne first second
          else
            (value? third).bind fun third =>
              if rest = [] ∧ fourth = '=' then
                decodeTwo first second third
              else
                (value? fourth).bind fun fourth =>
                  (decode rest).map fun later =>
                    UInt8.ofNat (first * 4 + second / 16) ::
                      UInt8.ofNat (second % 16 * 16 + third / 4) ::
                        UInt8.ofNat (third % 4 * 64 + fourth) :: later
  | _ => none

/-- A byte whose number has been put together again. -/
theorem ofNat_eq
    (byte : UInt8)
    {number : Nat}
    (same : number = byte.toNat) :
    UInt8.ofNat number = byte := by
  rw [same, UInt8.ofNat_toNat]

/-- What is encoded is decoded. -/
theorem decode_encode (bytes : List UInt8) :
    decode (encode bytes) = some bytes := by
  induction bytes using encode.induct with
  | case1 =>
      rfl
  | case2 first =>
      have below := first.toNat_lt
      rw [encode, decode, value?_symbol _ (by omega), Option.bind_some,
        value?_symbol _ (by omega), Option.bind_some,
        if_pos ⟨rfl, rfl, rfl⟩, decodeOne, if_pos (by omega),
        ofNat_eq first (by omega)]
  | case3 first second =>
      have below := first.toNat_lt
      have secondBelow := second.toNat_lt
      rw [encode, decode, value?_symbol _ (by omega), Option.bind_some,
        value?_symbol _ (by omega), Option.bind_some,
        if_neg fun padded =>
          symbol_ne_padding _ (by omega) padded.2.1,
        value?_symbol _ (by omega), Option.bind_some, if_pos ⟨rfl, rfl⟩,
        decodeTwo, if_pos (by omega), ofNat_eq first (by omega),
        ofNat_eq second (by omega)]
  | case4 first second third rest inductionHypothesis =>
      have below := first.toNat_lt
      have secondBelow := second.toNat_lt
      have thirdBelow := third.toNat_lt
      rw [encode, decode, value?_symbol _ (by omega), Option.bind_some,
        value?_symbol _ (by omega), Option.bind_some,
        if_neg fun padded =>
          symbol_ne_padding _ (by omega) padded.2.1,
        value?_symbol _ (by omega), Option.bind_some,
        if_neg fun padded =>
          symbol_ne_padding _ (by omega) padded.2,
        value?_symbol _ (by omega), Option.bind_some, inductionHypothesis,
        Option.map_some, ofNat_eq first (by omega),
        ofNat_eq second (by omega), ofNat_eq third (by omega)]

example :
    decode "Z00AHw==".toList = some [0x67, 0x4d, 0, 0x1f] ∧
      encode [0x68, 0xee] = "aO4=".toList := by
  decide +kernel

/-- Nothing but the alphabet and the padding is written. -/
theorem mem_encode
    {bytes : List UInt8}
    {character : Char}
    (member : character ∈ encode bytes) :
    character ∈ alphabet ∨ character = '=' := by
  induction bytes using encode.induct with
  | case1 =>
      cases member
  | case2 first =>
      have below := first.toNat_lt
      simp only [encode, List.mem_cons, List.not_mem_nil, or_false] at member
      rcases member with rfl | rfl | rfl | rfl
      · exact .inl (symbol_mem _ (by omega))
      · exact .inl (symbol_mem _ (by omega))
      · exact .inr rfl
      · exact .inr rfl
  | case3 first second =>
      have below := first.toNat_lt
      have secondBelow := second.toNat_lt
      simp only [encode, List.mem_cons, List.not_mem_nil, or_false] at member
      rcases member with rfl | rfl | rfl | rfl
      · exact .inl (symbol_mem _ (by omega))
      · exact .inl (symbol_mem _ (by omega))
      · exact .inl (symbol_mem _ (by omega))
      · exact .inr rfl
  | case4 first second third rest inductionHypothesis =>
      have below := first.toNat_lt
      have secondBelow := second.toNat_lt
      have thirdBelow := third.toNat_lt
      simp only [encode, List.mem_cons] at member
      rcases member with rfl | rfl | rfl | rfl | later
      · exact .inl (symbol_mem _ (by omega))
      · exact .inl (symbol_mem _ (by omega))
      · exact .inl (symbol_mem _ (by omega))
      · exact .inl (symbol_mem _ (by omega))
      · exact inductionHypothesis later

end Base64
