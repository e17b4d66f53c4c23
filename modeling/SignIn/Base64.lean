import SignIn.Text.Utf8

namespace SignIn.Base64

/-- The two alphabets. They differ in their last two symbols. -/
inductive Alphabet where
  | standard
  | urlSafe
  deriving DecidableEq, Repr

/-- What becomes of `=` at the end of a text. -/
inductive Padding where
  /-- There may be none. -/
  | refused
  /-- There may be as much as fits the last group, or less. -/
  | optional
  deriving DecidableEq, Repr

/-- Why a text is not base64. Offsets count bytes. -/
inductive DecodeError where
  | invalidSymbol (offset : Nat) (symbol : UInt8)
  /-- The last group has fewer than two symbols. -/
  | invalidLength (length : Nat)
  /-- The last symbol has bits that no byte uses. -/
  | invalidLastSymbol (offset : Nat) (symbol : UInt8)
  | invalidPadding
  deriving DecidableEq, Repr

/-- The text of a decoding error. -/
def DecodeError.message : DecodeError → String
  | .invalidSymbol offset symbol => s!"Invalid symbol {symbol.toNat}, offset {offset}."
  | .invalidLength length => s!"Invalid input length: {length}"
  | .invalidLastSymbol offset symbol => s!"Invalid last symbol {symbol.toNat}, offset {offset}."
  | .invalidPadding => "Invalid padding"

/-- The symbol of a number below 64. -/
def Alphabet.symbol (a : Alphabet) (value : Nat) : Char :=
  if value < 26 then Char.ofNat (65 + value)
  else if value < 52 then Char.ofNat (97 + (value - 26))
  else if value < 62 then Char.ofNat (48 + (value - 52))
  else match a, value with
    | .standard, 62 => '+'
    | .standard, _ => '/'
    | .urlSafe, 62 => '-'
    | .urlSafe, _ => '_'

/-- The number that a byte of text is the symbol of. -/
def Alphabet.value? (a : Alphabet) (b : UInt8) : Option Nat :=
  if 65 ≤ b ∧ b ≤ 90 then some (b.toNat - 65)
  else if 97 ≤ b ∧ b ≤ 122 then some (b.toNat - 97 + 26)
  else if 48 ≤ b ∧ b ≤ 57 then some (b.toNat - 48 + 52)
  else match a with
    | .standard => if b = 43 then some 62 else if b = 47 then some 63 else none
    | .urlSafe => if b = 45 then some 62 else if b = 95 then some 63 else none

/-- The byte `=`. -/
def padByte : UInt8 := 61

/-- The six-bit numbers that hold the bits of a byte string, the last one filled up with zeros. -/
def sextets : Bytes → List Nat
  | a :: b :: c :: rest =>
    a.toNat / 4 :: (a.toNat % 4 * 16 + b.toNat / 16) :: (b.toNat % 16 * 4 + c.toNat / 64) ::
      c.toNat % 64 :: sextets rest
  | [a, b] => [a.toNat / 4, a.toNat % 4 * 16 + b.toNat / 16, b.toNat % 16 * 4]
  | [a] => [a.toNat / 4, a.toNat % 4 * 16]
  | [] => []

/-- The spelling of a byte string without padding. -/
def encode (a : Alphabet) (bytes : Bytes) : List Char :=
  (sextets bytes).map a.symbol

/-- The bytes of two to four six-bit numbers. -/
def groupBytes : List Nat → Bytes
  | [p, q] => [UInt8.ofNat (p * 4 + q / 16)]
  | [p, q, r] => [UInt8.ofNat (p * 4 + q / 16), UInt8.ofNat (q * 16 + r / 4)]
  | [p, q, r, s] =>
    [UInt8.ofNat (p * 4 + q / 16), UInt8.ofNat (q * 16 + r / 4), UInt8.ofNat (r * 64 + s)]
  | _ => []

/-- The bits of the last of two to four six-bit numbers that no byte uses. -/
def spareBits : List Nat → Nat
  | [_, q] => q % 16
  | [_, _, r] => r % 4
  | _ => 0

/-- The number of one symbol, which stands at `offset`. -/
def symbolValue (a : Alphabet) (offset : Nat) (b : UInt8) : Except DecodeError Nat :=
  match a.value? b with
  | some v => .ok v
  | none => .error (.invalidSymbol offset b)

/-- The numbers of the symbols of the last group, and the offset of its first `=`. -/
structure LastGroup where
  values : List Nat
  padding : Option Nat
  deriving DecidableEq, Repr

/-- Reads the last group from left to right, from its position `position` on. Padding stands after the
second symbol, and nothing but padding follows it. -/
def readLastGroup (a : Alphabet) (start : Nat) :
    (position : Nat) → LastGroup → Bytes → Except DecodeError LastGroup
  | _, group, [] => .ok group
  | position, group, b :: rest =>
    if b = padByte then
      if position < 2 then .error (.invalidSymbol (start + position) b)
      else
        readLastGroup a start (position + 1)
          { group with padding := some (group.padding.getD (start + position)) } rest
    else
      match group.padding with
      | some offset => .error (.invalidSymbol offset padByte)
      | none => do
        let v ← symbolValue a (start + position) b
        readLastGroup a start (position + 1) { group with values := group.values ++ [v] } rest

/-- The bytes of the last group of a text, which has one to four bytes and begins at `start`. -/
def decodeLast (a : Alphabet) (padding : Padding) (start : Nat) (text : Bytes) :
    Except DecodeError Bytes := do
  let group ← readLastGroup a start 0 ⟨[], none⟩ text
  if group.values.length < 2 then throw (.invalidLength (start + group.values.length))
  if padding = .refused ∧ group.padding ≠ none then throw .invalidPadding
  if spareBits group.values ≠ 0 then
    throw (.invalidLastSymbol (start + group.values.length - 1)
      (UInt8.ofNat (a.symbol (group.values.getLastD 0)).toNat))
  return groupBytes group.values

/-- The bytes of a text that begins at `start`, group by group. -/
def decodeGroups (a : Alphabet) (padding : Padding) (start : Nat) : Bytes → Except DecodeError Bytes
  | b₀ :: b₁ :: b₂ :: b₃ :: b₄ :: rest => do
    let v₀ ← symbolValue a start b₀
    let v₁ ← symbolValue a (start + 1) b₁
    let v₂ ← symbolValue a (start + 2) b₂
    let v₃ ← symbolValue a (start + 3) b₃
    return groupBytes [v₀, v₁, v₂, v₃] ++ (← decodeGroups a padding (start + 4) (b₄ :: rest))
  | [] => .ok []
  | text => decodeLast a padding start text

/-- A byte alone in the last group that is no symbol at all. It is reported before all else. -/
def strayLast? (a : Alphabet) (text : Bytes) : Option UInt8 :=
  if text.length % 4 = 1 then
    text.getLast?.filter fun b => b ≠ padByte ∧ a.value? b = none
  else none

/-- The bytes that a text spells. -/
def decodeBytes (a : Alphabet) (padding : Padding) (text : Bytes) : Except DecodeError Bytes :=
  match strayLast? a text with
  | some b => .error (.invalidSymbol (text.length - 1) b)
  | none => decodeGroups a padding 0 text

/-- The bytes that a text spells. Reading is strict: every symbol belongs to the alphabet, and the bits of the
last symbol that no byte uses are zero, so each byte string has one spelling but for its padding. -/
def decode (a : Alphabet) (padding : Padding) (text : List Char) : Except DecodeError Bytes :=
  decodeBytes a padding (Utf8.encode text)

end SignIn.Base64
