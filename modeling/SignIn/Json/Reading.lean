import SignIn.Bytes
import SignIn.Json.Error

namespace SignIn.Json

/-- What was read from the front of `s`, and what is left. That this is shorter is what every loop over a
document ends on. -/
structure Reading (α : Type) (s : Bytes) where
  value : α
  rest : Bytes
  shorter : rest.length < s.length

/-- Reads a value from the front of a byte string. -/
abbrev Reader (α : Type) :=
  (s : Bytes) → Except Error (Reading α s)

/-- What is left of `s` behind a part that may be empty. -/
abbrev Rest (s : Bytes) :=
  { rest : Bytes // rest.length ≤ s.length }

/-- Everything is left. -/
def Rest.all (s : Bytes) : Rest s :=
  ⟨s, Nat.le_refl _⟩

/-- All but the first byte is left. -/
def Rest.tail (b : UInt8) (s : Bytes) : Rest (b :: s) :=
  ⟨s, Nat.le_succ _⟩

namespace Reading

variable {α β : Type} {s t : Bytes}

/-- Changes the value that was read. -/
def map (f : α → β) (r : Reading α s) : Reading β s :=
  ⟨f r.value, r.rest, r.shorter⟩

/-- A reading from a string is a reading from any string that is at least as long. -/
def within (r : Reading α t) (h : t.length ≤ s.length) : Reading α s :=
  ⟨r.value, r.rest, Nat.lt_of_lt_of_le r.shorter h⟩

/-- A reading from a string is a reading from any longer string. -/
def behind (r : Reading α t) (h : t.length < s.length) : Reading α s :=
  r.within (Nat.le_of_lt h)

/-- A reading of a first byte alone. -/
def ofHead (value : α) (b : UInt8) (s : Bytes) : Reading α (b :: s) :=
  ⟨value, s, Nat.lt_succ_self _⟩

/-- A value that was read up to `rest` from a string shorter than `s`. -/
def ofRest (value : α) (rest : Rest t) (h : t.length < s.length) : Reading α s :=
  ⟨value, rest.1, Nat.lt_of_le_of_lt rest.2 h⟩

/-- What is left, without the value. -/
def toRest (r : Reading α s) : Rest s :=
  ⟨r.rest, Nat.le_of_lt r.shorter⟩

end Reading

/-- Whether a byte is white space between the parts of a document. -/
def isGap (b : UInt8) : Bool :=
  b == 0x20 || b == 0x0a || b == 0x09 || b == 0x0d

/-- Leaves out white space. -/
def skipGap (s : Bytes) : Bytes :=
  s.dropWhile isGap

private theorem length_skipGap_le (s : Bytes) : (skipGap s).length ≤ s.length :=
  (List.dropWhile_suffix _).length_le

/-- Passing over a gap makes nothing longer. -/
theorem length_le_of_skipGap_eq_cons {s rest : Bytes} {b : UInt8} (h : skipGap s = b :: rest) :
    (b :: rest).length ≤ s.length :=
  h ▸ length_skipGap_le s

/-- What stands behind the first byte after a gap is shorter than the whole. -/
theorem length_lt_of_skipGap_eq_cons {s rest : Bytes} {b : UInt8} (h : skipGap s = b :: rest) :
    rest.length < s.length :=
  length_le_of_skipGap_eq_cons h

/-- Reads the rest of a word whose first letter has been read. -/
def readWord : (word : Bytes) → (s : Bytes) → Except Error (Rest s)
  | [], s => .ok (.all s)
  | _ :: _, [] => .error .endInValue
  | w :: word, b :: s =>
    if w = b then do
      let ⟨rest, h⟩ ← readWord word s
      return ⟨rest, Nat.le_succ_of_le h⟩
    else .error .expectedWord

/-- The letters after the first in `null`. -/
def nullTail : Bytes := [0x75, 0x6c, 0x6c]

/-- The letters after the first in `true`. -/
def trueTail : Bytes := [0x72, 0x75, 0x65]

/-- The letters after the first in `false`. -/
def falseTail : Bytes := [0x61, 0x6c, 0x73, 0x65]

end SignIn.Json
