import SignIn.Bytes

namespace SignIn.Utf8

/-- The bytes of a text. -/
def encode (text : List Char) : Bytes :=
  text.flatMap String.utf8EncodeChar

/-- The bytes of a string. -/
def bytesOf (text : String) : Bytes :=
  encode text.toList

/-- A character that has begun and lacks some of its bytes. -/
structure Pending where
  /-- The bits read so far. -/
  value : Nat
  /-- How many bytes are missing, at least one. -/
  missing : Nat
  /-- Least value of the next byte. -/
  low : UInt8
  /-- Greatest value of the next byte. -/
  high : UInt8
  deriving DecidableEq, Repr

/-- What a byte gives when no character has begun: a character, the beginning of one, or neither.
The bounds on the second byte leave out spellings that are too long, surrogates, and points past U+10FFFF. -/
def begin (b : UInt8) : List (Option Char) × Option Pending :=
  if b < 0x80 then ([some (Char.ofNat b.toNat)], none)
  else if 0xc2 ≤ b ∧ b ≤ 0xdf then ([], some ⟨b.toNat % 32, 1, 0x80, 0xbf⟩)
  else if b = 0xe0 then ([], some ⟨0, 2, 0xa0, 0xbf⟩)
  else if b = 0xed then ([], some ⟨13, 2, 0x80, 0x9f⟩)
  else if 0xe1 ≤ b ∧ b ≤ 0xef then ([], some ⟨b.toNat % 16, 2, 0x80, 0xbf⟩)
  else if b = 0xf0 then ([], some ⟨0, 3, 0x90, 0xbf⟩)
  else if 0xf1 ≤ b ∧ b ≤ 0xf3 then ([], some ⟨b.toNat % 8, 3, 0x80, 0xbf⟩)
  else if b = 0xf4 then ([], some ⟨4, 3, 0x80, 0x8f⟩)
  else ([none], none)

/-- What a byte gives when a character has begun. A byte that cannot go on with it ends it as
ill-formed and begins anew. -/
def resume (p : Pending) (b : UInt8) : List (Option Char) × Option Pending :=
  if p.low ≤ b ∧ b ≤ p.high then
    let value := 64 * p.value + b.toNat % 64
    if p.missing = 1 then ([some (Char.ofNat value)], none)
    else ([], some ⟨value, p.missing - 1, 0x80, 0xbf⟩)
  else
    let (read, pending) := begin b
    (none :: read, pending)

/-- The characters of a byte string, with `none` for each ill-formed part: the longest beginning of a
character that some other byte could have gone on with, or else one byte. -/
def scan : Option Pending → Bytes → List (Option Char)
  | none, [] => []
  | some _, [] => [none]
  | none, b :: rest => (begin b).1 ++ scan (begin b).2 rest
  | some p, b :: rest => (resume p b).1 ++ scan (resume p b).2 rest

/-- The characters in which all are well-formed, if all are. -/
def allSome : List (Option Char) → Option (List Char)
  | [] => some []
  | none :: _ => none
  | some c :: rest => (allSome rest).map (c :: ·)

/-- The text of a byte string that is well-formed throughout. -/
def decode? (bytes : Bytes) : Option (List Char) :=
  allSome (scan none bytes)

/-- The text of a byte string, with U+FFFD for each ill-formed part. -/
def decodeLossy (bytes : Bytes) : List Char :=
  (scan none bytes).map (·.getD '\uFFFD')

@[simp] theorem encode_nil : encode [] = [] := rfl

@[simp] theorem encode_append (s t : List Char) : encode (s ++ t) = encode s ++ encode t := by
  simp [encode]

end SignIn.Utf8
