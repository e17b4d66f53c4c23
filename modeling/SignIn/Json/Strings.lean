import SignIn.Json.Reading
import SignIn.Text.Utf8

namespace SignIn.Json

/-- The number of a hexadecimal digit. -/
def hexValue? (b : UInt8) : Option Nat :=
  if 0x30 ≤ b ∧ b ≤ 0x39 then some (b.toNat - 0x30)
  else if 0x61 ≤ b ∧ b ≤ 0x66 then some (b.toNat - 0x61 + 10)
  else if 0x41 ≤ b ∧ b ≤ 0x46 then some (b.toNat - 0x41 + 10)
  else none

/-- Reads four hexadecimal digits. -/
def readHex4 : Reader Nat := fun s =>
  match s with
  | a :: b :: c :: d :: rest =>
    match hexValue? a, hexValue? b, hexValue? c, hexValue? d with
    | some a, some b, some c, some d => .ok ⟨((a * 16 + b) * 16 + c) * 16 + d, rest, by simp; omega⟩
    | _, _, _, _ => .error .invalidEscape
  | _ => .error .endInString

/-- Whether a number is a leading surrogate. -/
def isLeading (n : Nat) : Bool :=
  0xd800 ≤ n && n ≤ 0xdbff

/-- Whether a number is a trailing surrogate. -/
def isTrailing (n : Nat) : Bool :=
  0xdc00 ≤ n && n ≤ 0xdfff

/-- Reads a `\u` escape after its `u`: one number, or a pair of surrogates. -/
def readCodePoint : Reader Char := fun s => do
  let ⟨n, s₁, h₁⟩ ← readHex4 s
  if isTrailing n then throw .loneSurrogate
  else if isLeading n then
    match s₁, h₁ with
    | [], _ => throw .endInString
    | b :: s₂, h₂ =>
      if b ≠ 0x5c then throw .unfinishedPair
      else
        match s₂, h₂ with
        | [], _ => throw .endInString
        | b :: s₃, h₃ =>
          if b ≠ 0x75 then throw .unfinishedPair
          else
            let ⟨m, s₄, h₄⟩ ← readHex4 s₃
            if isTrailing m then
              return ⟨Char.ofNat (0x10000 + (n - 0xd800) * 1024 + (m - 0xdc00)), s₄, by
                simp at h₃; omega⟩
            else throw .loneSurrogate
  else return ⟨Char.ofNat n, s₁, h₁⟩

/-- What an escape other than `\u` stands for. -/
def simpleEscape? (b : UInt8) : Option Char :=
  if b = 0x22 then some '"'
  else if b = 0x5c then some '\\'
  else if b = 0x2f then some '/'
  else if b = 0x62 then some '\x08'
  else if b = 0x66 then some '\x0c'
  else if b = 0x6e then some '\n'
  else if b = 0x72 then some '\r'
  else if b = 0x74 then some '\t'
  else none

/-- Reads an escape after its backslash. -/
def readEscape : Reader Char := fun s =>
  match s with
  | [] => .error .endInString
  | b :: rest =>
    if b = 0x75 then do
      let r ← readCodePoint rest
      return r.within (Rest.tail b rest).2
    else
      match simpleEscape? b with
      | some c => .ok (.ofHead c b rest)
      | none => .error .invalidEscape

/-- Reads the bytes of a string up to its closing quote. -/
def readContent (s : Bytes) : Except Error (Reading Bytes s) :=
  match s with
  | [] => .error .endInString
  | b :: rest =>
    if b = 0x22 then .ok (.ofHead [] b rest)
    else if b = 0x5c then do
      let ⟨c, s₁, h₁⟩ ← readEscape rest
      let ⟨content, s₂, h₂⟩ ← readContent s₁
      return ⟨String.utf8EncodeChar c ++ content, s₂, by simp; omega⟩
    else if b < 0x20 then .error .controlCharacter
    else do
      let ⟨content, s₁, h₁⟩ ← readContent rest
      return ⟨b :: content, s₁, by simp; omega⟩
termination_by s.length
decreasing_by
  all_goals
    simp only [List.length_cons]
    omega

/-- Reads a string after its opening quote. Its bytes must be UTF-8. -/
def readStringTail : Reader String := fun s => do
  let r ← readContent s
  match Utf8.decode? r.value with
  | some text => return r.map fun _ => String.ofList text
  | none => throw .invalidCodePoint

/-- Passes over an escape after its backslash. What its digits stand for does not matter. -/
def skipEscape : Reader Unit := fun s =>
  match s with
  | [] => .error .endInString
  | b :: rest =>
    if b = 0x75 then do
      let r ← readHex4 rest
      return (r.map fun _ => ()).within (Rest.tail b rest).2
    else
      match simpleEscape? b with
      | some _ => .ok (.ofHead () b rest)
      | none => .error .invalidEscape

/-- Passes over a string up to its closing quote. Its bytes need not be UTF-8. -/
def skipContent (s : Bytes) : Except Error (Reading Unit s) :=
  match s with
  | [] => .error .endInString
  | b :: rest =>
    if b = 0x22 then .ok (.ofHead () b rest)
    else if b = 0x5c then do
      let ⟨_, s₁, h₁⟩ ← skipEscape rest
      let ⟨_, s₂, h₂⟩ ← skipContent s₁
      return ⟨(), s₂, by simp; omega⟩
    else if b < 0x20 then .error .controlCharacter
    else do
      let ⟨_, s₁, h₁⟩ ← skipContent rest
      return ⟨(), s₁, by simp; omega⟩
termination_by s.length
decreasing_by
  all_goals
    simp only [List.length_cons]
    omega

/-- A number below 16 as a lower-case hexadecimal digit. -/
def hexDigit (n : Nat) : Char :=
  if n < 10 then Char.ofNat (48 + n) else Char.ofNat (87 + n)

/-- How a character is written in a string. -/
def writeChar (c : Char) : List Char :=
  if c = '"' then ['\\', '"']
  else if c = '\\' then ['\\', '\\']
  else if c = '\x08' then ['\\', 'b']
  else if c = '\x0c' then ['\\', 'f']
  else if c = '\n' then ['\\', 'n']
  else if c = '\r' then ['\\', 'r']
  else if c = '\t' then ['\\', 't']
  else if c.toNat < 0x20 then ['\\', 'u', '0', '0', hexDigit (c.toNat / 16), hexDigit (c.toNat % 16)]
  else [c]

/-- A text as a string of a document. -/
def writeString (text : String) : List Char :=
  '"' :: text.toList.flatMap writeChar ++ ['"']

end SignIn.Json
