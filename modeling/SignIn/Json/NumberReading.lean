import SignIn.Json.Reading

namespace SignIn.Json

/-- Whether a byte is a decimal digit. -/
def isDigit (b : UInt8) : Bool :=
  0x30 ≤ b && b ≤ 0x39

/-- The digits at the front of a byte string, as numbers, and what follows them. -/
def spanDigits (s : Bytes) : List Nat × Rest s :=
  ((s.takeWhile isDigit).map fun b => b.toNat - 0x30,
    ⟨s.dropWhile isDigit, (List.dropWhile_suffix _).length_le⟩)

/-- Reads the digits of the whole part: a zero alone, or digits that begin with another. -/
def readWhole (ended : Error) (s : Bytes) :
    Except Error (List Nat × { rest : Bytes // rest.length < s.length }) :=
  match s with
  | [] => .error ended
  | b :: rest =>
    if b = 0x30 then
      if (rest.head?.map isDigit).getD false then .error .invalidNumber
      else .ok ([0], ⟨rest, by simp⟩)
    else if isDigit b then
      let (digits, ⟨after, h⟩) := spanDigits rest
      .ok ((b.toNat - 0x30) :: digits, ⟨after, by simp; omega⟩)
    else .error .invalidNumber

/-- Reads a point and at least one digit, if there is a point. -/
def readFraction (ended : Error) (s : Bytes) :
    Except Error (Option (List Nat) × Rest s) :=
  match s with
  | 0x2e :: rest =>
    match spanDigits rest with
    | ([], ⟨[], _⟩) => .error ended
    | ([], ⟨_ :: _, _⟩) => .error .invalidNumber
    | (d :: digits, ⟨after, h⟩) => .ok (some (d :: digits), ⟨after, by simp; omega⟩)
  | s => .ok (none, .all s)

/-- Takes a sign off the front. The first part says whether it is a minus. -/
def takeSign (s : Bytes) : Bool × Rest s :=
  match s with
  | 0x2b :: rest => (false, .tail 0x2b rest)
  | 0x2d :: rest => (true, .tail 0x2d rest)
  | s => (false, .all s)

/-- Reads an exponent of at least one digit, if there is one. -/
def readExponent (ended : Error) (s : Bytes) :
    Except Error (Option (Bool × List Nat) × Rest s) :=
  match s with
  | b :: rest =>
    if b = 0x65 ∨ b = 0x45 then
      let (negative, ⟨unsigned, hu⟩) := takeSign rest
      match spanDigits unsigned with
      | ([], ⟨[], _⟩) => .error ended
      | ([], ⟨_ :: _, _⟩) => .error .invalidNumber
      | (d :: digits, ⟨after, h⟩) => .ok (some (negative, d :: digits), ⟨after, by simp; omega⟩)
    else .ok (none, .all (b :: rest))
  | [] => .ok (none, .all [])

/-- Reads a number whose sign has been read. `ended` is the error for a text that ends within it. -/
def readUnsigned (ended : Error) (negative : Bool) : Reader NumberLiteral := fun s => do
  let (whole, ⟨s₁, h₁⟩) ← readWhole ended s
  let (fraction, ⟨s₂, h₂⟩) ← readFraction ended s₁
  let (exponent, ⟨s₃, h₃⟩) ← readExponent ended s₂
  return ⟨⟨negative, whole, fraction, exponent⟩, s₃, by omega⟩

/-- Reads a number, with its sign. -/
def readLiteral (ended : Error) : Reader NumberLiteral := fun s =>
  match s with
  | 0x2d :: rest => do
    let r ← readUnsigned ended true rest
    return r.within (by simp)
  | s => readUnsigned ended false s

/-- Reads a number that is kept. -/
def readNumber : Reader Number := fun s => do
  let r ← readLiteral .endInValue s
  match r.value.value? with
  | some n => return r.map fun _ => n
  | none => throw .numberOutOfRange

end SignIn.Json
