import SignIn.Text.Pieces

namespace SignIn.Address

/-- The number of a digit of a base up to 16. -/
def digitValue? (base : Nat) (c : Char) : Option Nat :=
  let value :=
    if '0' ≤ c ∧ c ≤ '9' then some (c.toNat - 48)
    else if 'a' ≤ c ∧ c ≤ 'f' then some (c.toNat - 87)
    else if 'A' ≤ c ∧ c ≤ 'F' then some (c.toNat - 55)
    else none
  value.filter (· < base)

/-- The number that digits of a base stand for. -/
def numberOf? (base : Nat) (digits : List Char) : Option Nat :=
  digits.foldlM (fun n c => (digitValue? base c).map (base * n + ·)) 0

/-- The number of a part of an address of 32 bits: hexadecimal after `0x`, octal after a zero, or else
decimal. A bare `0x` counts as zero. -/
def partNumber? (part : List Char) : Option Nat :=
  match part with
  | [] => none
  | '0' :: 'x' :: digits | '0' :: 'X' :: digits => numberOf? 16 digits
  | '0' :: d :: digits => numberOf? 8 (d :: digits)
  | digits => numberOf? 10 digits

/-- The parts of a host, without an empty last one. -/
def hostParts (host : List Char) : List (List Char) :=
  let parts := Text.splitOn '.' host
  if parts.getLast? = some [] then parts.dropLast else parts

/-- Whether the last part of a host is a number, so that the host can be nothing but an address. -/
def endsInNumber (host : List Char) : Bool :=
  match (hostParts host).getLast? with
  | none => false
  | some last => (last ≠ [] && last.all fun c => '0' ≤ c && c ≤ '9') || (partNumber? last).isSome

/-- The address of 32 bits that up to four numbers spell. The last one fills what the others leave. -/
def ofNumbers? (numbers : List Nat) : Option Nat :=
  match numbers.reverse with
  | [] => none
  | last :: reversed =>
    let others := reversed.reverse
    if 3 < others.length ∨ others.any (255 < ·) ∨ 1 <<< (8 * (4 - others.length)) ≤ last then none
    else
      some ((others.zipIdx.map fun (n, i) => n <<< (8 * (3 - i))).foldl (· + ·) last)

/-- Reads an address of 32 bits. -/
def readIpv4 (host : List Char) : Option Nat := do
  let numbers ← (hostParts host).mapM partNumber?
  ofNumbers? numbers

/-- An address of 32 bits in four decimal numbers. -/
def showIpv4 (address : Nat) : List Char :=
  Text.joinWith '.' ([24, 16, 8, 0].map fun shift => Nat.toDigits 10 ((address >>> shift) % 256))

/-- A decimal number below 256 without leading zeros. -/
def readOctet (digits : List Char) : Option Nat := do
  if digits = [] ∨ (digits.head? = some '0' ∧ digits ≠ ['0']) then none
  else (← numberOf? 10 digits |>.filter (· < 256))

/-- The last two pieces of an address of 128 bits, written as four decimal numbers. -/
def readEmbedded (text : List Char) : Option (List Nat) :=
  match (Text.splitOn '.' text).mapM readOctet with
  | some [a, b, c, d] => some [a * 256 + b, c * 256 + d]
  | _ => none

/-- Fills the gap of an address: `gap` pieces stand before what the gap adds. Without a gap there have to be
eight pieces. -/
def fillGap (pieces : List Nat) (gap : Option Nat) : Option (List Nat) :=
  match gap with
  | some n => some (pieces.take n ++ List.replicate (8 - pieces.length) 0 ++ pieces.drop n)
  | none => if pieces.length = 8 then some pieces else none

/-- Reads the pieces of an address of 128 bits that follow those already read. A second colon in a row is
the gap, which stands for at least one piece. -/
def readPieces (pieces : List Nat) (gap : Option Nat) (text : List Char) : Option (List Nat) :=
  match text with
  | [] => fillGap pieces gap
  | ':' :: rest =>
    if pieces.length = 8 ∨ gap.isSome then none
    else readPieces (pieces ++ [0]) (some (pieces.length + 1)) rest
  | c :: text =>
    if pieces.length = 8 then none
    else
      let digits := ((c :: text).take 4).takeWhile fun d => (digitValue? 16 d).isSome
      let value := (numberOf? 16 digits).getD 0
      match _h : (c :: text).drop digits.length with
      | [] => fillGap (pieces ++ [value]) gap
      | '.' :: _ =>
        if digits = [] ∨ 6 < pieces.length then none
        else do
          let embedded ← readEmbedded (c :: text)
          fillGap (pieces ++ embedded) gap
      | ':' :: rest => if rest = [] then none else readPieces (pieces ++ [value]) gap rest
      | _ => none
termination_by text.length
decreasing_by
  · simp
  · have := congrArg List.length _h
    simp only [List.length_drop, List.length_cons] at this
    simp only [List.length_cons]
    omega

/-- Reads an address of 128 bits as its eight pieces. -/
def readIpv6 (text : List Char) : Option (List Nat) :=
  match text with
  | ':' :: ':' :: rest => readPieces [] none (':' :: rest)
  | ':' :: _ => none
  | text => readPieces [] none text

/-- How many zeros stand at the front of some pieces. -/
def leadingZeros (pieces : List Nat) : Nat :=
  (pieces.takeWhile (· = 0)).length

/-- Where the longest run of at least two zeros begins, the first one if there are several. -/
def longestGap (pieces : List Nat) : Option (Nat × Nat) :=
  let runs := (List.range pieces.length).map fun i => (i, leadingZeros (pieces.drop i))
  runs.foldl (fun best run =>
    if run.2 < 2 then best
    else match best with
      | some (_, length) => if length < run.2 then some run else best
      | none => some run) none

/-- An address of 128 bits in hexadecimal, its longest run of zeros left out. -/
def showIpv6 (pieces : List Nat) : List Char :=
  let show_ := fun ps : List Nat => Text.joinWith ':' (ps.map (Nat.toDigits 16))
  match longestGap pieces with
  | some (start, length) =>
    show_ (pieces.take start) ++ [':', ':'] ++ show_ (pieces.drop (start + length))
  | none => show_ pieces

end SignIn.Address
