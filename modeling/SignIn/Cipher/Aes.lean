import SignIn.Bytes

namespace SignIn.Aes

/-- Sixteen bytes, column by column: byte `4 * c + r` stands in column `c`, row `r`. -/
abbrev Block := Vector UInt8 16

/-- Multiplication by `x` among the polynomials modulo `x^8 + x^4 + x^3 + x + 1`. -/
def double (b : UInt8) : UInt8 :=
  (b <<< 1) ^^^ (if b &&& 0x80 = 0 then 0 else 0x1b)

/-- The product of two polynomials, taking the lowest `bits` coefficients of the second. -/
def product (a b : UInt8) : (bits : Nat) → UInt8
  | 0 => 0
  | bits + 1 => (if b &&& 1 = 0 then 0 else a) ^^^ product (double a) (b >>> 1) bits

/-- A power of a polynomial. -/
def power (a : UInt8) : Nat → UInt8
  | 0 => 1
  | n + 1 => product a (power a n) 8

/-- The substitution of one byte: its inverse (power 254, which leaves 0 alone), then an affine map. -/
def substitution (b : UInt8) : UInt8 :=
  let i := power b 254
  let turned := fun n : UInt8 => (i <<< n) ||| (i >>> (8 - n))
  i ^^^ turned 1 ^^^ turned 2 ^^^ turned 3 ^^^ turned 4 ^^^ 0x63

/-- The substitution of every byte, computed once. -/
def substitutionTable : Vector UInt8 256 :=
  Vector.ofFn fun i => substitution (UInt8.ofNat i)

/-- The substitution of one byte, read off the table. -/
def substitute (b : UInt8) : UInt8 :=
  substitutionTable.get ⟨b.toNat, b.toNat_lt⟩

/-- Row `r` moves `r` columns to the left. -/
def shiftRows (s : Block) : Block :=
  Vector.ofFn fun i => s.get ⟨(i.val + 4 * (i.val % 4)) % 16, Nat.mod_lt _ (by decide)⟩

/-- Every column is multiplied by the circulant matrix of 2, 3, 1, 1. -/
def mixColumns (s : Block) : Block :=
  Vector.ofFn fun i =>
    let entry := fun r => s.get ⟨(i.val / 4 * 4 + (i.val + r) % 4) % 16, Nat.mod_lt _ (by decide)⟩
    double (entry 0) ^^^ double (entry 1) ^^^ entry 1 ^^^ entry 2 ^^^ entry 3

/-- Adds two blocks, bit by bit. -/
def addBlocks (s t : Block) : Block :=
  Vector.zipWith (· ^^^ ·) s t

/-- The rounds after the first addition of a key; the last one leaves the columns unmixed. -/
def rounds (s : Block) : List Block → Block
  | [] => s
  | [key] => addBlocks (shiftRows (s.map substitute)) key
  | key :: keys => rounds (addBlocks (mixColumns (shiftRows (s.map substitute))) key) keys

/-- A word of the key schedule. -/
abbrev Word := Vector UInt8 4

/-- Adds two words, bit by bit. -/
def addWords (v w : Word) : Word :=
  Vector.zipWith (· ^^^ ·) v w

/-- What is added to the word one key length back to give word `i` of the schedule. -/
def scheduleStep (keyWords i : Nat) (previous : Word) : Word :=
  if i % keyWords = 0 then
    addWords #v[substitute previous[1], substitute previous[2], substitute previous[3],
      substitute previous[0]] #v[power 2 (i / keyWords - 1), 0, 0, 0]
  else if keyWords > 6 ∧ i % keyWords = 4 then previous.map substitute
  else previous

/-- Extends the words of a key to `total` words, each kept at its index. -/
def expand (keyWords total : Nat) (key : Array Word) : Array Word :=
  (List.range' keyWords (total - keyWords)).foldl (fun words i =>
    let zero : Word := #v[0, 0, 0, 0]
    words.push (addWords (words.getD (i - keyWords) zero)
      (scheduleStep keyWords i (words.getD (i - 1) zero)))) key

/-- The round keys of an expanded key. -/
structure Key where
  first : Block
  others : List Block
  deriving DecidableEq

/-- The round keys for a key of `keyWords` words and `roundCount` rounds. -/
def keyOfWords (keyWords roundCount : Nat) (bytes : Bytes) : Key :=
  let zero : Word := #v[0, 0, 0, 0]
  let given := Array.ofFn (n := keyWords) fun i =>
    Vector.ofFn fun r : Fin 4 => bytes.getD (4 * i.val + r.val) 0
  let words := expand keyWords (4 * (roundCount + 1)) given
  let block := fun k : Nat =>
    Vector.ofFn fun i : Fin 16 =>
      (words.getD (4 * k + i.val / 4) zero).get ⟨i.val % 4, Nat.mod_lt _ (by decide)⟩
  ⟨block 0, (List.range roundCount).map fun k => block (k + 1)⟩

/-- Expands a key of 16 or 32 bytes. Any other length is no key. -/
def Key.ofBytes? (bytes : Bytes) : Option Key :=
  if bytes.length = 16 then some (keyOfWords 4 10 bytes)
  else if bytes.length = 32 then some (keyOfWords 8 14 bytes)
  else none

/-- Keys have 16 or 32 bytes. -/
theorem Key.ofBytes?_eq_none_iff {bytes : Bytes} :
    Key.ofBytes? bytes = none ↔ bytes.length ≠ 16 ∧ bytes.length ≠ 32 := by
  unfold Key.ofBytes?
  split <;> simp_all

/-- Encrypts one block. -/
def encryptBlock (key : Key) (block : Block) : Block :=
  rounds (addBlocks block key.first) key.others

end SignIn.Aes
