import SignIn.Cipher.Aes

namespace SignIn.Gcm

open Aes (Block Key encryptBlock)

/-- The twelve bytes that must differ between any two messages under one key. -/
abbrev Nonce := Vector UInt8 12

/-- A counter as the last four bytes of a block. -/
def counterBytes (counter : UInt32) : Vector UInt8 4 :=
  Vector.ofFn fun i => (counter >>> (24 - 8 * i.val).toUInt32).toUInt8

/-- The block that is encrypted for one value of the counter. -/
def counterBlock (nonce : Nonce) (counter : UInt32) : Block :=
  nonce ++ counterBytes counter

/-- The encrypted counter blocks from `counter` on, one after the other. -/
def keystream (key : Key) (nonce : Nonce) (counter : UInt32) : (blocks : Nat) → Bytes
  | 0 => []
  | blocks + 1 =>
    (encryptBlock key (counterBlock nonce counter)).toList ++ keystream key nonce (counter + 1) blocks

/-- The keystream has sixteen bytes for each block. -/
@[simp] theorem length_keystream (key : Key) (nonce : Nonce) (counter : UInt32) (blocks : Nat) :
    (keystream key nonce counter blocks).length = 16 * blocks := by
  induction blocks generalizing counter with
  | zero => rfl
  | succ n ih => simp [keystream, ih]; omega

/-- Adds the keystream to a message. Doing it twice gives the message back. -/
def applyKeystream (key : Key) (nonce : Nonce) (message : Bytes) : Bytes :=
  List.zipWith (· ^^^ ·) message (keystream key nonce 2 ((message.length + 15) / 16))

/-- Adding the keystream keeps the length of a message. -/
@[simp] theorem length_applyKeystream (key : Key) (nonce : Nonce) (message : Bytes) :
    (applyKeystream key nonce message).length = message.length := by
  simp [applyKeystream]
  omega

private theorem zipWith_xor_zipWith_xor (xs ys : Bytes) (h : xs.length ≤ ys.length) :
    List.zipWith (· ^^^ ·) (List.zipWith (· ^^^ ·) xs ys) ys = xs := by
  induction xs generalizing ys with
  | nil => simp
  | cons x xs ih =>
    cases ys with
    | nil => simp at h
    | cons y ys => simpa [UInt8.xor_assoc] using ih ys (by simpa using h)

/-- Adding the keystream is its own inverse, because the keystream depends on the length alone. -/
theorem applyKeystream_applyKeystream (key : Key) (nonce : Nonce) (message : Bytes) :
    applyKeystream key nonce (applyKeystream key nonce message) = message := by
  rw [applyKeystream, length_applyKeystream, applyKeystream]
  exact zipWith_xor_zipWith_xor _ _ (by simp; omega)

/-- A block as a polynomial over GF(2); its first bit is the coefficient of 1. -/
def elementOf (block : Block) : BitVec 128 :=
  block.toList.foldl (fun acc b => (acc <<< 8) ||| BitVec.ofNat 128 b.toNat) 0

/-- Adds to `sum` the multiples of `v` that the lowest `bits` bits of `x` ask for, highest first. -/
def multiplyFrom (x : BitVec 128) : (bits : Nat) → (sum v : BitVec 128) → BitVec 128
  | 0, sum, _ => sum
  | bits + 1, sum, v =>
    multiplyFrom x bits (if x.getLsbD bits then sum ^^^ v else sum)
      (if v.getLsbD 0 then (v >>> 1) ^^^ (0xe1#128 <<< 120) else v >>> 1)

/-- The product modulo `x^128 + x^7 + x^2 + x + 1`. -/
def multiply (x y : BitVec 128) : BitVec 128 :=
  multiplyFrom x 128 0 y

/-- The blocks of a byte string, the last one filled up with zeros. -/
def blocksOf : Bytes → List Block
  | [] => []
  | b :: rest =>
    (Vector.ofFn fun i : Fin 16 => (b :: rest).getD i.val 0) :: blocksOf ((b :: rest).drop 16)
termination_by bytes => bytes.length
decreasing_by
  simp only [List.length_drop, List.length_cons]
  omega

/-- The lengths in bits of the associated data and the ciphertext, as one block. -/
def lengthBlock (associated ciphertext : Nat) : Block :=
  Vector.ofFn fun i : Fin 16 => (Bytes.be64 (8 * associated) ++ Bytes.be64 (8 * ciphertext)).getD i.val 0

/-- The polynomial of the blocks at the point `h`. -/
def authenticator (h : BitVec 128) (blocks : List Block) : BitVec 128 :=
  blocks.foldl (fun acc block => multiply (acc ^^^ elementOf block) h) 0

/-- The tag of a ciphertext and its associated data. -/
def tag (key : Key) (nonce : Nonce) (associated ciphertext : Bytes) : Block :=
  let h := elementOf (encryptBlock key (Vector.replicate 16 0))
  let blocks := blocksOf associated ++ blocksOf ciphertext ++
    [lengthBlock associated.length ciphertext.length]
  let sum := authenticator h blocks ^^^ elementOf (encryptBlock key (counterBlock nonce 1))
  Vector.ofFn fun i => UInt8.ofNat (sum >>> (120 - 8 * i.val)).toNat

end SignIn.Gcm
