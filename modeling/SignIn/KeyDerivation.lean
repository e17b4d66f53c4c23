import SignIn.Hash.Sha256

namespace SignIn

/-- Byte inputs of a derivation, as they are called in error texts. -/
inductive KeyParameter where
  | sharedSecret
  | algorithmId
  | partyUInfo
  | partyVInfo
  deriving DecidableEq, Repr

/-- The name of a parameter. -/
def KeyParameter.name : KeyParameter → String
  | .sharedSecret => "sharedSecret"
  | .algorithmId => "algorithmId"
  | .partyUInfo => "partyUInfo"
  | .partyVInfo => "partyVInfo"

/-- Why no key can be derived. -/
inductive DerivationError where
  /-- A key of no bytes was asked for. -/
  | emptyOutput
  /-- A byte input holds nothing. -/
  | missing (parameter : KeyParameter)
  /-- The length asked for is not a whole number of digests, or its bits do not fit 32 bits. -/
  | unsupportedSize
  /-- A byte input is too long for its 32-bit length. -/
  | inputTooLong
  deriving DecidableEq, Repr

/-- The text of a derivation error. -/
def DerivationError.message : DerivationError → String
  | .emptyOutput => "output key length must be > 0"
  | .missing parameter => "missing input parameter: " ++ parameter.name
  | .unsupportedSize => "unsupported key size"
  | .inputTooLong => "crypto failure: input too long"

/-- What a key is derived from, and how long it is to be. -/
structure KeyRequest where
  /-- The secret both parties agreed on. -/
  sharedSecret : Bytes
  /-- The length of the key in bytes. -/
  length : Nat
  /-- The algorithm the key is for. -/
  algorithmId : Bytes
  partyUInfo : Bytes
  partyVInfo : Bytes
  deriving DecidableEq, Repr

namespace KeyRequest

/-- Bytes of one digest, the unit of a key's length. -/
def digestSize : Nat := 32

/-- A byte input behind its own length, so that no byte can move between neighbouring inputs. -/
def counted (input : Bytes) : Bytes :=
  Bytes.be32 input.length ++ input

/-- What is hashed for block `k` of the key, counted from 1: the number, the secret, and the parameters that
name what the key is for. -/
def blockMessage (r : KeyRequest) (k : Nat) : Bytes :=
  Bytes.be32 k ++ r.sharedSecret ++ counted r.algorithmId ++ counted r.partyUInfo ++
    counted r.partyVInfo ++ Bytes.be32 (8 * r.length)

/-- Block `k` of the key. -/
def block (r : KeyRequest) (k : Nat) : Bytes :=
  (Sha256.digest (r.blockMessage k)).toList

/-- A block is as long as a digest. -/
@[simp] theorem length_block (r : KeyRequest) (k : Nat) : (r.block k).length = digestSize := by
  simp [block, digestSize]

/-- The blocks of the key one after the other. -/
def keyBytes (r : KeyRequest) : Bytes :=
  (List.range (r.length / digestSize)).flatMap fun i => r.block (i + 1)

/-- Refuses an input of no bytes. -/
def requirePresent (parameter : KeyParameter) (input : Bytes) : Except DerivationError Unit :=
  if input = [] then .error (.missing parameter) else .ok ()

/-- Refuses an input whose length does not fit 32 bits. -/
def requireCountable (input : Bytes) : Except DerivationError Unit :=
  if input.length < 0x100000000 then .ok () else .error .inputTooLong

/-- Finds the first thing that is wrong with a request. -/
def check (r : KeyRequest) : Except DerivationError Unit := do
  if r.length = 0 then throw .emptyOutput
  requirePresent .sharedSecret r.sharedSecret
  requirePresent .algorithmId r.algorithmId
  requirePresent .partyUInfo r.partyUInfo
  requirePresent .partyVInfo r.partyVInfo
  if r.length % digestSize ≠ 0 then throw .unsupportedSize
  if 0x100000000 ≤ 8 * r.length then throw .unsupportedSize
  requireCountable r.algorithmId
  requireCountable r.partyUInfo
  requireCountable r.partyVInfo

/-- Derives the key of a request. -/
def derive (r : KeyRequest) : Except DerivationError Bytes := do
  r.check
  return r.keyBytes

end KeyRequest

end SignIn
