import SignIn.Cipher.Gcm

namespace SignIn

/-- Why a message can be neither sealed nor opened. -/
inductive CipherError where
  | nonceSize (got : Nat)
  | tagSize (got : Nat)
  | keySize (got : Nat)
  /-- The message or its associated data is longer than the mode allows. -/
  | messageTooLong
  /-- The tag is not the one that sealing gives. -/
  | authentication
  deriving DecidableEq, Repr

/-- The text of a cipher error. -/
def CipherError.message : CipherError → String
  | .nonceSize got => s!"crypto failure: expected 12-byte nonce, got {got}"
  | .tagSize got => s!"crypto failure: expected 16-byte tag, got {got}"
  | .keySize got => s!"crypto failure: unsupported key length: {got} bytes"
  | .messageTooLong => "crypto failure: aead::Error"
  | .authentication => "authentication failed"

/-- The bytes of a key. Their number is checked when the key is used. -/
structure CipherKey where
  bytes : Bytes
  deriving DecidableEq, Repr

namespace CipherKey

/-- The number of bytes of a key. -/
def size (k : CipherKey) : Nat :=
  k.bytes.length

/-- Whether a key holds no bytes. -/
def isEmpty (k : CipherKey) : Bool :=
  k.bytes.isEmpty

end CipherKey

/-- Draws bytes one at a time from a source of random numbers. -/
def drawBytes {γ : Type} [RandomGen γ] : (count : Nat) → γ → Bytes × γ
  | 0, source => ([], source)
  | count + 1, source =>
    let (n, source) := randNat source 0 255
    let (rest, source) := drawBytes count source
    (UInt8.ofNat n :: rest, source)

/-- As many bytes are drawn as were asked for. -/
@[simp] theorem length_drawBytes {γ : Type} [RandomGen γ] (count : Nat) (source : γ) :
    (drawBytes count source).1.length = count := by
  induction count generalizing source with
  | zero => rfl
  | succ n ih => simp [drawBytes, ih]

/-- Draws a key of 32 bytes. -/
def CipherKey.draw {γ : Type} [RandomGen γ] (source : γ) : CipherKey × γ :=
  let (bytes, source) := drawBytes 32 source
  (⟨bytes⟩, source)

/-- Draws a nonce of 12 bytes. -/
def drawNonce {γ : Type} [RandomGen γ] (source : γ) : Bytes × γ :=
  drawBytes 12 source

/-- A ciphertext, as long as its message, and the tag that vouches for it. -/
structure SealedMessage where
  ciphertext : Bytes
  tag : Bytes
  deriving DecidableEq, Repr

/-- A cipher bound to one key, whose length chooses the block cipher. -/
structure KeyedCipher where
  key : CipherKey
  deriving DecidableEq, Repr

namespace KeyedCipher

/-- The longest message: 2^36 bytes. -/
def messageLimit : Nat := 0x1000000000

/-- The most associated data: 2^36 bytes. -/
def associatedLimit : Nat := 0x1000000000

/-- The longest ciphertext that is looked at: as long as a message, and a tag. -/
def ciphertextLimit : Nat := messageLimit + 16

/-- Reads a nonce. -/
def nonceOf (nonce : Bytes) : Except CipherError Gcm.Nonce :=
  if h : nonce.length = 12 then .ok ⟨nonce.toArray, by simpa using h⟩
  else .error (.nonceSize nonce.length)

/-- Reads a tag. -/
def tagOf (tag : Bytes) : Except CipherError Aes.Block :=
  if h : tag.length = 16 then .ok ⟨tag.toArray, by simpa using h⟩ else .error (.tagSize tag.length)

/-- Expands the key of a cipher. -/
def expandedKey (c : KeyedCipher) : Except CipherError Aes.Key :=
  match Aes.Key.ofBytes? c.key.bytes with
  | some key => .ok key
  | none => .error (.keySize c.key.bytes.length)

/-- Encrypts `plaintext` and authenticates it together with `associated`. -/
def encrypt (c : KeyedCipher) (plaintext nonce associated : Bytes) :
    Except CipherError SealedMessage := do
  let nonce ← nonceOf nonce
  let key ← c.expandedKey
  if messageLimit < plaintext.length ∨ associatedLimit < associated.length then throw .messageTooLong
  let ciphertext := Gcm.applyKeystream key nonce plaintext
  return ⟨ciphertext, (Gcm.tag key nonce associated ciphertext).toList⟩

/-- Verifies the tag and decrypts the ciphertext. Nothing is decrypted for a tag that does not verify. -/
def decrypt (c : KeyedCipher) (message : SealedMessage) (nonce associated : Bytes) :
    Except CipherError Bytes := do
  let nonce ← nonceOf nonce
  let tag ← tagOf message.tag
  let key ← c.expandedKey
  if ciphertextLimit < message.ciphertext.length ∨ associatedLimit < associated.length then
    throw .authentication
  if Gcm.tag key nonce associated message.ciphertext = tag then
    return Gcm.applyKeystream key nonce message.ciphertext
  else throw .authentication

end KeyedCipher

end SignIn
