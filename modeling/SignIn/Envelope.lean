import SignIn.Base64
import SignIn.Cipher.Sealing
import SignIn.Json.Decoder
import SignIn.KeyDerivation
import SignIn.Text.Blank
import SignIn.Text.Pieces

namespace SignIn

/-- The header of an envelope, as far as it tells how to decrypt it. -/
structure EnvelopeHeader where
  /-- How the content key was agreed on. -/
  alg : String
  /-- How the content is encrypted. -/
  enc : String
  /-- What is known of party U, in base64. -/
  apu : Option String
  /-- What is known of party V, in base64. -/
  apv : Option String
  deriving DecidableEq, Repr

/-- How a header is written. -/
def EnvelopeHeader.record : Json.Record EnvelopeHeader where
  name := "struct JweHeader"
  blank := ⟨"", "", none, none⟩
  fields :=
    [Json.field "alg" .required Json.text fun alg h => { h with alg },
     Json.field "enc" .required Json.text fun enc h => { h with enc },
     Json.field "apu" .defaulted (Json.optional Json.text) fun apu h => { h with apu },
     Json.field "apv" .defaulted (Json.optional Json.text) fun apv h => { h with apv }]

/-- The parts of an envelope that are written in base64. -/
inductive EnvelopePart where
  | header
  | encryptedKey
  | iv
  | ciphertext
  | tag
  | apu
  | apv
  deriving DecidableEq, Repr

/-- The name of a part in error texts. -/
def EnvelopePart.name : EnvelopePart → String
  | .header => "header"
  | .encryptedKey => "encrypted key"
  | .iv => "iv"
  | .ciphertext => "ciphertext"
  | .tag => "tag"
  | .apu => "apu"
  | .apv => "apv"

/-- Why an envelope cannot be read or decrypted. -/
inductive EnvelopeError where
  | segmentCount (got : Nat)
  | encoding (part : EnvelopePart) (cause : Base64.DecodeError)
  | header (cause : Json.Error)
  | unsupportedAlgorithm (alg : String)
  | unsupportedEncryption (enc : String)
  /-- The agreed key is used directly, so no other key may be sent along. -/
  | encryptedKeyPresent
  /-- Nothing is said of a party. -/
  | missingParty (part : EnvelopePart)
  | derivation (cause : DerivationError)
  | cipher (cause : CipherError)
  /-- The content is not a JSON object. -/
  | payload (cause : Json.Error)
  deriving DecidableEq, Repr

/-- The text of an envelope error. -/
def EnvelopeError.message : EnvelopeError → String
  | .segmentCount got => "malformed jwe: expected 5 segments, got " ++ toString got
  | .encoding part cause => "malformed jwe: invalid " ++ part.name ++ " encoding: " ++ cause.message
  | .header cause => "malformed jwe: invalid header: " ++ cause.message
  | .unsupportedAlgorithm alg => "unsupported jwe algorithm: alg " ++ alg
  | .unsupportedEncryption enc => "unsupported jwe algorithm: enc " ++ enc
  | .encryptedKeyPresent =>
    "unsupported jwe algorithm: encrypted key must be empty for direct agreement"
  | .missingParty part => "missing input parameter: " ++ part.name
  | .derivation cause => cause.message
  | .cipher cause => cause.message
  | .payload cause => "malformed jwe: invalid payload: " ++ cause.message

/-- An encrypted response that has been read and not been decrypted. In compact form it is five base64
segments joined by dots. -/
structure Envelope where
  header : EnvelopeHeader
  /-- The header segment as it stands in the text. -/
  protectedText : List Char
  encryptedKey : Bytes
  iv : Bytes
  ciphertext : Bytes
  tag : Bytes
  deriving DecidableEq, Repr

namespace Envelope

/-- The one way of agreeing on a key that is supported. -/
def directAgreement : String := "ECDH-ES"

/-- The one way of encrypting that is supported. -/
def contentEncryption : String := "A256GCM"

/-- The length of the content key in bytes. -/
def contentKeySize : Nat := 32

/-- The base64 text of a part. -/
def encodePart (bytes : Bytes) : List Char :=
  Base64.encode .urlSafe bytes

/-- The bytes of a part. -/
def decodePart (part : EnvelopePart) (text : List Char) : Except EnvelopeError Bytes :=
  (Base64.decode .urlSafe .refused text).mapError (.encoding part)

/-- Reads the header from its segment. -/
def readHeader (segment : List Char) : Except EnvelopeError EnvelopeHeader := do
  let document ← decodePart .header segment
  (Json.decodeBytes EnvelopeHeader.record.decoder document).mapError .header

/-- Reads an envelope. White space around it does not count. -/
def parse (compact : String) : Except EnvelopeError Envelope := do
  match Text.splitOn '.' (Text.trim compact.toList) with
  | [protectedText, encryptedKey, iv, ciphertext, tag] =>
    return {
      header := ← readHeader protectedText
      protectedText
      encryptedKey := ← decodePart .encryptedKey encryptedKey
      iv := ← decodePart .iv iv
      ciphertext := ← decodePart .ciphertext ciphertext
      tag := ← decodePart .tag tag }
  | segments => throw (.segmentCount segments.length)

/-- Writes an envelope. -/
def render (e : Envelope) : List Char :=
  Text.joinWith '.' [e.protectedText, encodePart e.encryptedKey, encodePart e.iv,
    encodePart e.ciphertext, encodePart e.tag]

/-- Refuses an envelope of another kind than the supported one. -/
def checkSupported (e : Envelope) : Except EnvelopeError Unit :=
  if e.header.alg ≠ directAgreement then .error (.unsupportedAlgorithm e.header.alg)
  else if e.header.enc ≠ contentEncryption then .error (.unsupportedEncryption e.header.enc)
  else if e.encryptedKey ≠ [] then .error .encryptedKeyPresent
  else .ok ()

/-- What is known of a party. There has to be something. -/
def partyBytes (part : EnvelopePart) (encoded : Option String) : Except EnvelopeError Bytes :=
  match encoded with
  | none => .error (.missingParty part)
  | some text => if text = "" then .error (.missingParty part) else decodePart part text.toList

/-- What the content key is derived from. -/
def keyRequest (e : Envelope) (sharedSecret partyUInfo partyVInfo : Bytes) : KeyRequest where
  sharedSecret := sharedSecret
  length := contentKeySize
  algorithmId := Utf8.bytesOf e.header.enc
  partyUInfo := partyUInfo
  partyVInfo := partyVInfo

/-- Decrypts the content with the key derived from the agreed secret. The header segment is authenticated as
it stands in the text. -/
def decrypt (e : Envelope) (sharedSecret : Bytes) : Except EnvelopeError Bytes := do
  e.checkSupported
  let partyU ← partyBytes .apu e.header.apu
  let partyV ← partyBytes .apv e.header.apv
  let key ← (e.keyRequest sharedSecret partyU partyV).derive.mapError .derivation
  ((⟨⟨key⟩⟩ : KeyedCipher).decrypt ⟨e.ciphertext, e.tag⟩ e.iv
    (Utf8.encode e.protectedText)).mapError .cipher

/-- Decrypts the content and reads it as a JSON object. -/
def decryptObject (e : Envelope) (sharedSecret : Bytes) :
    Except EnvelopeError (List (String × Json.Value)) := do
  let content ← e.decrypt sharedSecret
  (Json.decodeBytes Json.anyObject content).mapError .payload

end Envelope

end SignIn
