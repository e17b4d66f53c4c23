import SignIn.Cipher.Sealing
import SignIn.KeyDerivation
import SignIn.Text.Quoted

namespace SignIn

/-- A key request without its secret. -/
def KeyRequest.debugText (r : KeyRequest) : String :=
  let bytes := fun b : Bytes => Text.showNumbers (b.map UInt8.toNat)
  Text.showRecord "KdfInput"
    [("shared_secret", Text.redacted), ("output_key_len", toString r.length),
     ("algorithm_id", bytes r.algorithmId), ("party_u_info", bytes r.partyUInfo),
     ("party_v_info", bytes r.partyVInfo)]

/-- A key by its length. -/
def CipherKey.debugText (k : CipherKey) : String :=
  Text.showRecord "AeadKey" [("len", toString k.size), ("bytes", Text.redacted)]

/-- A cipher by its key. -/
def KeyedCipher.debugText (c : KeyedCipher) : String :=
  Text.showRecord "AuthenticatedCipher" [("key", c.key.debugText)]

end SignIn
