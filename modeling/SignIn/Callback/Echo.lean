import SignIn.Base64
import SignIn.Callback.Error

namespace SignIn

/-- The texts that a server may send back for a state: the state itself, or its unpadded base64 in either
alphabet. -/
def acceptedEchoes (sent : String) : List String :=
  [sent, String.ofList (Base64.encode .urlSafe (Utf8.bytesOf sent)),
    String.ofList (Base64.encode .standard (Utf8.bytesOf sent))]

/-- Compares the state that came back with the one that was sent. -/
def checkEcho (received : Option String) (sent : String) : Except CallbackError Unit :=
  match received with
  | none => .error .missingState
  | some echo =>
    if echo ∈ acceptedEchoes sent then .ok () else .error (.faulty "state did not match")

end SignIn
