import SignIn.Callback.Error
import SignIn.Request.Parameters
import SignIn.Text.Blank
import SignIn.Url

namespace SignIn

/-- The settings of a request. -/
structure RequestSettings where
  /-- The URI that the app has registered. -/
  redirectUri : String
  /-- The state that was sent. -/
  sentState : Option String
  deriving DecidableEq, Repr

namespace RequestSettings

/-- How settings are written. -/
def record : Json.Record RequestSettings where
  name := "struct ContinuationConfig"
  blank := ⟨"", none⟩
  fields :=
    [Json.field "redirect_uri" .required Json.text fun redirectUri s => { s with redirectUri },
     Json.field "request_state" .defaulted (Json.optional Json.text) fun sentState s =>
       { s with sentState }]

/-- The document of settings. -/
def document (s : RequestSettings) : Json.Value :=
  .object [("redirect_uri", .string s.redirectUri), ("request_state", optionalText s.sentState)]

/-- Refuses settings with which no answer could be read. -/
def check (s : RequestSettings) : Except CallbackError Unit :=
  if Text.isAllBlank s.redirectUri then .error (.badSettings "redirect_uri must not be empty")
  else
    match Url.parse s.redirectUri with
    | .error e => .error (.badSettings ("redirect_uri is not a valid URL: " ++ e.message))
    | .ok _ =>
      if s.sentState = some "" then .error (.badSettings "request_state must not be empty when set")
      else .ok ()

end RequestSettings

end SignIn
