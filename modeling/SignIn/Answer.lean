import SignIn.Answer.Store

namespace SignIn

/-- The code that completes a sign-in. -/
structure CodeGrant where
  code : String
  /-- The state that came back. -/
  state : Option String
  deriving DecidableEq, Repr

/-- An error that the server reports. -/
structure Refusal where
  error : String
  description : Option String
  /-- The state that came back. -/
  state : Option String
  deriving DecidableEq, Repr

/-- What a callback URL carries. -/
inductive Answer where
  | switch (request : SwitchRequest)
  | resume (request : ResumeRequest)
  | grant (grant : CodeGrant)
  | refusal (refusal : Refusal)
  deriving DecidableEq, Repr

namespace SwitchRequest

/-- Reads the request that begins a browser switch. -/
def ofUrl (url : String) (redirectUri sentState : Option String) : Except CallbackError SwitchRequest :=
  (Redirect.parse .away url redirectUri sentState).map .mk

/-- The request as it is shown to a developer. -/
def debugText (r : SwitchRequest) : String :=
  Text.showRecord "BrowserSwitchResponse" [("payload", r.redirect.debugText)]

end SwitchRequest

namespace ResumeRequest

/-- Reads the request that ends a browser switch. It refers to no other request yet. -/
def ofUrl (url : String) (redirectUri sentState : Option String) : Except CallbackError ResumeRequest :=
  (Redirect.parse .back url redirectUri sentState).map fun redirect => ⟨redirect, none⟩

/-- The request as it is shown to a developer. -/
def debugText (r : ResumeRequest) : String :=
  Text.showRecord "BrowserSwitchResumeResponse"
    [("payload", r.redirect.debugText), ("parent", Text.showOption SwitchRef.debugText r.parent)]

end ResumeRequest

namespace CodeGrant

/-- Reads an authorization code. -/
def ofUrl (url : String) : Except CallbackError CodeGrant := do
  let u ← Url.ofCallback url
  match u.param "code" with
  | some code => return ⟨code, u.param "state"⟩
  | none => throw (.unrelated "no authorization code")

/-- The grant as it is shown to a developer. Its code is not shown. -/
def debugText (g : CodeGrant) : String :=
  Text.showRecord "AuthCodeResponse"
    [("code", Text.redacted), ("state", Text.showOption Text.quote g.state)]

end CodeGrant

namespace Refusal

/-- The error code of a refusal that only describes its error. -/
def unnamedError : String := "server_error"

/-- Reads an error that the server reports, by its code or its description. -/
def ofUrl (url : String) : Except CallbackError Refusal := do
  let u ← Url.ofCallback url
  match u.param "error", u.param "error_description" with
  | none, none => throw (.unrelated "no oauth error")
  | error, description => return ⟨error.getD unnamedError, description, u.param "state"⟩

/-- The refusal as it is shown to a developer. -/
def debugText (r : Refusal) : String :=
  Text.showRecord "OAuthErrorResponse"
    [("error", Text.quote r.error), ("error_description", Text.showOption Text.quote r.description),
     ("state", Text.showOption Text.quote r.state)]

end Refusal

namespace Answer

/-- The kind of an answer in one word. -/
def kind : Answer → String
  | switch _ => "browser_switch"
  | resume _ => "browser_switch_resume"
  | grant _ => "authorization_code"
  | refusal _ => "oauth_error"

/-- Where an answer asks to go on and what it carries for that, if it asks so. -/
def redirect? : Answer → Option (BrowserStep × Redirect)
  | switch request => some (.away, request.redirect)
  | resume request => some (.back, request.redirect)
  | grant _ | refusal _ => none

/-- An answer as it is shown to a developer. -/
def debugText : Answer → String
  | switch request => Text.showWrapped "BrowserSwitch" request.debugText
  | resume request => Text.showWrapped "BrowserSwitchResume" request.debugText
  | grant g => Text.showWrapped "AuthorizationCode" g.debugText
  | refusal r => Text.showWrapped "OAuthError" r.debugText

end Answer

end SignIn
