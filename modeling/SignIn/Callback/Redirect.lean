import SignIn.Callback.Error
import SignIn.Callback.Modes
import SignIn.Url

namespace SignIn

/-- Where the sign-in goes on. -/
inductive BrowserStep where
  /-- In another browser. -/
  | away
  /-- Where it came from. -/
  | back
  deriving DecidableEq, Repr

namespace BrowserStep

/-- The last segment of a redirect for this step. -/
def name : BrowserStep → String
  | away => "switch_browser"
  | back => "switch_browser_resume"

/-- The step that is not this one. -/
def other : BrowserStep → BrowserStep
  | away => back
  | back => away

end BrowserStep

/-- What a redirect carries. -/
structure Redirect where
  /-- The URL to open next. -/
  actionUri : String
  /-- The token to send along to that URL. -/
  sessionToken : String
  /-- The state that came back. -/
  state : Option String
  modes : SessionModes
  deriving DecidableEq, Repr

/-- A redirect as it is shown to a developer. Its token is not shown. -/
def Redirect.debugText (r : Redirect) : String :=
  Text.showRecord "ContinuationPayload"
    [("action_uri", Text.quote r.actionUri), ("session_token", Text.redacted),
     ("state", Text.showOption Text.quote r.state), ("browser_modes", r.modes.debugText)]

/-- The value of a query parameter: the first one of that name counts, and only if it is not empty. -/
def Url.param (u : Url) (name : String) : Option String :=
  match u.queryPairs.find? (·.1 = name) with
  | some (_, value) => if value = "" then none else some value
  | none => none

/-- The path of a URL without slashes at its end. -/
def Url.barePath (u : Url) : List Char :=
  Text.trimEnd (· = '/') u.path

/-- Reads a callback URL. -/
def Url.ofCallback (text : String) : Except CallbackError Url :=
  (Url.parse text).mapError fun e => .unrelated ("unparsable url: " ++ e.message)

namespace Redirect

/-- Checks that a URL is the redirect URI of a request followed by the name of a step. The case of the
host does not matter, nor do slashes around the name. -/
def check (u : Url) (redirectUri : String) (step : BrowserStep) : Except CallbackError Unit := do
  let expected ← (Url.parse redirectUri).mapError fun e =>
    .unrelated ("unparsable redirect uri: " ++ e.message)
  if u.scheme ≠ expected.scheme then throw (.unrelated "scheme mismatch")
  if u.hostText.map Char.toLower ≠ expected.hostText.map Char.toLower then
    throw (.unrelated "host mismatch")
  match Text.dropStart? expected.barePath u.barePath with
  | none => throw (.unrelated "path prefix mismatch")
  | some remainder =>
    if remainder.dropWhile (· = '/') ≠ step.name.toList then
      throw (.unrelated ("not a " ++ step.name ++ " url"))

/-- Reads what a URL carries. A state is asked for only if the request sent one. -/
def ofUrl (u : Url) (sentState : Option String) : Except CallbackError Redirect :=
  match u.param "action_uri" with
  | none => .error (.faulty "action_uri is nil.")
  | some actionUri =>
    match u.param "code" with
    | none => .error (.faulty "code is nil.")
    | some sessionToken =>
      let state := u.param "state"
      if sentState.isSome ∧ state = none then .error .missingState
      else
        .ok
          { actionUri, sessionToken, state
            modes := ((u.param "browser_modes").map SessionModes.ofText).getD SessionModes.none }

/-- Reads a redirect for a step. It is held against the redirect URI only if there is one. -/
def parse (step : BrowserStep) (url : String) (redirectUri sentState : Option String) :
    Except CallbackError Redirect := do
  let u ← Url.ofCallback url
  if let some redirectUri := redirectUri then check u redirectUri step
  ofUrl u sentState

/-- Whether the last segment of a URL's path that is not empty names a step. -/
def isFor (url : String) (step : BrowserStep) : Bool :=
  match Url.parse url with
  | .ok u => (Text.splitOn '/' u.path).reverse.find? (· ≠ []) = some step.name.toList
  | .error _ => false

end Redirect

end SignIn
