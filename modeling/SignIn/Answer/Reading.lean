import SignIn.Answer
import SignIn.Dialogue
import SignIn.Flight.Directory
import SignIn.Request.Settings

namespace SignIn

/-- A callback URL and what is known of the request that it answers. -/
structure CallbackQuery where
  url : String
  redirectUri : String
  /-- The state that was sent. -/
  sentState : Option String
  label : RequestLabel
  deriving DecidableEq, Repr

/-- Finds out which answer a URL carries. -/
abbrev AnswerReader :=
  CallbackQuery → Except CallbackError Answer

/-- Tries a reading; the next one is tried only if the error of this one allows it. -/
def orElseRecover {α : Type} (first : Except CallbackError α) (next : Except CallbackError α) :
    Except CallbackError α :=
  match first with
  | .ok a => .ok a
  | .error e => if e.isRecoverable then next else .error e

/-- Reads the answer that ends a sign-in: a refusal before a grant. -/
def readFinal (url : String) : Except CallbackError Answer :=
  match Refusal.ofUrl url with
  | .ok refusal => .ok (.refusal refusal)
  | .error _ => (CodeGrant.ofUrl url).map .grant

/-- Reads an answer that asks to go on in another browser, or else a final one. -/
def readContinuing (url redirectUri : String) (sentState : Option String) : Except CallbackError Answer :=
  orElseRecover
    ((SwitchRequest.ofUrl url (some redirectUri) sentState).map .switch)
    (orElseRecover
      ((ResumeRequest.ofUrl url (some redirectUri) sentState).map .resume)
      (readFinal url))

/-- The state that has to come back: the one that was sent, if its flight is on. -/
def FlightView.requiredState (v : FlightView) (sentState : Option String) : Option String :=
  if v.flag switchStateFlight then sentState else none

/-- The reader that goes by flights. -/
def FlightView.answerReader (v : FlightView) : AnswerReader := fun q =>
  if v.flag switchFlight then readContinuing q.url q.redirectUri (v.requiredState q.sentState)
  else readFinal q.url

/-- A reader as it is shown to a developer. -/
def answerReaderDebugText : String :=
  Text.showPartialRecord "ContinuationResponseFactory" []

/-- What a parser does with a callback URL: it comes to a result, or asks a reader and goes on with what
the reader says. -/
abbrev ReadingPlan :=
  Dialogue CallbackQuery (fun _ => Except CallbackError Answer) (Except ForeignError Answer)

/-- Turns a callback URL into an answer with the help of a reader. -/
abbrev CallbackParser :=
  (url : String) → RequestLabel → ReadingPlan

/-- The settings of a request, known to be valid. -/
structure CheckedSettings where
  settings : RequestSettings
  valid : settings.check = .ok ()

namespace CheckedSettings

/-- Takes settings that are valid. -/
def ofSettings (settings : RequestSettings) : Except CallbackError CheckedSettings :=
  match h : settings.check with
  | .ok () => .ok ⟨settings, h⟩
  | .error e => .error e

/-- What a reader is asked about a callback URL of the request. -/
def query (s : CheckedSettings) (url : String) (label : RequestLabel) : CallbackQuery :=
  ⟨url, s.settings.redirectUri, s.settings.sentState, label⟩

/-- Reads a callback URL of the request. -/
def parse (s : CheckedSettings) (url : String) (reader : AnswerReader) (label : RequestLabel) :
    Except CallbackError Answer :=
  reader (s.query url label)

/-- The parser that reads the callback URLs of the request. -/
def parser (s : CheckedSettings) : CallbackParser := fun url label =>
  .ask (s.query url label) fun answer => .finish (answer.mapError .callback)

end CheckedSettings

end SignIn
