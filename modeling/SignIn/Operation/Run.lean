import SignIn.Operation
import SignIn.Operation.Collaborators
import SignIn.Operation.StartUrl

namespace SignIn

/-- One thing that happens in a run: a stage is entered, a collaborator is called, or one of the two handlers
is given something. -/
inductive RunEvent where
  | entered (stage : Stage)
  | called (call : CollaboratorCall)
  | delivered (delivery : Delivery)

/-- What happened in a run, in order. -/
abbrev Run := List RunEvent

namespace Run

/-- The calls to collaborators. -/
def calls (r : Run) : List CollaboratorCall :=
  r.filterMap fun
    | .called call => some call
    | _ => none

/-- What the handlers were given. -/
def deliveries (r : Run) : List Delivery :=
  r.filterMap fun
    | .delivered delivery => some delivery
    | _ => none

/-- The stages that the operation entered. -/
def stages (r : Run) : List Stage :=
  r.filterMap fun
    | .entered stage => some stage
    | _ => none

/-- The stage in which the run leaves the operation. -/
def lastStage (r : Run) : Stage :=
  r.stages.getLastD .created

end Run

/-- Delivers an outcome. -/
def Outcome.deliver (outcome : Outcome) : Run :=
  [.delivered outcome.delivery, .entered outcome.stage]

/-- What comes back when something happens: only calls are replied to. -/
abbrev RunEvent.Reply : RunEvent → Type
  | called call => call.Reply
  | entered _ | delivered _ => Unit

/-- What comes back in a run with the given collaborators. -/
def Collaborators.replyTo (c : Collaborators) (label : RequestLabel) : (event : RunEvent) → event.Reply
  | .called call => c.reply label call
  | .entered _ | .delivered _ => ()

/-- What an operation does, one thing after the other, as far as replies to its calls decide it. -/
abbrev RunPlan := Dialogue RunEvent RunEvent.Reply

namespace Operation

/-- Calls a collaborator. -/
def call (call : CollaboratorCall) : RunPlan call.Reply :=
  .put (RunEvent.called call)

/-- Tells the channel on which URI its session ends, if there is one. -/
def registerRedirect (params : RequestParameters) : RunPlan Unit :=
  match params.redirectUri with
  | none => return
  | some uri =>
    match Url.parse uri with
    | .ok u => call (.registerRedirect uri (String.ofList u.scheme))
    | .error _ => return

/-- The start URL before the policy has seen it. -/
def plainStartUrl (op : Operation) : String :=
  uriWithCode op.redirect.actionUri op.redirect.sessionToken

/-- Finds the start URL. The policy is asked if there is one. -/
def chooseStartUrl (op : Operation) (hasPolicy : Bool) : RunPlan String := do
  let replacement ← if hasPolicy then call (.askPolicy op.plainStartUrl) else pure none
  return replacement.getD op.plainStartUrl

/-- What the channel is told to open at a start URL: the session is private if the server asks for it. -/
def sessionAt (op : Operation) (params : RequestParameters) (url : String) : SessionRequest where
  url := url
  presentation := params.presentation.withEphemeral op.redirect.modes.isPrivate
  label := params.label

/-- Has the parser read a callback URL. The questions of the parser go to the reader. -/
def readCallback (callback : String) : RunPlan (Except ForeignError Answer) := do
  let reading ← call (.parse callback)
  Dialogue.within (fun query => call (.askReader query)) reading

/-- Finds out what a browser session comes to. -/
def concludeSession (op : Operation) : Except ForeignError String → RunPlan Outcome
  | .error source => return .failed (.channel source)
  | .ok callback => do
    match ← readCallback callback with
    | .error source => return .failed (.reading source)
    | .ok answer => return op.outcomeOf answer

/-- One round trip of an operation through a browser session. -/
def plan (op : Operation) (params : RequestParameters) (hasPolicy : Bool) : RunPlan Unit := do
  .put (RunEvent.entered .running)
  registerRedirect params
  let url ← op.chooseStartUrl hasPolicy
  let session ← call (.openSession (op.sessionAt params url))
  call .forgetSession
  let outcome ← op.concludeSession session
  .putAll outcome.deliver

/-- Runs an operation to its end. -/
def run (op : Operation) (params : RequestParameters) (c : Collaborators) : Run :=
  ((op.plan params c.policy.isSome).run (c.replyTo params.label)).1

end Operation

end SignIn
