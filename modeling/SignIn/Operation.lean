import SignIn.Operation.Outcome

namespace SignIn

/-- An operation on a request that begins or ends a browser switch. -/
inductive Operation where
  | switch (request : SwitchRequest)
  /-- Ends the switch that began with the given action URI. -/
  | resume (request : ResumeRequest) (initialActionUri : String)
  deriving DecidableEq, Repr

namespace Operation

/-- Makes the operation for an answer that begins a switch. -/
def ofSwitch : Answer → Except CallbackError Operation
  | .switch request => .ok (.switch request)
  | _ => .error (.misuse "BrowserSwitchResponse is required for creating BrowserSwitchOperation")

/-- Makes the operation for an answer that ends a switch. The request that began it has to be in the
store. -/
def ofResume (answer : Answer) (store : SwitchStore) : Except CallbackError Operation :=
  match answer with
  | .resume request =>
    match request.parent.bind store.get? with
    | some parent => .ok (.resume request parent.redirect.actionUri)
    | none => .error (.misuse
        "Parent response of type BrowserSwitchResponse is required for creating BrowserSwitchResumeOperation")
  | _ => .error (.misuse
      "BrowserSwitchResumeResponse is required for creating BrowserSwitchResumeOperation")

/-- The redirect that an operation follows. -/
def redirect : Operation → Redirect
  | switch request => request.redirect
  | resume request _ => request.redirect

/-- Where an operation goes on. -/
def step : Operation → BrowserStep
  | switch _ => .away
  | resume _ _ => .back

/-- An operation as it is shown to a developer. -/
def debugText : Operation → String
  | switch request => Text.showPartialRecord "BrowserSwitchOperation" [("response", request.debugText)]
  | resume request initialActionUri =>
    Text.showPartialRecord "BrowserSwitchResumeOperation"
      [("response", request.debugText), ("parent_action_uri", Text.quote initialActionUri)]

/-- What comes of an answer: a code completes the sign-in if it ends a switch. -/
def outcomeOf : Operation → Answer → Outcome
  | resume _ initialActionUri, .grant grant => .signedIn ⟨grant, initialActionUri⟩
  | _, answer => .answered answer

end Operation

end SignIn
