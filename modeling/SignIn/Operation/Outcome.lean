import SignIn.Answer
import SignIn.Operation.Stage

namespace SignIn

/-- An authorization code and the action URI that the browser switch began with. -/
structure CompletedSignIn where
  grant : CodeGrant
  initialActionUri : String
  deriving DecidableEq, Repr

/-- What comes of an operation. -/
inductive Outcome where
  | answered (answer : Answer)
  | signedIn (result : CompletedSignIn)
  | failed (error : OperationError)
  deriving DecidableEq, Repr

/-- What one of the two handlers is given. -/
inductive Delivery where
  /-- To the handler of answers and errors. -/
  | answer (result : Except OperationError Answer)
  /-- To the handler of completed sign-ins. -/
  | signIn (result : CompletedSignIn)

namespace Outcome

/-- Where an outcome goes. -/
def delivery : Outcome → Delivery
  | answered answer => .answer (.ok answer)
  | signedIn result => .signIn result
  | failed error => .answer (.error error)

/-- The stage in which an outcome leaves the operation. -/
def stage : Outcome → Stage
  | answered _ => .answered
  | signedIn _ => .signedIn
  | failed _ => .failed

end Outcome

/-- The two handlers as they are shown to a developer. -/
def handlersDebugText : String :=
  Text.showPartialRecord "CompletionHandlers" []

end SignIn
