namespace SignIn

/-- Where an operation stands. -/
inductive Stage where
  | created
  /-- Waiting for the channel or the parser. -/
  | running
  /-- An answer was delivered. -/
  | answered
  /-- An authorization code was delivered. -/
  | signedIn
  /-- An error was delivered. -/
  | failed
  deriving DecidableEq, Repr

namespace Stage

/-- The name of a stage. -/
def name : Stage → String
  | created => "Created"
  | running => "Invoking"
  | answered => "CompletedWithResponse"
  | signedIn => "CompletedWithAuthCode"
  | failed => "Failed"

/-- Whether nothing follows a stage. -/
def isFinal : Stage → Bool
  | answered | signedIn | failed => true
  | created | running => false

/-- Whether one stage may come right before another. -/
def mayPrecede : Stage → Stage → Bool
  | created, running => true
  | running, next => next.isFinal
  | _, _ => false

end Stage

end SignIn
