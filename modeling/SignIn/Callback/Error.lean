namespace SignIn

/-- Why a URL is not the answer that was expected, or why none can be expected. -/
inductive CallbackError where
  /-- The URL is not of the kind that was asked for. Another reader may accept it. -/
  | unrelated (detail : String)
  /-- The URL is of the kind that was asked for and something in it is missing or wrong. -/
  | faulty (detail : String)
  /-- A state was sent and none came back. -/
  | missingState
  /-- The caller has not done what it has to. -/
  | misuse (detail : String)
  /-- The settings of the request cannot be used. -/
  | badSettings (detail : String)
  deriving DecidableEq, Repr

namespace CallbackError

/-- The text of an error. -/
def message : CallbackError → String
  | unrelated detail => "invalid response: " ++ detail
  | faulty detail => "server returned invalid response: " ++ detail
  | missingState => "state parameter missing from response"
  | misuse detail => "internal error: " ++ detail
  | badSettings detail => "configuration error: " ++ detail

/-- Whether another reader may still accept the URL. -/
def isRecoverable : CallbackError → Bool
  | unrelated _ => true
  | _ => false

/-- What an error says beyond its kind. -/
def detail? : CallbackError → Option String
  | unrelated detail | faulty detail | misuse detail | badSettings detail => some detail
  | missingState => none

end CallbackError

/-- The error of a collaborator of an operation: one of this library's, or a text of its own. -/
inductive ForeignError where
  | text (words : String)
  | callback (error : CallbackError)
  deriving DecidableEq, Repr

/-- The text of a collaborator's error. -/
def ForeignError.message : ForeignError → String
  | text words => words
  | callback error => error.message

/-- Why an operation fails. -/
inductive OperationError where
  | callback (error : CallbackError)
  /-- The channel has failed. -/
  | channel (source : ForeignError)
  /-- The channel's callback URL cannot be read. -/
  | reading (source : ForeignError)
  deriving DecidableEq, Repr

namespace OperationError

/-- The text of an error. -/
def message : OperationError → String
  | callback error => error.message
  | channel source => "certificate auth channel failed: " ++ source.message
  | reading source => "web response parsing failed: " ++ source.message

/-- Whether another reader may still accept the URL. -/
def isRecoverable : OperationError → Bool
  | callback error => error.isRecoverable
  | _ => false

/-- What an error says beyond its kind. -/
def detail? : OperationError → Option String
  | callback error => error.detail?
  | _ => none

end OperationError

end SignIn
