import SignIn.Answer.Reading

namespace SignIn

/-- What the channel is told to open. -/
structure SessionRequest where
  url : String
  presentation : Presentation
  label : RequestLabel
  deriving DecidableEq, Repr

/-- A call to a collaborator. -/
inductive CollaboratorCall where
  /-- The channel learns on which URI, and on which scheme, its session ends. -/
  | registerRedirect (uri scheme : String)
  /-- The policy is asked about a start URL. -/
  | askPolicy (url : String)
  /-- The channel opens a session. -/
  | openSession (request : SessionRequest)
  /-- The channel forgets its session. -/
  | forgetSession
  /-- The parser gets the callback URL. -/
  | parse (url : String)
  /-- The parser asks the reader. -/
  | askReader (query : CallbackQuery)
  deriving DecidableEq, Repr

/-- What a collaborator says to a call. A parser says how it goes on, which may take the reader. -/
abbrev CollaboratorCall.Reply : CollaboratorCall → Type
  | registerRedirect _ _ | forgetSession => Unit
  | askPolicy _ => Option String
  | openSession _ => Except ForeignError String
  | parse _ => ReadingPlan
  | askReader _ => Except CallbackError Answer

/-- Puts another URL in place of a start URL, or leaves it. -/
abbrev StartPolicy :=
  String → Option String

/-- The collaborators of an operation, by what they answer. -/
structure Collaborators where
  /-- The callback URL on which a browser session ends. -/
  channel : SessionRequest → Except ForeignError String
  parser : CallbackParser
  reader : AnswerReader
  policy : Option StartPolicy

/-- What the collaborators say to a call for a request. -/
def Collaborators.reply (c : Collaborators) (label : RequestLabel) : (call : CollaboratorCall) → call.Reply
  | .registerRedirect _ _ | .forgetSession => ()
  | .askPolicy url => c.policy.bind (· url)
  | .openSession request => c.channel request
  | .parse url => c.parser url label
  | .askReader query => c.reader query

end SignIn
