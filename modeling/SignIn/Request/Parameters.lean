import SignIn.Json.Decoder

namespace SignIn

/-- The document of a text that may be absent. -/
def optionalText : Option String → Json.Value
  | some text => .string text
  | none => .null

/-- Tells a request from others. -/
structure RequestLabel where
  correlationId : String
  deriving DecidableEq, Repr

namespace RequestLabel

/-- How a label is written. -/
def record : Json.Record RequestLabel where
  name := "struct RequestContext"
  blank := ⟨""⟩
  fields := [Json.field "correlation_id" .required Json.text fun correlationId _ => ⟨correlationId⟩]

/-- The document of a label. -/
def document (l : RequestLabel) : Json.Value :=
  .object [("correlation_id", .string l.correlationId)]

end RequestLabel

/-- Where and how a browser session appears. -/
structure Presentation where
  /-- The window that the session belongs to. -/
  anchor : Option String
  /-- Whether the session should leave nothing behind. -/
  ephemeral : Bool
  deriving DecidableEq, Repr

namespace Presentation

/-- The same place with another wish for the session. -/
def withEphemeral (p : Presentation) (ephemeral : Bool) : Presentation :=
  { p with ephemeral }

/-- How a presentation is written. -/
def record : Json.Record Presentation where
  name := "struct PresentationContext"
  blank := ⟨none, false⟩
  fields :=
    [Json.field "anchor" .optional (Json.optional Json.text) fun anchor p => { p with anchor },
     Json.field "prefers_ephemeral_session" .required Json.flag fun ephemeral p => { p with ephemeral }]

/-- The document of a presentation. -/
def document (p : Presentation) : Json.Value :=
  .object [("anchor", optionalText p.anchor), ("prefers_ephemeral_session", .boolean p.ephemeral)]

end Presentation

/-- What an operation needs to know of the request it works for. -/
structure RequestParameters where
  label : RequestLabel
  presentation : Presentation
  /-- The URI on which the browser session ends. -/
  redirectUri : Option String
  deriving DecidableEq, Repr

end SignIn
