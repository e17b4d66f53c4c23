import SignIn.Url.Form

namespace SignIn

/-- The parts of a URI as texts, which put together with their marks give it back. -/
structure UriParts where
  base : List Char
  query : Option (List Char)
  fragment : Option (List Char)
  deriving DecidableEq, Repr

namespace UriParts

/-- Takes a URI apart at its first `#`, and what is before that at its first `?`. -/
def ofText (text : List Char) : UriParts :=
  let (head, fragment) := Text.splitFirst '#' text
  let (base, query) := Text.splitFirst '?' head
  ⟨base, query, fragment⟩

/-- Puts a URI together. -/
def text (p : UriParts) : List Char :=
  p.base ++ (p.query.map ('?' :: ·)).getD [] ++ (p.fragment.map ('#' :: ·)).getD []

end UriParts

/-- The name of the parameter that carries the token. -/
def codeKey : List Char := ['c', 'o', 'd', 'e']

/-- The segments of a query that stay when a code is set: those that are not empty and set no code. -/
def otherSegments (query : List Char) : List (List Char) :=
  (Text.splitOn '&' query).filter fun segment =>
    segment ≠ [] && (Text.splitFirst '=' segment).1 ≠ codeKey

/-- The segment that sets the code to a token. -/
def codeSegment (token : String) : List Char :=
  codeKey ++ '=' :: Form.encodeText token

/-- Sets the code of a URI. All else in it stays as it is, but for empty segments of the query. -/
def uriWithCode (uri token : String) : String :=
  let parts := UriParts.ofText uri.toList
  let kept := (parts.query.map otherSegments).getD []
  let query := Text.joinWith '&' (kept ++ [codeSegment token])
  String.ofList { parts with query := some query }.text

end SignIn
