import SignIn.Dialogue
import SignIn.Flight.Source
import SignIn.Text.Blank

namespace SignIn

/-- A view on flights answers from the source attached to it. -/
structure FlightView where
  source : Option FlightSource

namespace FlightView

/-- Whether a flight is on. Without a source none is. -/
def flag (v : FlightView) (key : String) : Bool :=
  match v.source with
  | some source => source.flag key
  | none => false

/-- The text of a flight. Without a source there is none. -/
def text (v : FlightView) (key : String) : Option String :=
  v.source.bind (·.text key)

/-- A view as it is shown to a developer. -/
def debugText (v : FlightView) : String :=
  Text.showRecord "FlightManager" [("has_provider", if v.source.isSome then "true" else "false")]

end FlightView

/-- Finds the source for a query key that has not been seen before. -/
abbrev SourceFinder :=
  String → QueryKeyKind → Option FlightSource

/-- The number of a view: how many were made before it. -/
abbrev ViewId := Nat

/-- The views made so far and what they are found by. A view stays what it is, whatever becomes of its source,
so views are numbered as they are made and kept by their numbers. -/
structure FlightDirectory where
  /-- The views, each at its number. -/
  views : List FlightView
  /-- The view for lookups without a key, once it has been made. -/
  shared : Option ViewId
  /-- The view of each query key that has been looked up. -/
  byKey : TextMap ViewId
  finder : Option SourceFinder

/-- What a lookup gives: a view, the directory afterwards, and what the finder was asked on the way, which is
one question at most. -/
structure ViewLookup where
  view : ViewId
  directory : FlightDirectory
  asked : Option (String × QueryKeyKind)

/-- How a lookup comes to a view and the directory afterwards. It may ask a finder for a source. -/
abbrev LookupPlan :=
  Dialogue (String × QueryKeyKind) (fun _ => Option FlightSource) (ViewId × FlightDirectory)

namespace FlightDirectory

/-- The directory that has made no view yet. -/
def empty : FlightDirectory :=
  ⟨[], none, TextMap.empty, none⟩

/-- Installs or removes the finder. -/
def setFinder (d : FlightDirectory) (finder : Option SourceFinder) : FlightDirectory :=
  { d with finder }

/-- The view of a number. -/
def view? (d : FlightDirectory) (id : ViewId) : Option FlightView :=
  d.views[id]?

/-- Attaches a source to a view, or detaches it. -/
def setSource (d : FlightDirectory) (id : ViewId) (source : Option FlightSource) : FlightDirectory :=
  { d with views := d.views.modify id fun v => { v with source } }

/-- How the shared view is looked up: it is made the first time. -/
def sharedPlan (d : FlightDirectory) : LookupPlan :=
  match d.shared with
  | some id => return (id, d)
  | none =>
    let id := d.views.length
    return (id, { d with views := d.views ++ [⟨none⟩], shared := some id })

/-- How the view of a query key is looked up. A blank key stands for the shared view. A key that has not been
seen gets a view of its own, with the source that the finder finds for it if there is a finder; the kind of
the key matters only to the finder. -/
def keyPlan (d : FlightDirectory) (key : String) (kind : QueryKeyKind) : LookupPlan := do
  if Text.isAllBlank key then d.sharedPlan
  else
    match d.byKey.get? key with
    | some id => return (id, d)
    | none =>
      let source ← if d.finder.isSome then .put (key, kind) else pure none
      let id := d.views.length
      return (id, { d with views := d.views ++ [⟨source⟩], byKey := d.byKey.insert key id })

/-- What the finder says to a question, if there is a finder. -/
def find (d : FlightDirectory) (question : String × QueryKeyKind) : Option FlightSource :=
  d.finder.bind fun find => find question.1 question.2

/-- Carries a lookup out with the finder of the directory. -/
def carryOut (d : FlightDirectory) (plan : LookupPlan) : ViewLookup :=
  let (questions, view, directory) := plan.run d.find
  ⟨view, directory, questions.head?⟩

/-- Looks up the shared view. -/
def lookupShared (d : FlightDirectory) : ViewLookup :=
  d.carryOut d.sharedPlan

/-- Looks up the view of a query key. -/
def lookup (d : FlightDirectory) (key : String) (kind : QueryKeyKind) : ViewLookup :=
  d.carryOut (d.keyPlan key kind)

/-- How many query keys have a view. -/
def keyCount (d : FlightDirectory) : Nat :=
  d.byKey.entries.length

/-- A directory as it is shown to a developer. -/
def debugText (d : FlightDirectory) : String :=
  Text.showRecord "FlightRegistry" [("cached_instances", toString d.keyCount)]

end FlightDirectory

end SignIn
