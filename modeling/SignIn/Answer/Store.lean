import SignIn.Callback.Redirect

namespace SignIn

/-- The request that begins a browser switch. -/
structure SwitchRequest where
  redirect : Redirect
  deriving DecidableEq, Repr

/-- Refers to a request in a store. It names the store, so that it means nothing to any other. -/
structure SwitchRef where
  /-- The number of the store. -/
  store : UInt64
  /-- The place in the store. -/
  index : Nat
  deriving DecidableEq, Repr

/-- A reference as it is shown to a developer. -/
def SwitchRef.debugText (r : SwitchRef) : String :=
  Text.showRecord "ResponseHandle" [("arena", toString r.store), ("index", toString r.index)]

/-- The request that ends a browser switch. -/
structure ResumeRequest where
  redirect : Redirect
  /-- The request that began the switch. -/
  parent : Option SwitchRef
  deriving DecidableEq, Repr

/-- Refers a request to the one that began the switch. -/
def ResumeRequest.withParent (r : ResumeRequest) (parent : SwitchRef) : ResumeRequest :=
  { r with parent := some parent }

/-- Requests in the order in which they came. None is ever taken out. -/
structure SwitchStore where
  /-- No other store has this number, as long as the numbers last. -/
  number : UInt64
  requests : List SwitchRequest
  deriving DecidableEq, Repr

/-- Counts the stores. After the greatest number the count begins again at 0. -/
structure StoreNumbers where
  /-- The number of the next store. -/
  next : UInt64
  deriving DecidableEq, Repr

/-- Stores are numbered from 1. -/
def StoreNumbers.initial : StoreNumbers :=
  ⟨1⟩

/-- Makes an empty store with a number of its own. -/
def StoreNumbers.newStore (n : StoreNumbers) : SwitchStore × StoreNumbers :=
  (⟨n.next, []⟩, ⟨n.next + 1⟩)

namespace SwitchStore

/-- How many requests a store holds. -/
def size (s : SwitchStore) : Nat :=
  s.requests.length

/-- Whether a store holds no request. -/
def isEmpty (s : SwitchStore) : Bool :=
  s.requests.isEmpty

/-- Puts in a request. -/
def insert (s : SwitchStore) (request : SwitchRequest) : SwitchRef × SwitchStore :=
  (⟨s.number, s.size⟩, { s with requests := s.requests ++ [request] })

/-- The request of a reference, if this store gave the reference out. -/
def get? (s : SwitchStore) (r : SwitchRef) : Option SwitchRequest :=
  if r.store = s.number then s.requests[r.index]? else none

/-- Puts in the request that began a switch and refers the one that ends it to the place. -/
def link (s : SwitchStore) (child : ResumeRequest) (parent : SwitchRequest) :
    SwitchRef × ResumeRequest × SwitchStore :=
  let (reference, store) := s.insert parent
  (reference, child.withParent reference, store)

end SwitchStore

end SignIn
