import SignIn.Proofs.Flight.LookupHistory
import SignIn.Proofs.List

namespace SignIn

namespace DirectoryCall

end DirectoryCall

namespace FlightDirectory

end FlightDirectory

namespace DirectoryHistory

/-- What the finders were asked so far, in order. -/
def questions (h : DirectoryHistory) : List (String × QueryKeyKind) :=
  h.lookups.filterMap (·.asked)

namespace Consistent

variable {calls : List DirectoryCall} {h : DirectoryHistory} (hc : Consistent calls h)

include hc

end Consistent

end DirectoryHistory

end SignIn
