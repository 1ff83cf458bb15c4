import RowTriples.Address.Query
import RowTriples.Address.Response
import RowTriples.Json.Parser
import RowTriples.Web.Target
/-!
# Searching for addresses

A geocoding service is asked for the best match of a query, with the parts of its address.
-/

namespace RowTriples

/-- The address of the search of a service. -/
def searchAddress (service : String) : String :=
  String.ofList (Text.dropEndWhile (· = '/') service.toList) ++ "/search"

def AddressQuery.parameters (query : AddressQuery) : List (String × String) :=
  [("format", "geojson"), ("limit", "1"), ("addressdetails", "1")] ++ query.pairs

def AddressQuery.requestLine (service : String) (query : AddressQuery) : String :=
  Web.requestLine (searchAddress service) query.parameters

def GeocodeResponse.ofReply (reply : Web.Reply) : Except GeocodeError GeocodeResponse :=
  match reply.content?.bind Json.parse? with
  | none => .error (.request ("status " ++ toString reply.status))
  | some value => (ofJson value).mapError fun e => .unreadable e.message

end RowTriples
