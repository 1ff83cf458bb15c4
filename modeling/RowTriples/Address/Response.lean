import RowTriples.Address.Query
import RowTriples.Document.Decode
import RowTriples.Typing
/-!
# Matches of addresses

A geocoder answers a query with a list of features. The first one is trusted if it is more specific
than a street. It then contributes the full address, its parts, and its geometry.
-/

namespace RowTriples

structure FeatureProperties where
  placeRank : Int64 := 0
  displayName : Option String := none
  address : Entries Json := []
  error : Option Json := none

/-- A feature found by a geocoder. -/
structure Feature where
  properties : FeatureProperties := {}
  geometry : Option (Entries Json) := none

structure GeocodeResponse where
  features : List Feature := []

inductive GeocodeError where
  | request (reason : String)
  | unreadable (reason : String)
  deriving DecidableEq

def GeocodeError.message : GeocodeError → String
  | .request reason => "Geocoder request failed: " ++ reason
  | .unreadable reason => "Geocoder returned an unreadable response: " ++ reason

namespace FeatureProperties

def shape : RecordShape :=
  ⟨"FeatureProperties", [{ name := "place_rank", optional := true },
    { name := "display_name", optional := true }, { name := "address", optional := true },
    { name := "error", optional := true }]⟩

def ofDocument (document : Document) : Decoded FeatureProperties :=
  document.asRecord true shape
    (fun i d (p : FeatureProperties) => do
      if i = 0 then return { p with placeRank := ← d.asInt64 }
      else if i = 1 then return { p with displayName := ← d.asOption Document.asText }
      else if i = 2 then return { p with address := ← d.asNamed Document.asJson }
      else return { p with error := ← d.asOption Document.asJson })
    {}

end FeatureProperties

namespace Feature

def shape : RecordShape :=
  ⟨"GeocodeFeature", [{ name := "properties", optional := true },
    { name := "geometry", optional := true }]⟩

def ofDocument (document : Document) : Decoded Feature :=
  document.asRecord true shape
    (fun i d (feature : Feature) => do
      if i = 0 then return { feature with properties := ← FeatureProperties.ofDocument d }
      else return { feature with geometry := ← d.asOption (Document.asNamed Document.asJson) })
    {}

/-- The rank of streets. Features up to it are not specific enough. -/
def streetRank : Int64 := 20

/-- Whether the feature can be trusted. -/
def isConfident (feature : Feature) : Bool :=
  feature.properties.error.isNone && streetRank < feature.properties.placeRank

end Feature

namespace GeocodeResponse

def shape : RecordShape :=
  ⟨"GeocodeResponse", [{ name := "features", optional := true }]⟩

def ofDocument (document : Document) : Decoded GeocodeResponse :=
  document.asRecord true shape
    (fun _ d (_ : GeocodeResponse) => do return { features := ← d.asList Feature.ofDocument })
    {}

def ofJson (value : Json) : Decoded GeocodeResponse :=
  ofDocument (.ofJson value)

/-- The first feature, if it can be trusted. -/
def match? (response : GeocodeResponse) : Option Feature :=
  response.features.head?.filter Feature.isConfident

end GeocodeResponse

namespace Feature

/-- The parts of an address and the predicates that they are the values of. -/
def addressParts : List (String × String) :=
  [("city", Address.city), ("country", Address.country), ("county", Address.county),
    ("postcode", Address.postalCode), ("state", Address.state), ("road", Address.street),
    ("house_number", Address.streetNumber)]

/-- The text of a part of an address: a text that is not empty, or a number. -/
def partText? : Json → Option String
  | .string text => if text.isEmpty then none else some text
  | .number n => some (String.ofList n.chars)
  | _ => none

def statements (schema : Schema) (vocabulary : Vocabulary) (subject : String) (feature : Feature) :
    List Statement :=
  let p := feature.properties
  let of (predicate object : String) : Statement := ⟨subject, vocabulary.resource predicate, object⟩
  let full := p.displayName.toList.map fun name => of Address.fullText (NTriples.plainLiteral name)
  let parts := addressParts.filterMap fun (key, predicate) => do
    let text ← (Entries.get? key p.address).bind partText?
    return of predicate (NTriples.plainLiteral text)
  let point := feature.geometry.toList.filterMap fun fields =>
    match Typing.literal schema vocabulary Address.geoPoint (.object fields) with
    | .ok object => some (of Address.geoPoint object)
    | .error _ => none
  full ++ parts ++ point

end Feature

end RowTriples
