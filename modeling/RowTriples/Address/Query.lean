import RowTriples.Text.Blank
/-!
# Address queries

What a row says about an address is gathered from its fields by the predicates that they are given.
A full address line is searched for as it is; otherwise the parts are searched for by name.
-/

namespace RowTriples

namespace Address

def fullText : String := "locationAddressFullText"

def streetNumber : String := "locationStreetNumberText"

def street : String := "locationStreet"

def city : String := "locationCity"

def state : String := "locationState"

def postalCode : String := "locationPostalCode"

def country : String := "locationCountry"

def county : String := "locationCounty"

def geoPoint : String := "locationGeoPoint"

end Address

inductive AddressQuery where
  | freeText (text : String)
  /-- Parts of the address under the names of search parameters. -/
  | structured (parts : List (String × String))
  deriving DecidableEq

namespace AddressQuery

/-- The value of the first field with a predicate that is not blank, without surrounding white
space. -/
def part? (fields : List (String × String)) (predicate : String) : Option String :=
  (fields.find? fun (name, value) => name = predicate && !Text.isBlankText value).map
    fun (_, value) => Text.trimmed value

/-- The house number and the street, as far as they are known. -/
def streetLine? (fields : List (String × String)) : Option String :=
  match part? fields Address.streetNumber, part? fields Address.street with
  | some number, some street => some (number ++ " " ++ street)
  | none, some street => some street
  | some number, none => some number
  | none, none => none

/-- The query for the fields of an address, if there is anything to search for. -/
def ofFields? (fields : List (String × String)) : Option AddressQuery :=
  match part? fields Address.fullText with
  | some text => some (.freeText text)
  | none =>
    let parts := [("street", streetLine? fields), ("city", part? fields Address.city),
      ("state", part? fields Address.state), ("postalcode", part? fields Address.postalCode),
      ("country", part? fields Address.country)].filterMap fun (name, value?) =>
        value?.map (name, ·)
    if parts.isEmpty then none else some (.structured parts)

/-- The search parameters of a query. -/
def pairs : AddressQuery → List (String × String)
  | .freeText text => [("q", text)]
  | .structured parts => parts

end AddressQuery

end RowTriples
