import RowTriples.Binding.Basic
/-!
# Templates

A template says how a row becomes entities. Each of its entries describes one entity: its class, the
symbol that stands for its identifier, and the rules for its properties. A rule takes values from a
column, links to an entity by its symbol, or repeats a subtemplate for every element of a column and
links to one entity of each repetition. Bindings derive further columns. A subtemplate is a template
of its own, nested in the scope of the template around it.
-/

namespace RowTriples

inductive Target where
  /-- The class of the entity. -/
  | type
  /-- The values of a column. -/
  | column (name : String)
  /-- An entity of this scope or of a scope around it. -/
  | symbol (name : String)
  /-- An entity of each repetition of a subtemplate. -/
  | repeated (subtemplate symbol : String)
  deriving DecidableEq

structure Rule where
  target : Target
  predicates : List String
  deriving DecidableEq

/-- The description of an entity. -/
structure Entry where
  type : String
  symbol : String
  /-- The rules in the order of their declaration; the rule for the class stands among them. -/
  rules : List Rule
  deriving DecidableEq

/-- What a subtemplate is repeated for. -/
structure Iteration where
  /-- The column whose elements are gone through. -/
  source : String
  /-- The column that holds the element inside the subtemplate. -/
  variableName : String
  deriving DecidableEq

/-- The classes whose entities are looked up where none are named. -/
def defaultLookupClasses : List String := ["AddressLocation"]

structure Options where
  /-- Whether identifiers are digests of the position instead of random ones. -/
  hashedIds : Bool := false
  /-- Whether addresses are looked up. -/
  lookup : Bool := false
  lookupClasses : List String := defaultLookupClasses
  deriving DecidableEq

def Options.looksUp (options : Options) (type : String) : Bool :=
  options.lookup && options.lookupClasses.contains type

structure Template where
  entries : List Entry
  subtemplates : List (String × Iteration × Template)
  bindings : List NamedBinding
  options : Options

namespace Entry

/-- The rules that take values from columns, with the names of these. -/
def columnRules (entry : Entry) : List (String × Rule) :=
  entry.rules.filterMap fun rule =>
    match rule.target with
    | .column name => some (name, rule)
    | _ => none

end Entry

/-- The symbols that entries declare, each where it is first declared. -/
def declaredSymbols (entries : List Entry) : List String :=
  entries.foldl (fun seen entry =>
    if seen.contains entry.symbol then seen else seen ++ [entry.symbol]) []

namespace Template

def symbols (template : Template) : List String :=
  declaredSymbols template.entries

end Template

end RowTriples
