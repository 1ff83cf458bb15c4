import RowTriples.Binding.Evaluate
import RowTriples.Entity.Statements
/-!
# Expanding rows

A scope is expanded in four steps: the bindings derive their columns, each one visible to those
after it; the symbols get their identifiers; the addresses of the classes that are looked up are
sent to the geocoder; and the rules of every entry are turned into facts. A subtemplate is expanded
with the row of the scope around it and the element as one more column.

The meaning of a template is a function of the row and the identifiers around it, composed of the
meanings of its subtemplates. What it takes from outside, random identifiers and the answers of the
geocoder, is counted in a `Progress` that is handed on from step to step and from row to row.
-/

namespace RowTriples

/-- A geocoder. Its answer may depend on the queries that it was sent before. -/
abbrev Geocoder := List AddressQuery → AddressQuery → Except GeocodeError GeocodeResponse

/-- What has been taken from outside. -/
structure Progress where
  /-- The number of random identifiers. -/
  minted : Nat := 0
  /-- The queries sent to the geocoder, in order. -/
  asked : List AddressQuery := []

/-- A step of the expansion of a row. An error ends the row and keeps what was taken until then. -/
abbrev Expanding := ExceptT ExpansionError (StateM Progress)

/-- What the rows of an output unit have in common. -/
structure Setting where
  language : Language
  mode : Mode
  /-- The supply of random identifiers. -/
  fresh : Nat → String
  geocoder : Option Geocoder := none
  /-- The name of the output unit. -/
  file : String
  /-- The number of the row. -/
  row : Nat

/-- The values of a column that are not empty: the items of a list, or the value itself. -/
def Row.values (row : Row) (name : String) : List Datum :=
  (((row.get? name).map Datum.items).getD []).filter fun value => !value.isEmpty

/-- The row with the columns that bindings derive, each one from the columns before it. -/
def Row.derive (row : Row) : List NamedBinding → Row
  | [] => row
  | named :: bindings =>
    (row.bind named.name (named.binding.evaluate row) .binding).derive bindings

namespace Expanding

def mint (setting : Setting) : Expanding String := do
  let progress ← get
  set { progress with minted := progress.minted + 1 }
  return setting.fresh progress.minted

def ask (geocoder : Geocoder) (query : AddressQuery) :
    Expanding (Except GeocodeError GeocodeResponse) := do
  let progress ← get
  set { progress with asked := progress.asked ++ [query] }
  return geocoder progress.asked query

def positionalId (setting : Setting) (options : Options) (row : Row) (element : Option Nat)
    (symbol : String) : Expanding String :=
  match IdSource.of options row ⟨setting.file, setting.row, element⟩ symbol with
  | .bound id => return id
  | .digest content => return Digest.contentId content
  | .random => mint setting

/-- The identifiers by position of symbols that have none yet. -/
def positionalIds (setting : Setting) (options : Options) (row : Row) (element : Option Nat) :
    List String → Identifiers → Expanding Identifiers
  | [], ids => return ids
  | symbol :: symbols, ids =>
    if Entries.has symbol ids then positionalIds setting options row element symbols ids
    else do
      let id ← positionalId setting options row element symbol
      positionalIds setting options row element symbols (Entries.put symbol id ids)

def identify (setting : Setting) (entries : List Entry) (options : Options) (row : Row)
    (element : Option Nat) (inherited : Identifiers) : Expanding Identifiers :=
  if setting.mode.isDeterministic then
    ExceptT.mk (pure (Identifiers.byContent setting.mode setting.file row entries inherited))
  else positionalIds setting options row element (declaredSymbols entries) inherited

/-- The fields of an entry from which its address is gathered: the first predicate of every column
rule, by its local name, with the column's text. -/
def addressFields (vocabulary : Vocabulary) (row : Row) (entry : Entry) : List (String × String) :=
  entry.columnRules.filterMap fun (name, rule) => do
    let predicate ← rule.predicates.head?
    let value ← (row.get? name).filter fun value => !value.isEmpty
    return (vocabulary.localName predicate, value.plainText)

def addressQuery? (vocabulary : Vocabulary) (options : Options) (row : Row) (entry : Entry) :
    Option AddressQuery :=
  if options.looksUp entry.type then AddressQuery.ofFields? (addressFields vocabulary row entry)
  else none

def lookUp (setting : Setting) (query : AddressQuery) : Expanding LookupOutcome :=
  match setting.geocoder with
  | none => return .unavailable
  | some geocoder => do
    match ← ask geocoder query with
    | .error error => return .failed error
    | .ok response =>
      match response.match? with
      | some feature => return .matched feature
      | none => return .noMatch

def lookUpAll (setting : Setting) (options : Options) (row : Row) (ids : Identifiers) :
    List Entry → Expanding (List Lookup)
  | [] => return []
  | entry :: entries =>
    match Entries.get? entry.symbol ids,
        addressQuery? setting.language.vocabulary options row entry with
    | some id, some query => do
      let outcome ← lookUp setting query
      return ⟨id, query, outcome⟩ :: (← lookUpAll setting options row ids entries)
    | _, _ => lookUpAll setting options row ids entries

/-- The identifier of a symbol, which has to be there. -/
def require (ids : Identifiers) (symbol referencedBy : String) : Expanding String :=
  match Entries.get? symbol ids with
  | some id => return id
  | none => throw (.unknownSymbol symbol referencedBy)

/-- The meaning of a template: what it becomes for a row, the identifiers around it and the number
of the element that it is repeated for. -/
abbrev Meaning := Row → Identifiers → Option Nat → Expanding Scope

/-- A subtemplate by its name, what it is repeated for, and its meaning. -/
abbrev Parts := List (String × Iteration × Meaning)

/-- The repetitions of a subtemplate for elements, which are numbered from `i` on. Where identifiers
do not depend on content, the entity that is linked to gets its identifier before the scope of the
repetition is entered. -/
def repeatFor (setting : Setting) (options : Options) (row : Row) (ids : Identifiers)
    (subtemplate symbol variableName : String) (meaning : Meaning) (i : Nat) :
    List Datum → Expanding (List (String × Scope))
  | [] => return []
  | element :: elements => do
    let inner := row.bind variableName element .iteration
    let seed ←
      if setting.mode.isDeterministic then pure ids
      else do
        let id ← positionalId setting options inner (some i) symbol
        pure (Entries.put symbol id ids)
    let scope ← meaning inner seed (some i)
    match Entries.get? symbol scope.identifiers with
    | none => throw (.unresolvedLink subtemplate symbol)
    | some id =>
      let others ← repeatFor setting options row ids subtemplate symbol variableName meaning (i + 1)
        elements
      return (id, scope) :: others

def fact (setting : Setting) (options : Options) (row : Row) (ids : Identifiers) (parts : Parts)
    (entry : Entry) (rule : Rule) : Expanding Fact :=
  match rule.target with
  | .type => return .type
  | .symbol name => return .link rule.predicates (← require ids name entry.symbol)
  | .column name => return .values rule.predicates (row.values name)
  | .repeated name symbol =>
    match parts.lookup name with
    | none => throw (.unknownSubtemplate name)
    | some (iteration, meaning) => do
      let occurrences ← repeatFor setting options row ids name symbol iteration.variableName meaning
        0 (row.values iteration.source)
      return .repeated rule.predicates occurrences

def facts (setting : Setting) (options : Options) (row : Row) (ids : Identifiers) (parts : Parts)
    (entry : Entry) : List Rule → Expanding (List Fact)
  | [] => return []
  | rule :: rules => do
    let first ← fact setting options row ids parts entry rule
    return first :: (← facts setting options row ids parts entry rules)

def entities (setting : Setting) (options : Options) (row : Row) (ids : Identifiers)
    (parts : Parts) : List Entry → Expanding (List Entity)
  | [] => return []
  | entry :: entries => do
    let id ← require ids entry.symbol entry.type
    let known ← facts setting options row ids parts entry entry.rules
    return .mk id entry.type known :: (← entities setting options row ids parts entries)

/-- The meaning of a template whose subtemplates have the given meanings. -/
def scope (setting : Setting) (entries : List Entry) (bindings : List NamedBinding)
    (options : Options) (parts : Parts) : Meaning := fun row inherited element => do
  let row := row.derive bindings
  let ids ← identify setting entries options row element inherited
  let lookups ← lookUpAll setting options row ids entries
  return .mk ids lookups (← entities setting options row ids parts entries)

mutual

def template (setting : Setting) : Template → Meaning
  | ⟨entries, subtemplates, bindings, options⟩ =>
    scope setting entries bindings options (subtemplatesOf setting subtemplates)

def subtemplatesOf (setting : Setting) : List (String × Iteration × Template) → Parts
  | [] => []
  | (name, iteration, inner) :: others =>
    (name, iteration, template setting inner) :: subtemplatesOf setting others

end

def row (setting : Setting) (t : Template) (header : Header) (cells : List Datum) :
    Expanding Scope :=
  template setting t { header, cells } [] none

end Expanding

structure Expansion where
  statements : List Statement
  diagnostics : List Diagnostic

def Scope.expansion (language : Language) (scope : Scope) : Expansion :=
  ⟨scope.statements language, scope.diagnostics language⟩

def expandRow (setting : Setting) (t : Template) (header : Header) (cells : List Datum)
    (progress : Progress) : Except ExpansionError Expansion × Progress :=
  let (result, progress) := (Expanding.row setting t header cells).run progress
  (result.map (Scope.expansion setting.language), progress)

end RowTriples
