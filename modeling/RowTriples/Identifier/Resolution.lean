import RowTriples.Digest.Content
import RowTriples.Identifier.Mode
import RowTriples.Json.Canonical
import RowTriples.Row
import RowTriples.Template.Basic
/-!
# Identifiers from content

Every symbol of a scope stands for an identifier. A column that a binding derives under the name of
a symbol supplies the identifier itself. Otherwise an identifier by content is the digest of the
symbol, the values of the entity's columns, and the identifiers of the entities that it links to, in
the order of the rules. So the linked entities are identified first, whatever the order of the
entries: an agenda counts for every entry how many of its links wait, and has a queue of the entries
that are ready. Entities that link in a circle cannot be identified at all.
-/

namespace RowTriples

/-- The identifiers of the symbols of a scope and of the scopes around it. -/
abbrev Identifiers := Entries String

/-- Where a row stands: the name of the output unit, the number of the row, and inside a
subtemplate the number of the element. -/
structure Position where
  file : String
  row : Nat
  element : Option Nat := none
  deriving DecidableEq

inductive ExpansionError where
  | unknownSymbol (symbol referencedBy : String)
  | cycle (members : List String)
  | unknownSubtemplate (subtemplate : String)
  | unresolvedLink (subtemplate symbol : String)
  deriving DecidableEq

def ExpansionError.message : ExpansionError → String
  | .unknownSymbol symbol referencedBy =>
    "Gensym \x60" ++ symbol ++ "\x60 referenced by \x60" ++ referencedBy ++
      "\x60 is not declared in this scope or any parent scope"
  | .cycle members => "Circular gensym dependency between: " ++ ", ".intercalate members
  | .unknownSubtemplate subtemplate => "No subtemplate named \x60" ++ subtemplate ++ "\x60"
  | .unresolvedLink subtemplate symbol =>
    "Subtemplate \x60" ++ subtemplate ++ "\x60 does not resolve the linked gensym \x60" ++ symbol ++
      "\x60"

/-- The identifier that a derived column supplies for a symbol. Columns of the record and variables
of iterations supply none, and neither do empty values. -/
def Row.boundId? (row : Row) (symbol : String) : Option String :=
  if row.origin? symbol = some .binding then
    ((row.get? symbol).filter fun value => !value.isEmpty).map Datum.plainText
  else none

inductive ContentPart where
  | value (value : Json)
  | link (symbol : String)

namespace Entry

/-- What identifies an entity by content: its symbol, then the value of every column and every link.
A missing value counts as empty text. The class and repeated subtemplates do not contribute. -/
def contentParts (entry : Entry) (row : Row) : List ContentPart :=
  .value (.string entry.symbol) :: entry.rules.filterMap fun rule =>
    match rule.target with
    | .column name =>
      match row.get? name with
      | none | some .null => some (.value (.string ""))
      | some value => some (.value value.toJson)
    | .symbol name => some (.link name)
    | .type | .repeated _ _ => none

def links (entry : Entry) : List String :=
  entry.rules.filterMap fun rule =>
    match rule.target with
    | .symbol name => some name
    | _ => none

end Entry

namespace Identifiers

/-- The JSON form of what identifies an entity, with the identifiers of its links. -/
def contentJson (ids : Identifiers) (parts : List ContentPart) : Json :=
  .array (parts.map fun part =>
    match part with
    | .value value => value
    | .link symbol =>
      match Entries.get? symbol ids with
      | some id => .string id
      | none => .null)

/-- The text whose digest identifies an entity by content. Within one file its name is a part of
it. -/
def contentText (ids : Identifiers) (mode : Mode) (file : String) (parts : List ContentPart) :
    String :=
  let text := (contentJson ids parts).canonicalText
  if mode = .file then text ++ file else text

/-- Takes over the identifiers that columns supply. What is left are the entries whose symbol has no
identifier yet, the first entry for every symbol. -/
def takeBound (row : Row) : List Entry → Identifiers → List Entry → Identifiers × List Entry
  | [], ids, pending => (ids, pending)
  | entry :: entries, ids, pending =>
    if Entries.has entry.symbol ids || pending.any (·.symbol = entry.symbol) then
      takeBound row entries ids pending
    else
      match row.boundId? entry.symbol with
      | some id => takeBound row entries (Entries.put entry.symbol id ids) pending
      | none => takeBound row entries ids (pending ++ [entry])

/-- The first link of an entry that leads nowhere, with the entry's symbol. -/
def danglingLink? (ids : Identifiers) (pending : List Entry) : Option (String × String) :=
  pending.findSome? fun entry =>
    (entry.links.find? fun target =>
      !pending.any (·.symbol = target) && !Entries.has target ids).map (·, entry.symbol)

/-- The number of an entry's links that lead to pending entries. -/
def openLinks (pending : List Entry) (entry : Entry) : Nat :=
  entry.links.countP fun target => pending.any (·.symbol = target)

/-- The pending entries that link to a symbol, each of them once for every such link. -/
def dependents (pending : List Entry) (symbol : String) : List Entry :=
  pending.flatMap fun entry => List.replicate (entry.links.count symbol) entry

end Identifiers

/-- The identifier of an entry by content, with the given identifiers for its links. -/
def Entry.contentId (mode : Mode) (file : String) (row : Row) (ids : Identifiers)
    (entry : Entry) : String :=
  Digest.contentId (Identifiers.contentText ids mode file (entry.contentParts row))

/-- The identification of pending entries on its way. -/
structure Agenda where
  /-- The identifiers that have been found. -/
  ids : Identifiers
  /-- For every pending symbol, how many links of its entry wait for an identifier. -/
  missing : Entries Nat
  /-- The entries none of whose links waits any longer, in the order of their turns. -/
  ready : List Entry
  /-- The number of entries that have had their turn. -/
  done : Nat := 0

namespace Agenda

open Identifiers (openLinks dependents)

/-- Before the first turn the entries are ready that have no links to pending ones. -/
def start (pending : List Entry) (ids : Identifiers) : Agenda where
  ids
  missing := pending.map fun entry => (entry.symbol, openLinks pending entry)
  ready := pending.filter fun entry => openLinks pending entry = 0

def missingOf (agenda : Agenda) (entry : Entry) : Nat :=
  (Entries.get? entry.symbol agenda.missing).getD 0

/-- One link of an entry waits no longer. When it was the last one, the entry is ready. -/
def release (agenda : Agenda) (entry : Entry) : Agenda :=
  let left := agenda.missingOf entry - 1
  { agenda with
    missing := Entries.put entry.symbol left agenda.missing
    ready := if left = 0 then agenda.ready ++ [entry] else agenda.ready }

variable (identify : Identifiers → Entry → String) (pending : List Entry)

/-- The turn of an entry: it gets its identifier, and the links that lead to it are released. -/
def turn (agenda : Agenda) (entry : Entry) (ready : List Entry) : Agenda :=
  (dependents pending entry.symbol).foldl release
    { agenda with
      ids := Entries.put entry.symbol (identify agenda.ids entry) agenda.ids
      ready
      done := agenda.done + 1 }

/-- Takes turns until no entry is ready. No entry has two turns, so as many as there are pending
entries suffice. -/
def run : (turns : Nat) → Agenda → Agenda
  | 0, agenda => agenda
  | turns + 1, agenda =>
    match agenda.ready with
    | [] => agenda
    | entry :: ready => run turns (agenda.turn identify pending entry ready)

/-- The entries that still have links without an identifier. -/
def waiting (agenda : Agenda) : List Entry :=
  pending.filter fun entry => 0 < agenda.missingOf entry

end Agenda

namespace Identifiers

/-- The agenda of pending entries after all turns. -/
def identifyPending (mode : Mode) (file : String) (row : Row) (pending : List Entry)
    (ids : Identifiers) : Agenda :=
  Agenda.run (Entry.contentId mode file row) pending pending.length (.start pending ids)

/-- The identifiers by content of the symbols that entries declare, together with those inherited
from the scopes around them. -/
def byContent (mode : Mode) (file : String) (row : Row) (entries : List Entry)
    (inherited : Identifiers) : Except ExpansionError Identifiers :=
  let (ids, pending) := takeBound row entries inherited []
  match danglingLink? ids pending with
  | some (target, symbol) => .error (.unknownSymbol target symbol)
  | none =>
    let agenda := identifyPending mode file row pending ids
    if agenda.done < pending.length then
      .error (.cycle ((agenda.waiting pending).map (·.symbol)))
    else .ok agenda.ids

end Identifiers

/-! ### Identifiers by position -/

/-- Where an identifier that does not depend on content comes from. -/
inductive IdSource where
  | bound (id : String)
  /-- The digest of a text. -/
  | digest (content : String)
  /-- A random identifier. -/
  | random
  deriving DecidableEq

namespace Position

/-- The text whose digest identifies a symbol by its position. -/
def content (position : Position) (symbol : String) : String :=
  (position.element.map toString).getD "" ++ symbol ++ position.file ++ toString position.row

end Position

def IdSource.of (options : Options) (row : Row) (position : Position) (symbol : String) :
    IdSource :=
  match row.boundId? symbol with
  | some id => .bound id
  | none => if options.hashedIds then .digest (position.content symbol) else .random

end RowTriples
