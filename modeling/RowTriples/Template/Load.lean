import RowTriples.Binding.Catalog
import RowTriples.Json.Parser
import RowTriples.Template.Basic
import RowTriples.Template.Outline
import RowTriples.Yaml.Node
/-!
# Templates from documents

The meaning of a template document is settled when it is loaded. In every scope the options come
first, then the bindings, the subtemplates, and the entries; at last the subtemplates that the
entries name have to be there. The first error in this order counts.
-/

namespace RowTriples

inductive TemplateError where
  | missingSymbol (entity : String)
  | invalidSymbol (entity : String)
  | invalidPredicates (entity key : String)
  | invalidKey (entity key : String)
  | missingIteration (subtemplate : String)
  | unknownSubtemplate (entity subtemplate : String)
  | binding (cause : BindingError)
  /-- A part of the document has another type than expected. -/
  | shape (cause : DecodeError)
  /-- A declaration of a binding has another type than expected. -/
  | declaration (binding : String) (cause : DecodeError)
  /-- The text is no document. -/
  | malformed
  /-- The text cannot be read from its file. -/
  | unreadable (path : String)

def TemplateError.message : TemplateError → String
  | .missingSymbol entity => "Template entry \x60" ++ entity ++ "\x60 has no GENSYM declaration"
  | .invalidSymbol entity => "Template entry \x60" ++ entity ++ "\x60: GENSYM must be a string"
  | .invalidPredicates entity key =>
    "Template entry \x60" ++ entity ++ "\x60: property \x60" ++ key ++
      "\x60 must map to a predicate or list of predicates"
  | .invalidKey entity key =>
    "Template entry \x60" ++ entity ++ "\x60: malformed property key \x60" ++ key ++ "\x60"
  | .missingIteration subtemplate =>
    "Subtemplate \x60" ++ subtemplate ++ "\x60 has no ITERABLE descriptor"
  | .unknownSubtemplate entity subtemplate =>
    "Template entry \x60" ++ entity ++ "\x60 references unknown subtemplate \x60" ++ subtemplate ++
      "\x60"
  | .binding cause => cause.message
  | .shape cause => "Failed to parse template: " ++ cause.message
  | .declaration name cause =>
    "Failed to parse template: binding \x60" ++ name ++ "\x60: " ++ cause.message
  | .malformed => "Failed to parse template"
  | .unreadable path => "Failed to read template file: " ++ path

namespace Options

/-- The options of a scope: those that are written, with their own defaults, or else those of the
scope around it. -/
def ofOutline (parent : Options) : Option OptionsOutline → Options
  | some o => ⟨o.hashedIds, o.lookup, o.lookupClasses.getD defaultLookupClasses⟩
  | none => parent

end Options

namespace Target

/-- The target that a property key denotes. A key for a subtemplate is cut at its first point. -/
def ofKey? (key : String) : Option Target :=
  match Text.dropStart? "SUBTEMPLATE_" key with
  | some rest =>
    match Text.cut? ['.'] rest.toList with
    | some (name, part) =>
      match Text.after? "GENSYM_".toList part with
      | some linked =>
        if name.isEmpty || linked.isEmpty then none
        else some (.repeated (String.ofList name) (String.ofList linked))
      | none => none
    | none => none
  | none =>
    match Text.dropStart? "GENSYM_" key with
    | some linked => if linked.isEmpty then none else some (.symbol linked)
    | none => some (.column key)

end Target

/-- A predicate, or a list of them. -/
def predicates? : Json → Option (List String)
  | .string predicate => some [predicate]
  | .array items => items.mapM Json.string?
  | _ => none

namespace Entry

/-- The key under which an entry declares its symbol. -/
def symbolKey : String := "GENSYM"

/-- The symbol and the rule that a property of an entry declares. -/
def property (type key : String) (value : Json) : Except TemplateError (Option String × Rule) :=
  if key = symbolKey then
    match value with
    | .string symbol => .ok (some symbol, ⟨.type, []⟩)
    | _ => .error (.invalidSymbol type)
  else
    match Target.ofKey? key, predicates? value with
    | none, _ => .error (.invalidKey type key)
    | some _, none => .error (.invalidPredicates type key)
    | some target, some predicates => .ok (none, ⟨target, predicates⟩)

def ofProperties (type : String) (properties : Entries Json) : Except TemplateError Entry := do
  let declared ← properties.mapM fun (key, value) => property type key value
  match declared.findSome? Prod.fst with
  | some symbol => return ⟨type, symbol, declared.map Prod.snd⟩
  | none => throw (.missingSymbol type)

/-- Refuses an entry that repeats a subtemplate which is not among the given names. -/
def checkSubtemplates (names : List String) (entry : Entry) : Except TemplateError Unit :=
  entry.rules.forM fun rule =>
    match rule.target with
    | .repeated subtemplate _ =>
      if names.contains subtemplate then .ok ()
      else .error (.unknownSubtemplate entry.type subtemplate)
    | _ => .ok ()

end Entry

namespace NamedBinding

def shape : RecordShape :=
  ⟨"RawBinding", [{ name := "FUNCTION" }, { name := "DATA", optional := true }]⟩

def ofDeclaration (name : String) (declaration : Json) : Except TemplateError NamedBinding := do
  let step := fun i (d : Document) (p : String × Json) => do
    if i = 0 then return (← d.asText, p.2) else return (p.1, ← d.asJson)
  match (Document.ofJson declaration).asRecord true shape step ("", .null) with
  | .error cause => throw (.declaration name cause)
  | .ok (function, data) =>
    match Binding.ofDeclaration name function data with
    | .error cause => throw (.binding cause)
    | .ok binding => return ⟨name, binding⟩

end NamedBinding

namespace Template

mutual

/-- The template of an outline in a scope whose surroundings have the given options. -/
def ofOutlineIn (parent : Options) : Outline → Except TemplateError Template
  | ⟨entries, subtemplates, bindings, options, _⟩ => do
    let options := Options.ofOutline parent options
    let bindings ← bindings.mapM fun (name, declaration) =>
      NamedBinding.ofDeclaration name declaration
    let subtemplates ← subtemplatesOf options subtemplates
    let entries ← entries.mapM fun (type, properties) => Entry.ofProperties type properties
    entries.forM (Entry.checkSubtemplates (subtemplates.map Prod.fst))
    return ⟨entries, subtemplates, bindings, options⟩

/-- The subtemplates of outlines. Each has to say what it is repeated for; the first pair counts. -/
def subtemplatesOf (options : Options) :
    List (String × Outline) → Except TemplateError (List (String × Iteration × Template))
  | [] => .ok []
  | (name, outline) :: outlines =>
    match outline.iterations with
    | [] => .error (.missingIteration name)
    | (source, variableName) :: _ => do
      let template ← ofOutlineIn options outline
      let others ← subtemplatesOf options outlines
      return (name, ⟨source, variableName⟩, template) :: others

end

def ofOutline (outline : Outline) : Except TemplateError Template :=
  ofOutlineIn {} outline

def ofDocument (positional : Bool) (document : Document) : Except TemplateError Template :=
  match Outline.ofDocument positional document with
  | .ok outline => ofOutline outline
  | .error cause => .error (.shape cause)

def ofJson (value : Json) : Except TemplateError Template :=
  ofDocument true (.ofJson value)

def ofJsonText (text : String) : Except TemplateError Template :=
  match Json.Text.document? text with
  | some document => ofDocument true document
  | none => .error .malformed

/-- The template of a YAML text, in which records are written as maps only. -/
def ofYamlText (text : String) : Except TemplateError Template :=
  match Document.ofYaml? text with
  | some document => ofDocument false document
  | none => .error .malformed

end Template

end RowTriples
