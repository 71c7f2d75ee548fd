import GrammarPackages.Manifest.Basic

namespace GrammarPackages.Manifest

open Json (Value)

def string : Value → Except ShapeFault String
  | .string s => .ok s
  | v => .error (.wrongType v .string)

def optionalString : Value → Except ShapeFault (Option String)
  | .null => .ok none
  | v => (string v).map some

def strings : Value → Except ShapeFault (List String)
  | .array items => items.mapM string
  | v => .error (.wrongType v .sequence)

/-- A lone string stands for a list of one. -/
def oneOrMany : Value → Except ShapeFault (List String)
  | .string s => .ok [s]
  | v => (strings v).mapError (fun _ ↦ .neitherOneNorMany)

section Members

variable (members : List (String × Value))

/-- The member's value decoded, if there is such a member. -/
def field? {α : Type} (key : String) (decode : Value → Except ShapeFault α) :
    Except ShapeFault (Option α) :=
  match Json.member? members key with
  | none => .ok none
  | some v => (decode v).map some

def require {α : Type} (key : String) : Option α → Except ShapeFault α
  | some a => .ok a
  | none => .error (.missing key)

/-- Members of the wrong type are reported before missing ones, in the order of their
keys; other members do not count. -/
def Declaration.ofMembers : Except ShapeFault Declaration := do
  let contentRegex ← field? members "content-regex" optionalString
  let fileTypes ← field? members "file-types" strings
  let highlights ← field? members "highlights" oneOrMany
  let injectionRegex ← field? members "injection-regex" optionalString
  let injections ← field? members "injections" string
  let locals ← field? members "locals" oneOrMany
  let path ← field? members "path" string
  let scope ← field? members "scope" string
  let scope ← require "scope" scope
  let fileTypes ← require "file-types" fileTypes
  let path ← require "path" path
  return {
    scope, fileTypes, path
    highlights := highlights.getD []
    locals := locals.getD []
    injections := injections.getD ""
    injectionRegex := injectionRegex.join
    contentRegex := contentRegex.join }

end Members

section Items

variable (items : List Value)

def item {α : Type} (i : Nat) (decode : Value → Except ShapeFault α) : Except ShapeFault α :=
  match items[i]? with
  | some v => decode v
  | none => .error (.tooShort i)

def itemD {α : Type} (i : Nat) (decode : Value → Except ShapeFault α) (default : α) :
    Except ShapeFault α :=
  match items[i]? with
  | some v => decode v
  | none => .ok default

/-- The eight fields by position. -/
def Declaration.ofItems : Except ShapeFault Declaration := do
  let scope ← item items 0 string
  let fileTypes ← item items 1 strings
  let path ← item items 2 string
  let highlights ← itemD items 3 oneOrMany []
  let locals ← itemD items 4 oneOrMany []
  let injections ← itemD items 5 string ""
  let injectionRegex ← item items 6 optionalString
  let contentRegex ← item items 7 optionalString
  if 8 < items.length then throw (.tooLong items.length)
  return {scope, fileTypes, path, highlights, locals, injections, injectionRegex, contentRegex}

end Items

def Declaration.ofValue : Value → Except ShapeFault Declaration
  | .object members => ofMembers members
  | .array items => ofItems items
  | v => .error (.wrongType v .declaration)

def grammarsKey : String := "tree-sitter"

/-- The grammars that a document lists. -/
def ofValue (document : Value) : Except Defect (List Declaration) :=
  match document with
  | .object members =>
    match Json.member? members grammarsKey with
    | some (.array items) => (items.mapM Declaration.ofValue).mapError .misshapen
    | _ => .error .noGrammars
  | _ => .error .noGrammars

def parse (text : String) : Except Defect (List Declaration) := do
  ofValue (← (Json.read text).mapError .malformed)

def fileName : String := "package.json"

/-- The grammars of the package in this directory. -/
def read (files : FileView) (directory : Path) : Except Defect (List Declaration) := do
  parse (← (files.text (directory / .ofString fileName)).mapError .unreadable)

end GrammarPackages.Manifest
