import GrammarPackages.Files.View
import GrammarPackages.Json.Reader
import GrammarPackages.Text.Quoted
import GrammarPackages.Decimal.Shortest

namespace GrammarPackages.Manifest

open Json (Value)

/-- One grammar of a package, with the file types it is for. -/
structure Declaration where
  scope : String
  fileTypes : List String
  /-- Where the grammar is, below a search root unless absolute. -/
  path : String
  highlights : List String
  locals : List String
  injections : String
  injectionRegex : Option String
  contentRegex : Option String
deriving DecidableEq

inductive Expectation
  | declaration
  | string
  | sequence

/-- What a value of the grammar list has in place of the right shape. -/
inductive ShapeFault
  | wrongType (found : Value) (expected : Expectation)
  | neitherOneNorMany
  | missing (field : String)
  /-- A list of fields ends before this one. -/
  | tooShort (length : Nat)
  | tooLong (length : Nat)

/-- Positional up to sixteen whole digits and down to a hundred-thousandth. -/
def doubleLayout : Decimal.Layout := ⟨-5, 15, true⟩

/-- A value as messages name it. -/
def describe : Value → String
  | .null => "null"
  | .bool b => "boolean `" ++ (if b then "true" else "false") ++ "`"
  | .integer i => "integer `" ++ toString i ++ "`"
  | .float x => "floating point `" ++ .ofList (doubleLayout.text x) ++ "`"
  | .string s => "string " ++ Text.quoted s
  | .array _ => "sequence"
  | .object _ => "map"

def Expectation.text : Expectation → String
  | declaration => "struct GrammarSpec"
  | string => "a string"
  | sequence => "a sequence"

def ShapeFault.message : ShapeFault → String
  | wrongType found expected => "invalid type: " ++ describe found ++ ", expected " ++ expected.text
  | neitherOneNorMany => "data did not match any variant of untagged enum OneOrMany"
  | missing field => "missing field `" ++ field ++ "`"
  | tooShort n =>
    "invalid length " ++ toString n ++ ", expected struct GrammarSpec with 8 elements"
  | tooLong n => "invalid length " ++ toString n ++ ", expected fewer elements in array"

/-- Why a package has no usable manifest. -/
inductive Defect
  | unreadable (fault : FileFault)
  | malformed (fault : Json.Fault)
  | misshapen (fault : ShapeFault)
  | noGrammars

namespace Defect

def message : Defect → String
  | unreadable f => "manifest unreadable: " ++ f.message
  | malformed f => "manifest unparsable: " ++ f.message
  | misshapen f => "manifest unparsable: " ++ f.message
  | noGrammars => "manifest has no `tree-sitter` grammar list"

/-- The message, then that of what lies behind it. -/
def messages (d : Defect) : List String :=
  d.message :: match d with
    | unreadable f => [f.message]
    | malformed f => [f.message]
    | misshapen f => [f.message]
    | noGrammars => []

end Defect

end GrammarPackages.Manifest
