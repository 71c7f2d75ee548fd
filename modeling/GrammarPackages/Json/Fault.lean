namespace GrammarPackages.Json

inductive Reason
  | valueCut
  | arrayCut
  | objectCut
  | stringCut
  | valueExpected
  | wordExpected
  | tooDeep
  | commaOrBracketExpected
  | commaOrBraceExpected
  | colonExpected
  | keyNotString
  | trailingComma
  | trailingCharacters
  | numberMalformed
  | numberTooLarge
  | controlCharacter
  | escapeMalformed
  | surrogateAlone
  | surrogateCut
deriving DecidableEq

def Reason.message : Reason → String
  | valueCut => "EOF while parsing a value"
  | arrayCut => "EOF while parsing a list"
  | objectCut => "EOF while parsing an object"
  | stringCut => "EOF while parsing a string"
  | valueExpected => "expected value"
  | wordExpected => "expected ident"
  | tooDeep => "recursion limit exceeded"
  | commaOrBracketExpected => "expected `,` or `]`"
  | commaOrBraceExpected => "expected `,` or `\x7d`"
  | colonExpected => "expected `:`"
  | keyNotString => "key must be a string"
  | trailingComma => "trailing comma"
  | trailingCharacters => "trailing characters"
  | numberMalformed => "invalid number"
  | numberTooLarge => "number out of range"
  | controlCharacter => "control character (\\u0000-\\u001F) found while parsing a string"
  | escapeMalformed => "invalid escape"
  | surrogateAlone => "lone leading surrogate in hex escape"
  | surrogateCut => "unexpected end of hex escape"

/-- A line, counted from 1, and the number of bytes before the place on that line. -/
structure Place where
  line : Nat
  column : Nat
deriving DecidableEq

/-- Where one stands after so many further bytes of the text. -/
def Place.advance (p : Place) : Nat → List Char → Place
  | 0, _ => p
  | _, [] => p
  | n + 1, c :: rest =>
    if c = '\n' then advance ⟨p.line + 1, 0⟩ n rest
    else advance ⟨p.line, p.column + min (n + 1) c.utf8Size⟩ (n + 1 - c.utf8Size) rest

structure Fault where
  reason : Reason
  place : Place
deriving DecidableEq

def Fault.message (f : Fault) : String :=
  f.reason.message ++ " at line " ++ toString f.place.line ++ " column " ++ toString f.place.column

end GrammarPackages.Json
