import GrammarPackages.Text.Unprintable
import GrammarPackages.Text.Combining

namespace GrammarPackages.Text

def inRanges (ranges : List (Nat × Nat)) (c : Char) : Bool :=
  ranges.any (fun r ↦ r.1 ≤ c.toNat && c.toNat ≤ r.2)

/-- A character that stands for itself between quotes. -/
def isPlain (c : Char) : Bool :=
  if c.toNat < 0x7f then ' ' ≤ c
  else !inRanges unprintable c && !inRanges combining c

/-- The code point in hexadecimal, without leading zeros. -/
def codePoint (c : Char) : List Char := "\\u\x7b".toList ++ Nat.toDigits 16 c.toNat ++ ['\x7d']

/-- A quote, a backslash and the usual controls have short escapes; what is invisible by
itself is written by its code point. -/
def quoteChar (c : Char) : List Char :=
  match c with
  | '"' => ['\\', '"']
  | '\\' => ['\\', '\\']
  | '\x00' => ['\\', '0']
  | '\t' => ['\\', 't']
  | '\n' => ['\\', 'n']
  | '\r' => ['\\', 'r']
  | c => if isPlain c then [c] else codePoint c

def quoted (s : String) : String := .ofList ('"' :: s.toList.flatMap quoteChar ++ ['"'])

end GrammarPackages.Text
