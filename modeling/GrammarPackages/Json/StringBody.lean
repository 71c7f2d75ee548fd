import GrammarPackages.Json.Fault

namespace GrammarPackages.Json

/-- What the characters of a string read last ask for. -/
inductive Escape
  | none
  /-- A backslash. -/
  | letter
  /-- `\u` and some of its four digits; `due` are to come. -/
  | digits (lead : Option Nat) (due value : Nat)
  /-- A leading surrogate, which an escaped trailing one must follow. -/
  | trail (lead : Nat)
  | trailLetter (lead : Nat)

/-- The characters read so far, the last one first. -/
structure StringBody where
  read : List Char
  escape : Escape

namespace StringBody

def empty : StringBody := ⟨[], .none⟩

def text (b : StringBody) : String := .ofList b.read.reverse

def push (b : StringBody) (c : Char) : StringBody := ⟨c :: b.read, .none⟩

def hexDigit? (c : Char) : Option Nat :=
  if '0' ≤ c ∧ c ≤ '9' then some (c.toNat - '0'.toNat)
  else if 'a' ≤ c ∧ c ≤ 'f' then some (c.toNat - 'a'.toNat + 10)
  else if 'A' ≤ c ∧ c ≤ 'F' then some (c.toNat - 'A'.toNat + 10)
  else none

def letter? : Char → Option Char
  | '"' => some '"'
  | '\\' => some '\\'
  | '/' => some '/'
  | 'b' => some '\x08'
  | 'f' => some '\x0c'
  | 'n' => some '\n'
  | 'r' => some '\r'
  | 't' => some '\t'
  | _ => none

abbrev IsLead (n : Nat) : Prop := 0xd800 ≤ n ∧ n < 0xdc00

abbrev IsTrail (n : Nat) : Prop := 0xdc00 ≤ n ∧ n < 0xe000

/-- The character that two surrogates stand for. -/
def paired (lead trail : Nat) : Char :=
  .ofNat (0x10000 + (lead - 0xd800) * 0x400 + (trail - 0xdc00))

/-- The end of a four-digit escape. -/
def unit (b : StringBody) (lead : Option Nat) (n : Nat) : Except Reason StringBody :=
  match lead with
  | none =>
    if IsTrail n then .error .surrogateAlone
    else if IsLead n then .ok {b with escape := .trail n}
    else .ok (b.push (.ofNat n))
  | some l => if IsTrail n then .ok (b.push (paired l n)) else .error .surrogateAlone

/-- A further character of the string, its closing quote apart. A fault lies so many bytes
after the start of this character. -/
def step (b : StringBody) (c : Char) : Except (Reason × Nat) StringBody :=
  match b.escape with
  | .none =>
    if c = '\\' then .ok {b with escape := .letter}
    else if c < ' ' then .error (.controlCharacter, 1)
    else .ok (b.push c)
  | .letter =>
    if c = 'u' then .ok {b with escape := .digits none 4 0}
    else match letter? c with
      | some d => .ok (b.push d)
      | none => .error (.escapeMalformed, 1)
  | .digits lead due value =>
    match hexDigit? c with
    | none => .error (.escapeMalformed, due)
    | some d =>
      if due ≤ 1 then (b.unit lead (value * 16 + d)).mapError (·, 1)
      else .ok {b with escape := .digits lead (due - 1) (value * 16 + d)}
  | .trail lead =>
    if c = '\\' then .ok {b with escape := .trailLetter lead} else .error (.surrogateCut, 1)
  | .trailLetter lead =>
    if c = 'u' then .ok {b with escape := .digits (some lead) 4 0}
    else .error (.surrogateCut, 1)

/-- A quote closes the string here. -/
def Closable (b : StringBody) : Prop :=
  match b.escape with
  | .none => True
  | _ => False

instance (b : StringBody) : Decidable b.Closable := by
  unfold Closable; split <;> infer_instance

end StringBody

end GrammarPackages.Json
