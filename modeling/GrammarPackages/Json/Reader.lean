import GrammarPackages.Json.Number
import GrammarPackages.Json.StringBody

namespace GrammarPackages.Json

/-- A container that waits for the value inside it; what it holds already stands last first. -/
inductive Frame
  | array (items : List Value)
  | member (members : List (String × Value)) (key : String)

/-- What is being read, or due next, inside the containers that wait. -/
inductive Phase
  | value
  | firstItem
  | nextItem (items : List Value)
  | itemEnd (items : List Value)
  | firstKey
  | nextKey (members : List (String × Value))
  | key (members : List (String × Value)) (body : StringBody)
  | colon (members : List (String × Value)) (key : String)
  | memberEnd (members : List (String × Value))
  | string (body : StringBody)
  | number (n : Numeral)
  | word (due : List Char) (v : Value)
  | done (v : Value)

structure Reader where
  frames : List Frame
  phase : Phase

namespace Reader

def start : Reader := ⟨[], .value⟩

/-- Containers nest less deep than this. -/
def depthLimit : Nat := 128

abbrev IsBlank (c : Char) : Prop := c = ' ' ∨ c = '\n' ∨ c = '\t' ∨ c = '\r'

/-- Hands a whole value to the container that waits for it. -/
def deliver (v : Value) : List Frame → Reader
  | [] => ⟨[], .done v⟩
  | .array items :: frames => ⟨frames, .itemEnd (v :: items)⟩
  | .member members key :: frames => ⟨frames, .memberEnd ((key, v) :: members)⟩

/-- The first character of a value. -/
def openValue (frames : List Frame) (c : Char) : Except Reason Reader :=
  let container (phase : Phase) : Except Reason Reader :=
    if frames.length + 1 < depthLimit then .ok ⟨frames, phase⟩ else .error .tooDeep
  match c with
  | '"' => .ok ⟨frames, .string .empty⟩
  | '[' => container .firstItem
  | '\x7b' => container .firstKey
  | 't' => .ok ⟨frames, .word ['r', 'u', 'e'] (.bool true)⟩
  | 'f' => .ok ⟨frames, .word ['a', 'l', 's', 'e'] (.bool false)⟩
  | 'n' => .ok ⟨frames, .word ['u', 'l', 'l'] .null⟩
  | '-' => .ok ⟨frames, .number ⟨true, 0, 0, .sign⟩⟩
  | c =>
    match Numeral.digit? c with
    | some 0 => .ok ⟨frames, .number ⟨false, 0, 0, .zero⟩⟩
    | some d => .ok ⟨frames, .number ⟨false, d, 0, .digits⟩⟩
    | none => .error .valueExpected

/-- A character between tokens. -/
def between (frames : List Frame) (phase : Phase) (c : Char) : Except Reason Reader :=
  if IsBlank c then .ok ⟨frames, phase⟩
  else match phase with
    | .value => openValue frames c
    | .firstItem =>
      if c = ']' then .ok (deliver (.array []) frames) else openValue (.array [] :: frames) c
    | .nextItem items =>
      if c = ']' then .error .trailingComma else openValue (.array items :: frames) c
    | .itemEnd items =>
      if c = ',' then .ok ⟨frames, .nextItem items⟩
      else if c = ']' then .ok (deliver (.array items.reverse) frames)
      else .error .commaOrBracketExpected
    | .firstKey =>
      if c = '"' then .ok ⟨frames, .key [] .empty⟩
      else if c = '\x7d' then .ok (deliver (.object []) frames)
      else .error .keyNotString
    | .nextKey members =>
      if c = '"' then .ok ⟨frames, .key members .empty⟩
      else if c = '\x7d' then .error .trailingComma
      else .error .keyNotString
    | .colon members key =>
      if c = ':' then .ok ⟨.member members key :: frames, .value⟩ else .error .colonExpected
    | .memberEnd members =>
      if c = ',' then .ok ⟨frames, .nextKey members⟩
      else if c = '\x7d' then .ok (deliver (.object members.reverse) frames)
      else .error .commaOrBraceExpected
    | _ => .error .trailingCharacters

/-- A further character of the text. A fault lies so many bytes after the start of this
character. -/
def step (r : Reader) (c : Char) : Except (Reason × Nat) Reader :=
  match r.phase with
  | .string body =>
    if c = '"' ∧ body.Closable then .ok (deliver (.string body.text) r.frames)
    else (body.step c).map (⟨r.frames, .string ·⟩)
  | .key members body =>
    if c = '"' ∧ body.Closable then .ok ⟨r.frames, .colon members body.text⟩
    else (body.step c).map (⟨r.frames, .key members ·⟩)
  | .word [] _ => .error (.wordExpected, 1)
  | .word [d] v => if c = d then .ok (deliver v r.frames) else .error (.wordExpected, 1)
  | .word (d :: due) v =>
    if c = d then .ok ⟨r.frames, .word due v⟩ else .error (.wordExpected, 1)
  | .number n => do
    match ← (n.step c).mapError (·, 1) with
    | some n => return ⟨r.frames, .number n⟩
    | none =>
      let next := deliver (← n.value.mapError (·, 0)) r.frames
      (between next.frames next.phase c).mapError (·, 1)
  | phase => (between r.frames phase c).mapError (·, 1)

/-- The end of the text. -/
def finish (r : Reader) : Except Reason Value :=
  match r.phase with
  | .value | .nextItem _ | .nextKey _ | .word .. => .error .valueCut
  | .firstItem | .itemEnd _ => .error .arrayCut
  | .firstKey | .colon .. | .memberEnd _ => .error .objectCut
  | .string _ | .key .. => .error .stringCut
  | .number n => do
    match (deliver (← n.value) r.frames).phase with
    | .itemEnd _ => .error .arrayCut
    | .memberEnd _ => .error .objectCut
    | .done v => return v
    | _ => .error .valueCut
  | .done v => .ok v

/-- Reads the rest of a text of which so many bytes have been read. -/
def run (r : Reader) (offset : Nat) : List Char → Except (Reason × Nat) Value
  | [] => r.finish.mapError (·, offset)
  | c :: rest =>
    match r.step c with
    | .ok next => next.run (offset + c.utf8Size) rest
    | .error (reason, bytes) => .error (reason, offset + bytes)

end Reader

/-- A fault that would lie behind the end of the text is that a string is cut short. -/
def Fault.locate (text : List Char) (size : Nat) (f : Reason × Nat) : Fault :=
  if f.2 ≤ size then ⟨f.1, Place.advance ⟨1, 0⟩ f.2 text⟩
  else ⟨.stringCut, Place.advance ⟨1, 0⟩ size text⟩

/-- The value that the text spells. -/
def read (text : String) : Except Fault Value :=
  (Reader.start.run 0 text.toList).mapError (Fault.locate text.toList text.utf8ByteSize)

end GrammarPackages.Json
