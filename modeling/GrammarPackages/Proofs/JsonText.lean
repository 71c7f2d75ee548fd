import Mathlib.Data.List.Forall2
import GrammarPackages.Json.Reader

namespace GrammarPackages.Json

abbrev NeedsEscape (c : Char) : Prop := c = '"' ∨ c = '\\' ∨ c < ' '

/-- The letter that stands for the character behind a backslash, if there is one. -/
def shortEscape? : Char → Option Char
  | '"' => some '"'
  | '\\' => some '\\'
  | '\x08' => some 'b'
  | '\x0c' => some 'f'
  | '\n' => some 'n'
  | '\r' => some 'r'
  | '\t' => some 't'
  | _ => none

def hexDigit (capital : Bool) (n : Nat) : Char :=
  if capital then n.digitChar.toUpper else n.digitChar

/-- The choices left to a writer of strings: by a letter where there is one, or by a number, and
with which digits. -/
structure Escaping where
  short : Char → Bool
  capital : Char → Bool

namespace Escaping

variable (e : Escaping)

def escape (c : Char) : List Char :=
  if NeedsEscape c then
    match if e.short c then shortEscape? c else none with
    | some letter => ['\\', letter]
    | none => ['\\', 'u', '0', '0', hexDigit (e.capital c) (c.toNat / 16),
        hexDigit (e.capital c) (c.toNat % 16)]
  else [c]

def quote (s : String) : List Char := '"' :: (s.toList.flatMap e.escape ++ ['"'])

end Escaping

def arrayText (items : List (List Char)) : List Char := '[' :: ([','].intercalate items ++ [']'])

def objectText (e : Escaping) (members : List (String × List Char)) : List Char :=
  '\x7b' :: ([','].intercalate (members.map (fun m ↦ e.quote m.1 ++ ':' :: m.2)) ++ ['\x7d'])

section StringBody

inductive StringBody.Takes : StringBody → List Char → StringBody → Prop
  | nil (b : StringBody) : Takes b [] b
  | cons {b b'' : StringBody} {c : Char} {l : List Char} (b' : StringBody)
      (hc : ¬ (c = '"' ∧ b.Closable)) (hb : b.step c = .ok b') (h : Takes b' l b'') :
      Takes b (c :: l) b''

variable {b b' b'' : StringBody} {l m read : List Char} {c : Char}

theorem StringBody.Takes.trans (h : b.Takes l b') (h' : b'.Takes m b'') :
    b.Takes (l ++ m) b'' := by
  induction h with
  | nil => exact h'
  | cons b' hc hb _ ih => exact .cons b' hc hb (ih h')

theorem letter?_of_shortEscape? {letter : Char} (h : shortEscape? c = some letter) :
    StringBody.letter? letter = some c ∧ letter ≠ 'u' := by
  unfold shortEscape? at h
  split at h <;> cases h <;> decide

theorem hexDigit?_hexDigit (capital : Bool) {n : Nat} (h : n < 16) :
    StringBody.hexDigit? (hexDigit capital n) = some n := by
  have hall : ∀ capital, ∀ n < 16, StringBody.hexDigit? (hexDigit capital n) = some n := by
    decide
  exact hall capital n h

theorem toNat_lt_of_needsEscape (h : NeedsEscape c) : c.toNat < 0x80 := by
  rcases h with rfl | rfl | h
  · decide
  · decide
  · have hlt : c.toNat < ' '.toNat := h
    have hblank : ' '.toNat = 0x20 := rfl
    omega

theorem takes_letter {letter : Char} (h : shortEscape? c = some letter) :
    StringBody.Takes ⟨read, .none⟩ ['\\', letter] ⟨c :: read, .none⟩ := by
  obtain ⟨hletter, hu⟩ := letter?_of_shortEscape? h
  refine .cons ⟨read, .letter⟩ (by simp) rfl
    (.cons _ (fun hc ↦ hc.2) ?_ (.nil _))
  simp only [StringBody.step, if_neg hu, hletter]
  rfl

theorem takes_number (capital : Bool) (h : NeedsEscape c) :
    StringBody.Takes ⟨read, .none⟩ ['\\', 'u', '0', '0', hexDigit capital (c.toNat / 16),
      hexDigit capital (c.toNat % 16)] ⟨c :: read, .none⟩ := by
  have hlt := toNat_lt_of_needsEscape h
  have hhigh := hexDigit?_hexDigit capital (n := c.toNat / 16) (by omega)
  have hlow := hexDigit?_hexDigit capital (n := c.toNat % 16) (by omega)
  have hvalue : c.toNat / 16 * 16 + c.toNat % 16 = c.toNat := by omega
  -- a character that needs an escape is no surrogate, so it is taken up at its last digit
  have hunit : StringBody.unit ⟨read, .digits none 1 (c.toNat / 16)⟩ none c.toNat =
      .ok ⟨c :: read, .none⟩ := by
    have htrail : ¬ StringBody.IsTrail c.toNat := by
      rintro ⟨hge, -⟩
      omega
    have hlead : ¬ StringBody.IsLead c.toNat := by
      rintro ⟨hge, -⟩
      omega
    rw [StringBody.unit, if_neg htrail, if_neg hlead, Char.ofNat_toNat]
    rfl
  refine .cons ⟨read, .letter⟩ (by simp) rfl ?_
  refine .cons ⟨read, .digits none 4 0⟩ (fun hc ↦ hc.2) rfl ?_
  refine .cons ⟨read, .digits none 3 0⟩ (fun hc ↦ hc.2) rfl ?_
  refine .cons ⟨read, .digits none 2 0⟩ (fun hc ↦ hc.2) rfl ?_
  refine .cons ⟨read, .digits none 1 (c.toNat / 16)⟩ (fun hc ↦ hc.2) ?_ ?_
  · simp [StringBody.step, hhigh]
  · refine .cons _ (fun hc ↦ hc.2) ?_ (.nil _)
    simp [StringBody.step, hlow, hvalue, hunit, Except.mapError]

theorem takes_escape (e : Escaping) (c : Char) (read : List Char) :
    StringBody.Takes ⟨read, .none⟩ (e.escape c) ⟨c :: read, .none⟩ := by
  rw [Escaping.escape]
  split
  · next hneeds =>
    split
    · next letter hletter =>
      split at hletter
      · exact takes_letter hletter
      · cases hletter
    · exact takes_number _ hneeds
  · next hraw =>
    obtain ⟨hquote, hrest⟩ := not_or.1 hraw
    obtain ⟨hslash, hblank⟩ := not_or.1 hrest
    refine .cons _ (fun hc ↦ hquote hc.1) ?_ (.nil _)
    simp only [StringBody.step, if_neg hslash, if_neg hblank]
    rfl

theorem takes_escapes (e : Escaping) (l read : List Char) :
    StringBody.Takes ⟨read, .none⟩ (l.flatMap e.escape) ⟨l.reverse ++ read, .none⟩ := by
  induction l generalizing read with
  | nil => exact .nil _
  | cons c l ih =>
    rw [List.flatMap_cons, List.reverse_cons, List.append_assoc]
    exact (takes_escape e c read).trans (ih (c :: read))

/-- However a string is escaped, it is taken up as it is. -/
theorem exists_takes_string (e : Escaping) (s : String) :
    ∃ b, StringBody.empty.Takes (s.toList.flatMap e.escape) b ∧ b.Closable ∧ b.text = s :=
  ⟨⟨s.toList.reverse ++ [], .none⟩, takes_escapes e s.toList [], trivial, by simp [StringBody.text]⟩

end StringBody

namespace Reader

inductive Reads : Reader → List Char → Reader → Prop
  | nil (r : Reader) : Reads r [] r
  | cons {r r' r'' : Reader} {c : Char} {l : List Char} (hr : r.step c = .ok r')
      (h : Reads r' l r'') : Reads r (c :: l) r''

variable {r r' r'' : Reader} {l m : List Char} {frames : List Frame} {v : Value}

theorem Reads.one {c : Char} (h : r.step c = .ok r') : r.Reads [c] r' := .cons h (.nil r')

theorem Reads.trans (h : r.Reads l r') (h' : r'.Reads m r'') : r.Reads (l ++ m) r'' := by
  induction h with
  | nil => exact h'
  | cons hr _ ih => exact .cons hr (ih h')

theorem Reads.run_eq (h : r.Reads l r') (hfinish : r'.finish = .ok v) (offset : Nat) :
    r.run offset l = .ok v := by
  induction h generalizing offset with
  | nil => rw [run, hfinish]; rfl
  | cons hr _ ih =>
    simp only [run, hr]
    exact ih hfinish _

theorem read_of_reads {text : List Char} (h : start.Reads text ⟨[], .done v⟩) :
    read (.ofList text) = .ok v := by
  rw [read, String.toList_ofList, h.run_eq rfl]
  rfl

/-- What a string takes up, the reader reads inside it. -/
theorem reads_of_takes (wrap : StringBody → Reader) {b b' : StringBody}
    (hwrap : ∀ b c, ¬ (c = '"' ∧ b.Closable) → (wrap b).step c = (b.step c).map wrap)
    (h : b.Takes l b') : (wrap b).Reads l (wrap b') := by
  induction h with
  | nil => exact .nil _
  | cons _ hc hb _ ih =>
    refine .cons ?_ ih
    rw [hwrap _ _ hc, hb]
    rfl

theorem reads_quote_string (e : Escaping) (s : String) (frames : List Frame) :
    Reads ⟨frames, .value⟩ (e.quote s) (deliver (.string s) frames) := by
  obtain ⟨b, htakes, hclosable, htext⟩ := exists_takes_string e s
  have hbody : Reads ⟨frames, .string .empty⟩ (s.toList.flatMap e.escape) ⟨frames, .string b⟩ := by
    refine reads_of_takes (fun b ↦ ⟨frames, .string b⟩) (fun b c hc ↦ ?_) htakes
    simp only [step, if_neg hc]
  refine .cons rfl (hbody.trans (.one ?_))
  simp only [step]
  rw [if_pos ⟨trivial, hclosable⟩, htext]

theorem reads_key (e : Escaping) (key : String) (frames : List Frame)
    (members : List (String × Value)) :
    Reads ⟨frames, .key members .empty⟩ (key.toList.flatMap e.escape ++ ['"'])
      ⟨frames, .colon members key⟩ := by
  obtain ⟨b, htakes, hclosable, htext⟩ := exists_takes_string e key
  have hbody : Reads ⟨frames, .key members .empty⟩ (key.toList.flatMap e.escape)
      ⟨frames, .key members b⟩ := by
    refine reads_of_takes (fun b ↦ ⟨frames, .key members b⟩) (fun b c hc ↦ ?_) htakes
    simp only [step, if_neg hc]
  refine hbody.trans (.one ?_)
  simp only [step]
  rw [if_pos ⟨trivial, hclosable⟩, htext]

end Reader

open Reader

/-- The text spells a value, in which containers nest no deeper than this. -/
structure SpellsValue (depth : Nat) (text : List Char) (v : Value) : Prop where
  -- a blank would be skipped, and a bracket would end an array with no item
  head : ∃ c rest, text = c :: rest ∧ ¬ IsBlank c ∧ c ≠ ']'
  reads : ∀ frames, frames.length + depth < depthLimit →
    Reads ⟨frames, .value⟩ text (deliver v frames)

section Values

variable {n depth : Nat} {text : List Char} {v : Value} {texts : List (List Char)}
variable {vs items : List Value} {frames : List Frame} {e : Escaping}

theorem SpellsValue.mono (h : SpellsValue n text v) (hn : n ≤ depth) :
    SpellsValue depth text v where
  head := h.head
  reads frames hframes := h.reads frames (by omega)

theorem spellsValue_null : SpellsValue 0 ['n', 'u', 'l', 'l'] .null where
  head := ⟨'n', _, rfl, by decide, by decide⟩
  reads frames _ := .cons rfl (.cons rfl (.cons rfl (.one rfl)))

theorem spellsValue_quote (e : Escaping) (s : String) :
    SpellsValue 0 (e.quote s) (.string s) where
  head := ⟨'"', _, rfl, by decide, by decide⟩
  reads frames _ := reads_quote_string e s frames

/-- An item is read as a value of its own, in front of the array that waits for it. -/
theorem SpellsValue.reads_item (h : SpellsValue n text v) {phase : Phase} {items : List Value}
    (hphase : (phase = .firstItem ∧ items = []) ∨ phase = .nextItem items)
    (hframes : frames.length + 1 + n < depthLimit) :
    Reads ⟨frames, phase⟩ text ⟨frames, .itemEnd (v :: items)⟩ := by
  obtain ⟨c, rest, rfl, hblank, hbracket⟩ := h.head
  have hreads := h.reads (.array items :: frames) (by simpa using hframes)
  cases hreads with
  | cons hstep hrest =>
    refine .cons ?_ hrest
    rw [← hstep]
    rcases hphase with ⟨rfl, rfl⟩ | rfl
    · simp only [step, between, if_neg hblank, if_neg hbracket]
    · simp only [step, between, if_neg hblank, if_neg hbracket]

theorem reads_items (h : List.Forall₂ (SpellsValue n) texts vs) (items : List Value)
    (hframes : frames.length + 1 + n < depthLimit) :
    Reads ⟨frames, .itemEnd items⟩ (texts.flatMap (',' :: ·) ++ [']'])
      (deliver (.array (items.reverse ++ vs)) frames) := by
  induction h generalizing items with
  | nil =>
    rw [List.append_nil]
    exact .one rfl
  | @cons text v texts vs hv _ ih =>
    have hitem : Reads ⟨frames, .nextItem items⟩ text ⟨frames, .itemEnd (v :: items)⟩ :=
      hv.reads_item (.inr rfl) hframes
    have hrest := ih (v :: items)
    rw [List.reverse_cons, List.append_assoc, List.singleton_append] at hrest
    rw [List.flatMap_cons, List.append_assoc, List.cons_append]
    exact .cons rfl (hitem.trans hrest)

theorem intercalate_cons_eq_flatMap (text : List Char) (texts : List (List Char)) :
    [','].intercalate (text :: texts) = text ++ texts.flatMap (',' :: ·) := by
  induction texts generalizing text with
  | nil => simp
  | cons next texts ih =>
    rw [List.intercalate_cons_cons, ih, List.flatMap_cons]
    simp

theorem step_open_array (h : frames.length + 1 < depthLimit) :
    step ⟨frames, .value⟩ '[' = .ok ⟨frames, .firstItem⟩ := by
  have hblank : ¬ IsBlank '[' := by decide
  simp only [step, between, if_neg hblank, openValue, if_pos h]
  rfl

theorem step_open_object (h : frames.length + 1 < depthLimit) :
    step ⟨frames, .value⟩ '\x7b' = .ok ⟨frames, .firstKey⟩ := by
  have hblank : ¬ IsBlank '\x7b' := by decide
  simp only [step, between, if_neg hblank, openValue, if_pos h]
  rfl

theorem spellsValue_arrayText (h : List.Forall₂ (SpellsValue n) texts vs) :
    SpellsValue (n + 1) (arrayText texts) (.array vs) where
  head := ⟨'[', _, rfl, by decide, by decide⟩
  reads frames hframes := by
    have hdepth : frames.length + 1 < depthLimit := by omega
    refine .cons (step_open_array hdepth) ?_
    cases h with
    | nil => exact .one rfl
    | @cons text v texts vs hv hvs =>
      rw [intercalate_cons_eq_flatMap, List.append_assoc]
      have hitem : Reads ⟨frames, .firstItem⟩ text ⟨frames, .itemEnd [v]⟩ :=
        hv.reads_item (.inl ⟨rfl, rfl⟩) (by omega)
      exact hitem.trans (reads_items hvs [v] (by omega))

structure SpellsMember (depth : Nat) (written : String × List Char) (m : String × Value) :
    Prop where
  key_eq : written.1 = m.1
  spells : SpellsValue depth written.2 m.2

variable {written : List (String × List Char)} {members : List (String × Value)}

theorem SpellsMember.reads {w : String × List Char} {m : String × Value}
    (h : SpellsMember n w m) (e : Escaping) (frames : List Frame)
    (members : List (String × Value)) (hframes : frames.length + 1 + n < depthLimit) :
    Reads ⟨frames, .key members .empty⟩
      (w.1.toList.flatMap e.escape ++ ['"'] ++ ':' :: w.2)
      ⟨frames, .memberEnd (m :: members)⟩ := by
  have hcolon : step ⟨frames, .colon members w.1⟩ ':' =
      .ok ⟨.member members w.1 :: frames, .value⟩ := rfl
  have hvalue := h.spells.reads (.member members w.1 :: frames) (by simpa using hframes)
  have hkey := (reads_key e w.1 frames members).trans (.cons hcolon hvalue)
  rw [h.key_eq] at hkey ⊢
  exact hkey

theorem reads_members (e : Escaping) (h : List.Forall₂ (SpellsMember n) written members)
    (before : List (String × Value)) (hframes : frames.length + 1 + n < depthLimit) :
    Reads ⟨frames, .memberEnd before⟩
      ((written.map (fun m ↦ e.quote m.1 ++ ':' :: m.2)).flatMap (',' :: ·) ++ ['\x7d'])
      (deliver (.object (before.reverse ++ members)) frames) := by
  induction h generalizing before with
  | nil =>
    rw [List.append_nil]
    exact .one rfl
  | @cons w m written members hm _ ih =>
    have hmember := hm.reads e frames before hframes
    have hrest := ih (m :: before)
    rw [List.reverse_cons, List.append_assoc, List.singleton_append] at hrest
    rw [List.map_cons, List.flatMap_cons, List.append_assoc, List.cons_append]
    exact .cons rfl (.cons rfl (hmember.trans hrest))

theorem spellsValue_objectText (e : Escaping)
    (h : List.Forall₂ (SpellsMember n) written members) :
    SpellsValue (n + 1) (objectText e written) (.object members) where
  head := ⟨'\x7b', _, rfl, by decide, by decide⟩
  reads frames hframes := by
    have hdepth : frames.length + 1 < depthLimit := by omega
    refine .cons (step_open_object hdepth) ?_
    cases h with
    | nil => exact .one rfl
    | @cons w m written members hm hms =>
      rw [List.map_cons, intercalate_cons_eq_flatMap, List.append_assoc]
      have hmember := hm.reads e frames [] (by omega)
      exact .cons rfl (hmember.trans (reads_members e hms [m] (by omega)))

theorem SpellsValue.read_eq (h : SpellsValue depth text v) (hdepth : depth < depthLimit) :
    read (.ofList text) = .ok v :=
  read_of_reads (h.reads [] (by simpa using hdepth))

end Values

end GrammarPackages.Json
