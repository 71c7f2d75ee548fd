import Mathlib.Data.List.Perm.Basic
import GrammarPackages.Proofs.JsonText
import GrammarPackages.Proofs.ManifestShape

namespace GrammarPackages.Manifest

open Json (Value Escaping arrayText objectText SpellsValue SpellsMember Last)

def nullableText (e : Escaping) : Option String → List Char
  | none => ['n', 'u', 'l', 'l']
  | some s => e.quote s

def stringsText (e : Escaping) (l : List String) : List Char := arrayText (l.map e.quote)

def Declaration.written (e : Escaping) (d : Declaration) : List (String × List Char) :=
  [("scope", e.quote d.scope), ("file-types", stringsText e d.fileTypes),
    ("path", e.quote d.path), ("highlights", stringsText e d.highlights),
    ("locals", stringsText e d.locals), ("injections", e.quote d.injections),
    ("injection-regex", nullableText e d.injectionRegex),
    ("content-regex", nullableText e d.contentRegex)]

/-- How a manifest may be written: the escapes in its strings, and the order of the fields of
each declaration. -/
structure Style extends Escaping where
  arrange : Declaration → List (String × List Char) → List (String × List Char)
  arrange_perm : ∀ d l, (arrange d l).Perm l

namespace Style

variable (style : Style)

def declarationText (d : Declaration) : List Char :=
  objectText style.toEscaping (style.arrange d (d.written style.toEscaping))

/-- The text of a manifest that lists these declarations and nothing else. -/
def write (ds : List Declaration) : String :=
  .ofList (objectText style.toEscaping
    [(grammarsKey, arrayText (ds.map style.declarationText))])

end Style

def nullableValue : Option String → Value
  | none => .null
  | some s => .string s

def Declaration.members (d : Declaration) : List (String × Value) :=
  [("scope", .string d.scope), ("file-types", .array (d.fileTypes.map .string)),
    ("path", .string d.path), ("highlights", .array (d.highlights.map .string)),
    ("locals", .array (d.locals.map .string)), ("injections", .string d.injections),
    ("injection-regex", nullableValue d.injectionRegex),
    ("content-regex", nullableValue d.contentRegex)]

section Texts

variable (e : Escaping) (d : Declaration)

theorem spellsValue_nullableText (o : Option String) :
    SpellsValue 1 (nullableText e o) (nullableValue o) := by
  cases o with
  | none => exact Json.spellsValue_null.mono (Nat.zero_le 1)
  | some s => exact (Json.spellsValue_quote e s).mono (Nat.zero_le 1)

theorem spellsValue_string (s : String) : SpellsValue 1 (e.quote s) (.string s) :=
  (Json.spellsValue_quote e s).mono (Nat.zero_le 1)

theorem spellsValue_stringsText (l : List String) :
    SpellsValue 1 (stringsText e l) (.array (l.map .string)) := by
  refine Json.spellsValue_arrayText ?_
  rw [List.forall₂_map_left_iff, List.forall₂_map_right_iff, List.forall₂_same]
  exact fun s _ ↦ Json.spellsValue_quote e s

theorem spellsMembers_written :
    List.Forall₂ (SpellsMember 1) (d.written e) d.members := by
  have hstring : ∀ key s, SpellsMember 1 (key, e.quote s) (key, .string s) :=
    fun _ s ↦ ⟨rfl, spellsValue_string e s⟩
  have hstrings : ∀ key l, SpellsMember 1 (key, stringsText e l) (key, .array (l.map .string)) :=
    fun _ l ↦ ⟨rfl, spellsValue_stringsText e l⟩
  have hnullable : ∀ key o, SpellsMember 1 (key, nullableText e o) (key, nullableValue o) :=
    fun _ o ↦ ⟨rfl, spellsValue_nullableText e o⟩
  exact .cons (hstring _ _) (.cons (hstrings _ _) (.cons (hstring _ _) (.cons (hstrings _ _)
    (.cons (hstrings _ _) (.cons (hstring _ _) (.cons (hnullable _ _)
      (.cons (hnullable _ _) .nil)))))))

theorem nodup_members : (d.members.map Prod.fst).Nodup := by
  have hkeys : d.members.map Prod.fst = fieldKeys := rfl
  rw [hkeys]
  decide

theorem nullable_nullableValue (o : Option String) : Nullable (nullableValue o) o := by
  cases o with
  | none => exact .null
  | some s => exact .string s

variable {d} in
/-- Whatever their order, the members spell the declaration. -/
theorem spelledBy_of_perm {members : List (String × Value)} (h : members.Perm d.members) :
    SpelledBy members d := by
  -- no key comes twice, so each member is the last one of its key
  have hnodup : (members.map Prod.fst).Nodup := (h.map Prod.fst).nodup_iff.2 (nodup_members d)
  have hlast : ∀ key v, (key, v) ∈ d.members → Last members key v :=
    fun key v hmem ↦ Json.last_of_mem hnodup (h.mem_iff.2 hmem)
  exact {
    scope := hlast _ _ (by simp [Declaration.members])
    fileTypes := hlast _ _ (by simp [Declaration.members])
    path := hlast _ _ (by simp [Declaration.members])
    highlights := .present (hlast _ _ (by simp [Declaration.members])) (.many _)
    locals := .present (hlast _ _ (by simp [Declaration.members])) (.many _)
    injections := .present (hlast _ _ (by simp [Declaration.members])) rfl
    injectionRegex :=
      .present (hlast _ _ (by simp [Declaration.members])) (nullable_nullableValue _)
    contentRegex :=
      .present (hlast _ _ (by simp [Declaration.members])) (nullable_nullableValue _) }

end Texts

section Write

variable (style : Style)

theorem exists_spellsValue_declarationText (d : Declaration) :
    ∃ v, SpellsValue 2 (style.declarationText d) v ∧ Spells v d := by
  obtain ⟨members, hmembers, hperm⟩ := List.perm_comp_forall₂
    (style.arrange_perm d (d.written style.toEscaping)) (spellsMembers_written _ d)
  exact ⟨.object members, Json.spellsValue_objectText _ hmembers,
    .object (spelledBy_of_perm hperm)⟩

theorem exists_spellsValues_declarationTexts (ds : List Declaration) :
    ∃ items, List.Forall₂ (SpellsValue 2) (ds.map style.declarationText) items ∧
      List.Forall₂ Spells items ds := by
  induction ds with
  | nil => exact ⟨[], .nil, .nil⟩
  | cons d ds ih =>
    obtain ⟨v, htext, hd⟩ := exists_spellsValue_declarationText style d
    obtain ⟨items, htexts, hds⟩ := ih
    exact ⟨v :: items, .cons htext htexts, .cons hd hds⟩

theorem parse_write (ds : List Declaration) : parse (style.write ds) = .ok ds := by
  obtain ⟨items, htexts, hds⟩ := exists_spellsValues_declarationTexts style ds
  have hmember : SpellsMember 3 (grammarsKey, arrayText (ds.map style.declarationText))
      (grammarsKey, .array items) := ⟨rfl, Json.spellsValue_arrayText htexts⟩
  have hread : Json.read (style.write ds) = .ok (.object [(grammarsKey, .array items)]) :=
    (Json.spellsValue_objectText _ (.cons hmember .nil)).read_eq (by decide)
  have hlists : Lists (.object [(grammarsKey, .array items)]) items :=
    .object (Json.last_of_mem (by simp) List.mem_cons_self)
  rw [parse_of_read hread]
  exact ofValue_eq_ok_iff.2 ⟨items, hlists, hds⟩

end Write

/-- Letters where there are any, and the fields in their order. -/
def Style.plain : Style where
  short _ := true
  capital _ := false
  arrange _ l := l
  arrange_perm _ l := .refl l

example : Style.plain.write [⟨"s\n", ["x", "y"], "p\x01", [], ["q"], "", none, some "é\""⟩] =
    "\x7b\"tree-sitter\":[\x7b\"scope\":\"s\\n\",\"file-types\":[\"x\",\"y\"],\"path\":\"p\\u0001\"," ++
    "\"highlights\":[],\"locals\":[\"q\"],\"injections\":\"\",\"injection-regex\":null," ++
    "\"content-regex\":\"é\\\"\"\x7d]\x7d" := by
  decide +kernel

end GrammarPackages.Manifest
