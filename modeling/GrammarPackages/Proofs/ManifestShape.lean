import GrammarPackages.Proofs.ManifestFields

namespace GrammarPackages.Manifest

open Json (Value Last)

/-- The document is an object, and its grammars are these items. -/
inductive Lists : Value → List Value → Prop
  | object {members : List (String × Value)} {items : List Value}
      (h : Last members grammarsKey (.array items)) : Lists (.object members) items

/-- Objects that differ at most in members that are no fields of a declaration. -/
inductive SameFields : Value → Value → Prop
  | refl (v : Value) : SameFields v v
  | object {members members' : List (String × Value)}
      (h : ∀ key ∈ fieldKeys, ∀ v, Last members key v ↔ Last members' key v) :
      SameFields (.object members) (.object members')

/-- Documents that differ at most in members beside the grammars, and in such members of the
grammars. -/
inductive SameGrammars : Value → Value → Prop
  | members {members members' : List (String × Value)}
      (h : ∀ v, Last members grammarsKey v ↔ Last members' grammarsKey v) :
      SameGrammars (.object members) (.object members')
  | items {document document' : Value} {items items' : List Value} (h : Lists document items)
      (h' : Lists document' items') (hitems : List.Forall₂ SameFields items items') :
      SameGrammars document document'

section Document

variable {document document' : Value} {items items' : List Value} {ds : List Declaration}

theorem ofValue_of_lists (h : Lists document items) :
    ofValue document = (items.mapM Declaration.ofValue).mapError .misshapen := by
  obtain ⟨h⟩ := h
  simp only [ofValue, Json.member?_eq_some_iff.2 h]

theorem ofValue_of_not_lists (h : ∀ items, ¬ Lists document items) :
    ofValue document = .error .noGrammars := by
  cases document with
  | object members =>
    rw [ofValue]
    split
    · next items hitems => exact absurd (.object (Json.member?_eq_some_iff.1 hitems)) (h items)
    · rfl
  | _ => rfl

theorem forall₂_spells_iff :
    List.Forall₂ Spells items ds ↔ items.mapM Declaration.ofValue = .ok ds := by
  simp only [Except.mapM_eq_ok_iff, declarationOfValue_eq_ok_iff]

theorem exists_forall₂_spells_iff :
    (∃ ds, List.Forall₂ Spells items ds) ↔ ∀ item ∈ items, ∃ d, Spells item d := by
  induction items with
  | nil => simp
  | cons item items ih =>
    rw [List.forall_mem_cons, ← ih]
    constructor
    · rintro ⟨_, _ | ⟨hd, hds⟩⟩
      exact ⟨⟨_, hd⟩, _, hds⟩
    · rintro ⟨⟨d, hd⟩, ds, hds⟩
      exact ⟨d :: ds, .cons hd hds⟩

theorem ofValue_eq_ok_iff :
    ofValue document = .ok ds ↔ ∃ items, Lists document items ∧ List.Forall₂ Spells items ds := by
  constructor
  · intro h
    by_cases hlists : ∃ items, Lists document items
    · obtain ⟨items, hitems⟩ := hlists
      rw [ofValue_of_lists hitems, Except.mapError_eq_ok_iff] at h
      exact ⟨items, hitems, forall₂_spells_iff.2 h⟩
    · rw [ofValue_of_not_lists (not_exists.1 hlists)] at h
      cases h
  · rintro ⟨items, hitems, hds⟩
    rw [ofValue_of_lists hitems, Except.mapError_eq_ok_iff]
    exact forall₂_spells_iff.1 hds

theorem Lists.unique (h : Lists document items) (h' : Lists document items') :
    items = items' := by
  obtain ⟨h⟩ := h
  obtain ⟨h'⟩ := h'
  have he := (Json.member?_eq_some_iff.2 h).symm.trans (Json.member?_eq_some_iff.2 h')
  exact Value.array.inj (Option.some.inj he)

theorem ofValue_cases (document : Value) :
    (∃ ds, ofValue document = .ok ds) ∨
      (ofValue document = .error .noGrammars ∧ ∀ items, ¬ Lists document items) ∨
      ∃ f items, ofValue document = .error (.misshapen f) ∧ Lists document items := by
  by_cases hlists : ∃ items, Lists document items
  · obtain ⟨items, hitems⟩ := hlists
    rw [ofValue_of_lists hitems]
    cases items.mapM Declaration.ofValue with
    | ok ds => exact .inl ⟨ds, rfl⟩
    | error f => exact .inr (.inr ⟨f, items, rfl, hitems⟩)
  · exact .inr (.inl ⟨ofValue_of_not_lists (not_exists.1 hlists), not_exists.1 hlists⟩)

theorem declarationOfValue_congr {v v' : Value} (h : SameFields v v') :
    Declaration.ofValue v = Declaration.ofValue v' := by
  cases h with
  | refl => rfl
  | object h => exact ofMembers_congr h

theorem mapM_declarationOfValue_congr (h : List.Forall₂ SameFields items items') :
    items.mapM Declaration.ofValue = items'.mapM Declaration.ofValue := by
  induction h with
  | nil => rfl
  | cons hv _ ih => rw [List.mapM_cons, List.mapM_cons, declarationOfValue_congr hv, ih]

theorem ofValue_congr (h : SameGrammars document document') :
    ofValue document = ofValue document' := by
  cases h with
  | members h => simp only [ofValue, Json.member?_congr h]
  | items h h' hitems =>
    rw [ofValue_of_lists h, ofValue_of_lists h', mapM_declarationOfValue_congr hitems]

theorem parse_of_read {text : String} (h : Json.read text = .ok document) :
    parse text = ofValue document := by
  simp only [parse, h, Except.mapError]
  rfl

end Document

/-- What comes of a text that reads as this document, told by the shape of the document. -/
structure ReadByShape (document : Value) (result : Except Defect (List Declaration)) : Prop where
  ok_iff : ∀ ds, result = .ok ds ↔ ∃ items, Lists document items ∧ List.Forall₂ Spells items ds
  exists_ok_iff : (∃ ds, result = .ok ds) ↔
    ∃ items, Lists document items ∧ ∀ item ∈ items, ∃ d, Spells item d
  noGrammars_iff : result = .error .noGrammars ↔ ∀ items, ¬ Lists document items
  misshapen_iff : (∃ f, result = .error (.misshapen f)) ↔
    ∃ items, Lists document items ∧ ∃ item ∈ items, ∀ d, ¬ Spells item d
  others_do_not_count : ∀ text' document', Json.read text' = .ok document' →
    SameGrammars document document' → parse text' = result

theorem readByShape_of_read {text : String} {document : Value}
    (h : Json.read text = .ok document) : ReadByShape document (parse text) := by
  rw [parse_of_read h]
  have hexists : (∃ ds, ofValue document = .ok ds) ↔
      ∃ items, Lists document items ∧ ∀ item ∈ items, ∃ d, Spells item d := by
    simp only [ofValue_eq_ok_iff, ← exists_forall₂_spells_iff]
    exact ⟨fun ⟨ds, items, h, hds⟩ ↦ ⟨items, h, ds, hds⟩,
      fun ⟨items, h, ds, hds⟩ ↦ ⟨ds, items, h, hds⟩⟩
  constructor
  case ok_iff => exact fun _ ↦ ofValue_eq_ok_iff
  case exists_ok_iff => exact hexists
  case noGrammars_iff =>
    refine ⟨fun hnone items hitems ↦ ?_, ofValue_of_not_lists⟩
    rw [ofValue_of_lists hitems] at hnone
    cases hm : items.mapM Declaration.ofValue <;> rw [hm] at hnone <;> cases hnone
  case misshapen_iff =>
    have hbad : (∃ items, Lists document items ∧ ∃ item ∈ items, ∀ d, ¬ Spells item d) ↔
        (∃ items, Lists document items) ∧ ¬ ∃ ds, ofValue document = .ok ds := by
      rw [hexists]
      constructor
      · rintro ⟨items, hitems, item, hitem, hbad⟩
        refine ⟨⟨items, hitems⟩, fun ⟨items', hitems', hgood⟩ ↦ ?_⟩
        obtain rfl := hitems.unique hitems'
        obtain ⟨d, hd⟩ := hgood item hitem
        exact hbad d hd
      · rintro ⟨⟨items, hitems⟩, hnot⟩
        refine ⟨items, hitems, ?_⟩
        by_contra hgood
        refine hnot ⟨items, hitems, fun item hitem ↦ ?_⟩
        by_contra hd
        exact hgood ⟨item, hitem, not_exists.1 hd⟩
    rw [hbad]
    -- the grammars are listed but not taken, which leaves only this fault
    rcases ofValue_cases document with ⟨ds, hok⟩ | ⟨hnone, hnot⟩ | ⟨f, items, herror, hitems⟩
    · simp [hok]
    · simp [hnone, hnot]
    · rw [herror]
      exact iff_of_true ⟨f, rfl⟩ ⟨⟨items, hitems⟩, by simp⟩
  case others_do_not_count =>
    intro text' document' h' hsame
    rw [parse_of_read h', ofValue_congr hsame]

/-- One grammar by position, and one by keys, of which `path` comes twice. -/
def mixedText : String :=
  "\x7b\"tree-sitter\":[[\"s\",[],\"p\",\"h\",[],\"\",null,\"r\"]," ++
    "\x7b\"path\":7,\"path\":\"p\",\"scope\":\"s\",\"file-types\":[]\x7d]\x7d"

def mixedDocument : Value :=
  .object [(grammarsKey, .array [
    .array [.string "s", .array [], .string "p", .string "h", .array [], .string "", .null,
      .string "r"],
    .object [("path", .integer 7), ("path", .string "p"), ("scope", .string "s"),
      ("file-types", .array [])]])]

theorem read_mixedText : Json.read mixedText = .ok mixedDocument := by rfl

theorem readByShape_of_mixedText :
    Json.read mixedText = .ok mixedDocument ∧ ReadByShape mixedDocument (parse mixedText) :=
  ⟨read_mixedText, readByShape_of_read read_mixedText⟩

end GrammarPackages.Manifest
