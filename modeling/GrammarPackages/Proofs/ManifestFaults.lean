import GrammarPackages.Proofs.FieldFaults
import GrammarPackages.Proofs.ManifestShape

namespace GrammarPackages.Manifest

open Json (Value)

/-- What is wrong with an element of the grammar list. -/
inductive DeclarationFault : Value → ShapeFault → Prop
  | object {members : List (String × Value)} {f : ShapeFault} (h : MembersFault members f) :
      DeclarationFault (.object members) f
  | array {items : List Value} {f : ShapeFault} (h : ItemsFault items f) :
      DeclarationFault (.array items) f
  | neither {v : Value} (hobject : ∀ members, v ≠ .object members)
      (harray : ∀ items, v ≠ .array items) : DeclarationFault v (.wrongType v .declaration)

/-- What comes of a manifest is what is wrong with this element. The same comes of every manifest
where it stands behind good ones only, also alone, and whatever it has beside its fields. -/
structure FailsBy (bad : Value) (result : Except Defect (List Declaration)) : Prop where
  exists_fault : ∃ f, result = .error (.misshapen f)
  fault_iff : ∀ f, result = .error (.misshapen f) ↔ DeclarationFault bad f
  anywhere : ∀ text document good bad' rest, Json.read text = .ok document →
    Lists document (good ++ bad' :: rest) → (∀ item ∈ good, ∃ d, Spells item d) →
    SameFields bad bad' → parse text = result

section Elements

variable {document bad : Value} {items good rest : List Value} {f : ShapeFault} {text : String}

theorem declarationOfValue_eq_error_iff {v : Value} :
    Declaration.ofValue v = .error f ↔ DeclarationFault v f := by
  constructor
  · intro h
    cases v with
    | object members => exact .object (ofMembers_eq_error_iff.1 h)
    | array items => exact .array (ofItems_eq_error_iff.1 h)
    | _ =>
      obtain rfl := Except.error.inj h
      exact .neither (by simp) (by simp)
  · rintro (h | h | ⟨hobject, harray⟩)
    · exact ofMembers_eq_error_iff.2 h
    · exact ofItems_eq_error_iff.2 h
    · cases v with
      | object members => exact absurd rfl (hobject members)
      | array items => exact absurd rfl (harray items)
      | _ => rfl

theorem fault?_declarationOfValue_eq_none_iff {v : Value} :
    (Declaration.ofValue v).fault? = none ↔ ∃ d, Spells v d := by
  rw [Except.fault?_eq_none_iff]
  simp only [declarationOfValue_eq_ok_iff]

/-- Where some element is badly shaped, there is a first one. -/
theorem exists_first_misshapen (h : ∃ item ∈ items, ∀ d, ¬ Spells item d) :
    ∃ good bad rest, items = good ++ bad :: rest ∧ (∀ item ∈ good, ∃ d, Spells item d) ∧
      ∀ d, ¬ Spells bad d := by
  cases hfind : items.findSome? (fun v ↦ (Declaration.ofValue v).fault?) with
  | none =>
    obtain ⟨item, hitem, hbad⟩ := h
    have hnone := List.findSome?_eq_none_iff.1 hfind item hitem
    exact absurd (fault?_declarationOfValue_eq_none_iff.1 hnone) (not_exists.2 hbad)
  | some f =>
    obtain ⟨good, bad, rest, rfl, hf, hgood⟩ := List.findSome?_eq_some_iff.1 hfind
    refine ⟨good, bad, rest, rfl, fun item hitem ↦ ?_, fun d hd ↦ ?_⟩
    · exact fault?_declarationOfValue_eq_none_iff.1 (hgood item hitem)
    · rw [fault?_declarationOfValue_eq_none_iff.2 ⟨d, hd⟩] at hf
      cases hf

theorem parse_of_first_misshapen (hread : Json.read text = .ok document)
    (hlists : Lists document (good ++ bad :: rest)) (hgood : ∀ item ∈ good, ∃ d, Spells item d)
    (hbad : Declaration.ofValue bad = .error f) : parse text = .error (.misshapen f) := by
  have hfind : (good ++ bad :: rest).mapM Declaration.ofValue = .error f := by
    rw [← Except.fault?_eq_some_iff, Except.fault?_mapM, List.findSome?_eq_some_iff]
    refine ⟨good, bad, rest, rfl, Except.fault?_eq_some_iff.2 hbad, fun item hitem ↦ ?_⟩
    exact fault?_declarationOfValue_eq_none_iff.2 (hgood item hitem)
  rw [parse_of_read hread, ofValue_of_lists hlists, hfind]
  rfl

theorem failsBy_of_first_misshapen (hread : Json.read text = .ok document)
    (hlists : Lists document (good ++ bad :: rest)) (hgood : ∀ item ∈ good, ∃ d, Spells item d)
    (hbad : ∀ d, ¬ Spells bad d) : FailsBy bad (parse text) := by
  obtain ⟨f, hf⟩ : ∃ f, Declaration.ofValue bad = .error f := by
    cases hv : Declaration.ofValue bad with
    | error f => exact ⟨f, rfl⟩
    | ok d => exact absurd (declarationOfValue_eq_ok_iff.1 hv) (hbad d)
  have hparse := parse_of_first_misshapen hread hlists hgood hf
  rw [hparse]
  constructor
  case exists_fault => exact ⟨f, rfl⟩
  case fault_iff =>
    intro f'
    rw [← declarationOfValue_eq_error_iff, hf, Except.error.injEq, Except.error.injEq,
      Defect.misshapen.injEq]
  case anywhere =>
    intro text' document' good' bad' rest' hread' hlists' hgood' hsame
    have hf' := (declarationOfValue_congr hsame).symm.trans hf
    exact parse_of_first_misshapen hread' hlists' hgood' hf'

end Elements

/-- Of several badly shaped elements the first is reported, and of it only what is wrong with its
own fields. -/
theorem parse_reports_first_misshapen {text : String} {document : Value} {items : List Value}
    (hread : Json.read text = .ok document) (hlists : Lists document items)
    (hbad : ∃ item ∈ items, ∀ d, ¬ Spells item d) :
    ∃ good bad rest, items = good ++ bad :: rest ∧ (∀ item ∈ good, ∃ d, Spells item d) ∧
      (∀ d, ¬ Spells bad d) ∧ FailsBy bad (parse text) := by
  obtain ⟨good, bad, rest, rfl, hgood, hfirst⟩ := exists_first_misshapen hbad
  exact ⟨good, bad, rest, rfl, hgood, hfirst, failsBy_of_first_misshapen hread hlists hgood hfirst⟩

/-- A good grammar, then one with two fields of the wrong type, then a number. -/
def faultyText : String :=
  "\x7b\"tree-sitter\":[\x7b\"path\":\"\",\"scope\":\"\",\"file-types\":[]\x7d," ++
    "\x7b\"scope\":1,\"path\":7,\"a\":0\x7d,5]\x7d"

def faultyItems : List Value :=
  [.object [("path", .string ""), ("scope", .string ""), ("file-types", .array [])],
    .object [("scope", .integer 1), ("path", .integer 7), ("a", .integer 0)], .integer 5]

theorem read_faultyText :
    Json.read faultyText = .ok (.object [(grammarsKey, .array faultyItems)]) := by rfl

theorem lists_faultyItems : Lists (.object [(grammarsKey, .array faultyItems)]) faultyItems :=
  .object ⟨[], [], rfl, fun _ h ↦ (nomatch h)⟩

theorem exists_mem_faultyItems : ∃ item ∈ faultyItems, ∀ d, ¬ Spells item d := by
  refine ⟨.integer 5, by simp [faultyItems], fun d h ↦ ?_⟩
  cases h

theorem parse_reports_first_misshapen_of_faultyText :
    (Json.read faultyText = .ok (.object [(grammarsKey, .array faultyItems)]) ∧
      Lists (.object [(grammarsKey, .array faultyItems)]) faultyItems ∧
      ∃ item ∈ faultyItems, ∀ d, ¬ Spells item d) ∧
    ∃ good bad rest, faultyItems = good ++ bad :: rest ∧
      (∀ item ∈ good, ∃ d, Spells item d) ∧ (∀ d, ¬ Spells bad d) ∧
      FailsBy bad (parse faultyText) :=
  ⟨⟨read_faultyText, lists_faultyItems, exists_mem_faultyItems⟩,
    parse_reports_first_misshapen read_faultyText lists_faultyItems exists_mem_faultyItems⟩

/-- Of the two wrong fields `path` is told, since its key comes first. -/
example : ofValue (.object [(grammarsKey, .array faultyItems)]) =
    .error (.misshapen (.wrongType (.integer 7) .string)) := by rfl

end GrammarPackages.Manifest
