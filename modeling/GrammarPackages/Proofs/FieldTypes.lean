import GrammarPackages.Proofs.ManifestFields

theorem List.findSome?_cons_eq_or {α β : Type} (g : α → Option β) (a : α) (l : List α) :
    (a :: l).findSome? g = (g a).or (l.findSome? g) := by
  rw [List.findSome?_cons]
  cases g a <;> rfl

namespace Except

variable {ε α β : Type} {x : Except ε α} {e : ε}

/-- What went wrong, if anything did. -/
def fault? : Except ε α → Option ε
  | .error e => some e
  | .ok _ => none

theorem fault?_eq_some_iff : x.fault? = some e ↔ x = .error e := by
  cases x <;> simp [fault?]

theorem fault?_eq_none_iff : x.fault? = none ↔ ∃ a, x = .ok a := by
  cases x <;> simp [fault?]

/-- Where only one thing can go wrong, it does when nothing is given. -/
theorem eq_error_iff_of_sole {e' : ε} (h : ∀ e, x = .error e → e = e') :
    x = .error e ↔ (∀ a, x ≠ .ok a) ∧ e = e' := by
  cases x with
  | ok a => simp
  | error e₀ =>
    obtain rfl := h e₀ rfl
    simp [eq_comm]

/-- Of two steps the first to fail counts, if what is wrong with the second does not hang on what
the first gives. -/
theorem fault?_bind {f : α → Except ε β} {o o' : Option ε} (hx : x.fault? = o)
    (hf : ∀ a, x = .ok a → (f a).fault? = o') : (x >>= f).fault? = o.or o' := by
  subst hx
  cases x with
  | error e => rfl
  | ok a => exact hf a rfl

theorem fault?_mapM (f : α → Except ε β) (l : List α) :
    (l.mapM f).fault? = l.findSome? (fun a ↦ (f a).fault?) := by
  induction l with
  | nil => rfl
  | cons a l ih =>
    rw [List.mapM_cons, List.findSome?_cons_eq_or, ← ih]
    refine fault?_bind rfl fun b _ ↦ ?_
    rw [← Option.or_none (o := (l.mapM f).fault?)]
    exact fault?_bind rfl fun bs _ ↦ rfl

end Except

namespace GrammarPackages.Manifest

open Json (Value)

/-- What the value of a field may be. -/
inductive FieldType
  | text
  | texts
  | textOrTexts
  | textOrNull
deriving DecidableEq

/-- The value is not of this type, and this is what is said of it. -/
inductive Mistyped : FieldType → Value → ShapeFault → Prop
  | text {v : Value} (h : ∀ s, v ≠ .string s) : Mistyped .text v (.wrongType v .string)
  | notArray {v : Value} (h : ∀ items, v ≠ .array items) :
      Mistyped .texts v (.wrongType v .sequence)
  /-- The first item that is no text. -/
  | item {texts : List String} {v : Value} {rest : List Value} (h : ∀ s, v ≠ .string s) :
      Mistyped .texts (.array (texts.map .string ++ v :: rest)) (.wrongType v .string)
  | textOrTexts {v : Value} (h : ∀ l, ¬ OneOrMany v l) : Mistyped .textOrTexts v .neitherOneNorMany
  | textOrNull {v : Value} (h : ∀ o, ¬ Nullable v o) :
      Mistyped .textOrNull v (.wrongType v .string)

section Types

variable {v : Value} {f : ShapeFault}

def FieldType.fault? : FieldType → Value → Option ShapeFault
  | text, v => (string v).fault?
  | texts, v => (strings v).fault?
  | textOrTexts, v => (oneOrMany v).fault?
  | textOrNull, v => (optionalString v).fault?

theorem string_eq_error_iff : string v = .error f ↔ Mistyped .text v f := by
  have hsole : ∀ e, string v = .error e → e = .wrongType v .string := by
    intro e he
    cases v <;> cases he <;> rfl
  rw [Except.eq_error_iff_of_sole hsole]
  simp only [ne_eq, string_eq_ok_iff]
  constructor
  · rintro ⟨h, rfl⟩
    exact .text h
  · rintro ⟨h⟩
    exact ⟨h, rfl⟩

theorem optionalString_eq_error_iff : optionalString v = .error f ↔ Mistyped .textOrNull v f := by
  have hsole : ∀ e, optionalString v = .error e → e = .wrongType v .string := by
    intro e he
    cases v <;> cases he <;> rfl
  rw [Except.eq_error_iff_of_sole hsole]
  simp only [ne_eq, optionalString_eq_ok_iff]
  constructor
  · rintro ⟨h, rfl⟩
    exact .textOrNull h
  · rintro (_ | _ | _ | _ | h)
    exact ⟨h, rfl⟩

theorem oneOrMany_eq_error_iff : oneOrMany v = .error f ↔ Mistyped .textOrTexts v f := by
  have hsole : ∀ e, oneOrMany v = .error e → e = .neitherOneNorMany := by
    intro e he
    cases v with
    | array items =>
      change (strings (.array items)).mapError _ = _ at he
      cases hitems : strings (.array items) <;> rw [hitems] at he <;> cases he
      rfl
    | _ => cases he <;> rfl
  rw [Except.eq_error_iff_of_sole hsole]
  simp only [ne_eq, oneOrMany_eq_ok_iff]
  constructor
  · rintro ⟨h, rfl⟩
    exact .textOrTexts h
  · rintro (_ | _ | _ | h | _)
    exact ⟨h, rfl⟩

theorem forall_string_iff {items : List Value} :
    (∀ item ∈ items, ∃ s, item = .string s) ↔ ∃ texts : List String, items = texts.map .string := by
  induction items with
  | nil => exact iff_of_true (fun _ h ↦ nomatch h) ⟨[], rfl⟩
  | cons v items ih =>
    rw [List.forall_mem_cons, ih]
    constructor
    · rintro ⟨⟨s, rfl⟩, texts, rfl⟩
      exact ⟨s :: texts, rfl⟩
    · rintro ⟨_ | ⟨s, texts⟩, h⟩
      · cases h
      · obtain ⟨rfl, rfl⟩ := List.cons.inj h
        exact ⟨⟨s, rfl⟩, texts, rfl⟩

theorem strings_array_eq_error_iff {items : List Value} :
    strings (.array items) = .error f ↔
      ∃ before v after, items = before ++ v :: after ∧
        (∀ item ∈ before, ∃ s, item = .string s) ∧ string v = .error f := by
  rw [strings, ← Except.fault?_eq_some_iff, Except.fault?_mapM, List.findSome?_eq_some_iff]
  simp only [Except.fault?_eq_some_iff, Except.fault?_eq_none_iff, string_eq_ok_iff]
  simp only [and_comm]

theorem strings_eq_error_iff : strings v = .error f ↔ Mistyped .texts v f := by
  constructor
  · intro h
    cases v with
    | array items =>
      obtain ⟨before, v, after, rfl, hbefore, hv⟩ := strings_array_eq_error_iff.1 h
      obtain ⟨texts, rfl⟩ := forall_string_iff.1 hbefore
      obtain ⟨hitem⟩ := string_eq_error_iff.1 hv
      exact .item hitem
    | _ =>
      obtain rfl := Except.error.inj h
      exact .notArray (by simp)
  · intro h
    generalize hty : FieldType.texts = type at h
    cases h with
    | notArray h =>
      cases v with
      | array items => exact absurd rfl (h items)
      | _ => rfl
    | item h =>
      exact strings_array_eq_error_iff.2
        ⟨_, _, _, rfl, forall_string_iff.2 ⟨_, rfl⟩, string_eq_error_iff.2 (.text h)⟩
    | _ => cases hty

theorem mistyped_iff {type : FieldType} : Mistyped type v f ↔ type.fault? v = some f := by
  cases type with
  | text => rw [FieldType.fault?, Except.fault?_eq_some_iff, string_eq_error_iff]
  | texts => rw [FieldType.fault?, Except.fault?_eq_some_iff, strings_eq_error_iff]
  | textOrTexts => rw [FieldType.fault?, Except.fault?_eq_some_iff, oneOrMany_eq_error_iff]
  | textOrNull => rw [FieldType.fault?, Except.fault?_eq_some_iff, optionalString_eq_error_iff]

end Types

end GrammarPackages.Manifest
