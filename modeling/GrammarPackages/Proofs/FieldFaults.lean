import GrammarPackages.Proofs.FieldTypes

namespace GrammarPackages.Manifest

open Json (Value Last Absent)

/-- The fields of a declaration in their order by position. -/
def fieldTypes : List (String × FieldType) :=
  [("scope", .text), ("file-types", .texts), ("path", .text), ("highlights", .textOrTexts),
    ("locals", .textOrTexts), ("injections", .text), ("injection-regex", .textOrNull),
    ("content-regex", .textOrNull)]

/-- The fields that an object must have, in the order in which they are missed. -/
def requiredKeys : List String := ["scope", "file-types", "path"]

/-- The fields that a list may end before. -/
def defaultedKeys : List String := ["highlights", "locals", "injections"]

/-- The bytes by which keys are ordered. -/
def bytes (key : String) : List UInt8 := key.toUTF8.data.toList

section Search

variable {α β : Type} {g : α → Option β} {l : List α} {b : β}

theorem findSome?_eq_none_iff_forall_ne :
    l.findSome? g = none ↔ ∀ a ∈ l, ∀ b, g a ≠ some b := by
  rw [List.findSome?_eq_none_iff]
  simp only [Option.eq_none_iff_forall_ne_some]

/-- In a sorted list the first to give something is the least to do so. -/
theorem findSome?_eq_some_iff_of_pairwise {r : α → α → Prop}
    (hasymm : ∀ a a', r a a' → ¬ r a' a) (hl : l.Pairwise r) :
    l.findSome? g = some b ↔
      ∃ a ∈ l, g a = some b ∧ ∀ a' ∈ l, ∀ b', g a' = some b' → ¬ r a' a := by
  induction hl with
  | nil => simp
  | @cons a l ha _ ih =>
    rw [List.findSome?_cons]
    cases hga : g a with
    | none => simp [ih, hga]
    | some c =>
      constructor
      · intro h
        obtain rfl := Option.some.inj h
        refine ⟨a, List.mem_cons_self, hga, fun a' ha' _ _ ↦ ?_⟩
        rcases List.mem_cons.1 ha' with rfl | ha'
        · exact fun hr ↦ hasymm _ _ hr hr
        · exact hasymm _ _ (ha a' ha')
      · rintro ⟨a', ha', hb, hleast⟩
        rcases List.mem_cons.1 ha' with rfl | ha'
        · exact hga.symm.trans hb
        · exact absurd (ha a' ha') (hleast a List.mem_cons_self c hga)

end Search

section Members

variable {members : List (String × Value)} {key : String} {f : ShapeFault}

/-- The value that counts for this field is of the wrong type. -/
def WrongMember (members : List (String × Value)) (key : String) (f : ShapeFault) : Prop :=
  ∃ type v, (key, type) ∈ fieldTypes ∧ Last members key v ∧ Mistyped type v f

/-- What is wrong with an object: the field of the wrong type whose key comes first byte by byte,
or else the first field that is missing. -/
inductive MembersFault (members : List (String × Value)) : ShapeFault → Prop
  | mistyped {key : String} {f : ShapeFault} (h : WrongMember members key f)
      (hleast : ∀ key' f', WrongMember members key' f' → bytes key ≤ bytes key') :
      MembersFault members f
  | missing {key : String} {before after : List String}
      (hwell : ∀ key f, ¬ WrongMember members key f)
      (hkeys : requiredKeys = before ++ key :: after)
      (hbefore : ∀ key' ∈ before, ¬ Absent members key') (h : Absent members key) :
      MembersFault members (.missing key)

def memberFault? (members : List (String × Value)) (field : String × FieldType) :
    Option ShapeFault :=
  (Json.member? members field.1).bind field.2.fault?

def missing? (members : List (String × Value)) (key : String) : Option ShapeFault :=
  (Json.member? members key).elim (some (.missing key)) (fun _ ↦ none)

/-- The fields in the order of their keys. -/
def fieldsByKey : List (String × FieldType) :=
  [("content-regex", .textOrNull), ("file-types", .texts), ("highlights", .textOrTexts),
    ("injection-regex", .textOrNull), ("injections", .text), ("locals", .textOrTexts),
    ("path", .text), ("scope", .text)]

theorem fault?_field? {α : Type} (decode : Value → Except ShapeFault α) :
    (field? members key decode).fault? =
      (Json.member? members key).bind (fun v ↦ (decode v).fault?) := by
  rw [field?]
  cases Json.member? members key with
  | none => rfl
  | some v =>
    change ((decode v).map some).fault? = (decode v).fault?
    cases decode v <;> rfl

theorem fault?_require {α : Type} {decode : Value → Except ShapeFault α} {o : Option α}
    (h : field? members key decode = .ok o) : (require key o).fault? = missing? members key := by
  rw [field?] at h
  rw [missing?]
  cases hv : Json.member? members key with
  | none =>
    rw [hv] at h
    cases h
    rfl
  | some v =>
    rw [hv] at h
    obtain ⟨a, -, rfl⟩ := Except.map_eq_ok_iff.1 h
    rfl

theorem fault?_ofMembers :
    (Declaration.ofMembers members).fault? =
      (fieldsByKey.findSome? (memberFault? members)).or
        (requiredKeys.findSome? (missing? members)) := by
  unfold Declaration.ofMembers
  simp only [fieldsByKey, requiredKeys, List.findSome?_cons_eq_or, List.findSome?_nil,
    Option.or_assoc, Option.none_or]
  -- every value that is there is looked at before one that is not is missed
  refine Except.fault?_bind (fault?_field? optionalString) fun contentRegex _ ↦ ?_
  refine Except.fault?_bind (fault?_field? strings) fun fileTypes hfileTypes ↦ ?_
  refine Except.fault?_bind (fault?_field? oneOrMany) fun highlights _ ↦ ?_
  refine Except.fault?_bind (fault?_field? optionalString) fun injectionRegex _ ↦ ?_
  refine Except.fault?_bind (fault?_field? string) fun injections _ ↦ ?_
  refine Except.fault?_bind (fault?_field? oneOrMany) fun locals _ ↦ ?_
  refine Except.fault?_bind (fault?_field? string) fun path hpath ↦ ?_
  refine Except.fault?_bind (fault?_field? string) fun scope hscope ↦ ?_
  refine Except.fault?_bind (fault?_require hscope) fun _ _ ↦ ?_
  refine Except.fault?_bind (fault?_require hfileTypes) fun _ _ ↦ ?_
  refine Except.fault?_bind (fault?_require hpath) fun _ _ ↦ ?_
  rfl

theorem wrongMember_iff :
    WrongMember members key f ↔ ∃ type, (key, type) ∈ fieldTypes ∧
      memberFault? members (key, type) = some f := by
  simp only [WrongMember, memberFault?, Option.bind_eq_some_iff, Json.member?_eq_some_iff,
    mistyped_iff]
  simp only [exists_and_left]

theorem mem_fieldsByKey_iff {field : String × FieldType} :
    field ∈ fieldsByKey ↔ field ∈ fieldTypes := by
  have hperm : fieldsByKey.Perm fieldTypes := by decide
  exact hperm.mem_iff

theorem pairwise_fieldsByKey : fieldsByKey.Pairwise (fun a b ↦ bytes a.1 < bytes b.1) := by
  decide

theorem findSome?_fieldsByKey_eq_some_iff :
    fieldsByKey.findSome? (memberFault? members) = some f ↔
      ∃ key, WrongMember members key f ∧
        ∀ key' f', WrongMember members key' f' → bytes key ≤ bytes key' := by
  rw [findSome?_eq_some_iff_of_pairwise (fun _ _ ↦ List.lt_asymm) pairwise_fieldsByKey]
  simp only [mem_fieldsByKey_iff, wrongMember_iff]
  constructor
  · rintro ⟨⟨key, type⟩, hfield, hf, hleast⟩
    refine ⟨key, ⟨type, hfield, hf⟩, ?_⟩
    rintro key' f' ⟨type', hfield', hf'⟩
    exact hleast _ hfield' f' hf'
  · rintro ⟨key, ⟨type, hfield, hf⟩, hleast⟩
    refine ⟨(key, type), hfield, hf, ?_⟩
    rintro ⟨key', type'⟩ hfield' f' hf'
    exact hleast key' f' ⟨type', hfield', hf'⟩

theorem findSome?_fieldsByKey_eq_none_iff :
    fieldsByKey.findSome? (memberFault? members) = none ↔ ∀ key f, ¬ WrongMember members key f := by
  rw [findSome?_eq_none_iff_forall_ne]
  simp only [mem_fieldsByKey_iff, wrongMember_iff]
  constructor
  · rintro h key f ⟨type, hfield, hf⟩
    exact h _ hfield f hf
  · rintro h ⟨key, type⟩ hfield f hf
    exact h key f ⟨type, hfield, hf⟩

theorem missing?_eq_some_iff :
    missing? members key = some f ↔ Absent members key ∧ f = .missing key := by
  rw [missing?, ← Json.member?_eq_none_iff]
  cases Json.member? members key <;> simp [eq_comm]

theorem missing?_eq_none_iff : missing? members key = none ↔ ¬ Absent members key := by
  rw [missing?, ← Json.member?_eq_none_iff]
  cases Json.member? members key <;> simp

theorem ofMembers_eq_error_iff :
    Declaration.ofMembers members = .error f ↔ MembersFault members f := by
  rw [← Except.fault?_eq_some_iff, fault?_ofMembers, Option.or_eq_some_iff,
    findSome?_fieldsByKey_eq_some_iff, findSome?_fieldsByKey_eq_none_iff,
    List.findSome?_eq_some_iff]
  simp only [missing?_eq_some_iff, missing?_eq_none_iff]
  constructor
  · rintro (⟨key, h, hleast⟩ | ⟨hwell, before, key, after, hkeys, ⟨habsent, rfl⟩, hbefore⟩)
    · exact .mistyped h hleast
    · exact .missing hwell hkeys hbefore habsent
  · rintro (⟨h, hleast⟩ | ⟨hwell, hkeys, hbefore, habsent⟩)
    · exact .inl ⟨_, h, hleast⟩
    · exact .inr ⟨hwell, _, _, _, hkeys, ⟨habsent, rfl⟩, hbefore⟩

end Members

section Items

variable {items : List Value} {i : Nat} {f : ShapeFault}

/-- The item at this position is of the wrong type for its field. -/
def WrongItem (items : List Value) (i : Nat) (f : ShapeFault) : Prop :=
  ∃ key type v, fieldTypes[i]? = some (key, type) ∧ items[i]? = some v ∧ Mistyped type v f

/-- The list ends before the field of this position, which has no default. -/
def EndsBefore (items : List Value) (i : Nat) : Prop :=
  items.length ≤ i ∧ ∃ key type, fieldTypes[i]? = some (key, type) ∧ key ∉ defaultedKeys

/-- What is wrong with a list of fields: the first of the wrong type, or else the length. -/
inductive ItemsFault (items : List Value) : ShapeFault → Prop
  | mistyped {i : Nat} {f : ShapeFault} (h : WrongItem items i f)
      (hfirst : ∀ j f', WrongItem items j f' → i ≤ j) : ItemsFault items f
  | tooShort {i : Nat} (hwell : ∀ j f, ¬ WrongItem items j f) (h : EndsBefore items i)
      (hfirst : ∀ j, EndsBefore items j → i ≤ j) : ItemsFault items (.tooShort i)
  | tooLong (hwell : ∀ j f, ¬ WrongItem items j f) (h : 8 < items.length) :
      ItemsFault items (.tooLong items.length)

def itemFault? (items : List Value) (place : (String × FieldType) × Nat) : Option ShapeFault :=
  items[place.2]?.elim (if place.1.1 ∈ defaultedKeys then none else some (.tooShort place.2))
    place.1.2.fault?

theorem fault?_item {α : Type} (decode : Value → Except ShapeFault α) :
    (item items i decode).fault? =
      items[i]?.elim (some (.tooShort i)) (fun v ↦ (decode v).fault?) := by
  rw [item]
  cases items[i]? <;> rfl

theorem fault?_itemD {α : Type} (decode : Value → Except ShapeFault α) (default : α) :
    (itemD items i decode default).fault? = items[i]?.elim none (fun v ↦ (decode v).fault?) := by
  rw [itemD]
  cases items[i]? <;> rfl

theorem fault?_ofItems :
    (Declaration.ofItems items).fault? =
      (fieldTypes.zipIdx.findSome? (itemFault? items)).or
        (if 8 < items.length then some (.tooLong items.length) else none) := by
  unfold Declaration.ofItems
  simp only [fieldTypes, List.zipIdx_cons, List.zipIdx_nil, List.findSome?_cons_eq_or,
    List.findSome?_nil, Option.or_assoc, Option.none_or]
  refine Except.fault?_bind (fault?_item string) fun scope _ ↦ ?_
  refine Except.fault?_bind (fault?_item strings) fun fileTypes _ ↦ ?_
  refine Except.fault?_bind (fault?_item string) fun path _ ↦ ?_
  refine Except.fault?_bind (fault?_itemD oneOrMany []) fun highlights _ ↦ ?_
  refine Except.fault?_bind (fault?_itemD oneOrMany []) fun locals _ ↦ ?_
  refine Except.fault?_bind (fault?_itemD string "") fun injections _ ↦ ?_
  refine Except.fault?_bind (fault?_item optionalString) fun injectionRegex _ ↦ ?_
  refine Except.fault?_bind (fault?_item optionalString) fun contentRegex _ ↦ ?_
  split <;> rfl

/-- This position gives a fault, as an item or for want of one. -/
def FaultyAt (items : List Value) (i : Nat) (f : ShapeFault) : Prop :=
  ∃ field, fieldTypes[i]? = some field ∧ itemFault? items (field, i) = some f

theorem faultyAt_iff : FaultyAt items i f ↔
    WrongItem items i f ∨ EndsBefore items i ∧ f = .tooShort i := by
  cases hi : items[i]? with
  | some v =>
    have hlt : i < items.length := (List.getElem?_eq_some_iff.1 hi).1
    constructor
    · rintro ⟨⟨key, type⟩, hfield, hf⟩
      rw [itemFault?, hi] at hf
      exact .inl ⟨key, type, v, hfield, hi, mistyped_iff.2 hf⟩
    · rintro (⟨key, type, v', hfield, hv', hf⟩ | ⟨⟨hle, -⟩, -⟩)
      · refine ⟨(key, type), hfield, ?_⟩
        rw [itemFault?, hv']
        exact mistyped_iff.1 hf
      · omega
  | none =>
    have hle : items.length ≤ i := List.getElem?_eq_none_iff.1 hi
    constructor
    · rintro ⟨⟨key, type⟩, hfield, hf⟩
      rw [itemFault?, hi, Option.elim_none] at hf
      split at hf
      · cases hf
      · next hkey => exact .inr ⟨⟨hle, key, type, hfield, hkey⟩, (Option.some.inj hf).symm⟩
    · rintro (⟨key, type, v, -, hv, -⟩ | ⟨⟨-, key, type, hfield, hkey⟩, rfl⟩)
      · rw [hi] at hv
        cases hv
      · refine ⟨(key, type), hfield, ?_⟩
        rw [itemFault?, hi, Option.elim_none, if_neg hkey]

theorem FaultyAt.lt (h : FaultyAt items i f) : i < 8 := by
  obtain ⟨_, hfield, -⟩ := h
  exact (List.getElem?_eq_some_iff.1 hfield).1

theorem pairwise_zipIdx_fieldTypes : fieldTypes.zipIdx.Pairwise (fun a b ↦ a.2 < b.2) := by
  decide

theorem findSome?_zipIdx_eq_some_iff :
    fieldTypes.zipIdx.findSome? (itemFault? items) = some f ↔
      ∃ i, FaultyAt items i f ∧ ∀ j f', FaultyAt items j f' → i ≤ j := by
  rw [findSome?_eq_some_iff_of_pairwise (fun _ _ ↦ Nat.lt_asymm) pairwise_zipIdx_fieldTypes]
  constructor
  · rintro ⟨⟨field, i⟩, hfield, hf, hfirst⟩
    refine ⟨i, ⟨field, List.mk_mem_zipIdx_iff_getElem?.1 hfield, hf⟩, ?_⟩
    rintro j f' ⟨field', hfield', hf'⟩
    exact Nat.le_of_not_lt (hfirst _ (List.mk_mem_zipIdx_iff_getElem?.2 hfield') f' hf')
  · rintro ⟨i, ⟨field, hfield, hf⟩, hfirst⟩
    refine ⟨(field, i), List.mk_mem_zipIdx_iff_getElem?.2 hfield, hf, ?_⟩
    rintro ⟨field', j⟩ hfield' f' hf'
    have hj := hfirst j f' ⟨field', List.mk_mem_zipIdx_iff_getElem?.1 hfield', hf'⟩
    exact Nat.not_lt.2 hj

theorem findSome?_zipIdx_eq_none_iff :
    fieldTypes.zipIdx.findSome? (itemFault? items) = none ↔ ∀ i f, ¬ FaultyAt items i f := by
  rw [findSome?_eq_none_iff_forall_ne]
  constructor
  · rintro h i f ⟨field, hfield, hf⟩
    exact h _ (List.mk_mem_zipIdx_iff_getElem?.2 hfield) f hf
  · rintro h ⟨field, i⟩ hfield f hf
    exact h i f ⟨field, List.mk_mem_zipIdx_iff_getElem?.1 hfield, hf⟩

theorem WrongItem.lt (h : WrongItem items i f) : i < items.length := by
  obtain ⟨_, _, _, _, hv, _⟩ := h
  exact (List.getElem?_eq_some_iff.1 hv).1

theorem ItemsFault.of_faultyAt (h : FaultyAt items i f)
    (hfirst : ∀ j f', FaultyAt items j f' → i ≤ j) : ItemsFault items f := by
  rcases faultyAt_iff.1 h with hwrong | ⟨hend, rfl⟩
  · exact .mistyped hwrong fun j f' h' ↦ hfirst j f' (faultyAt_iff.2 (.inl h'))
  · refine .tooShort (fun j f' h' ↦ ?_) hend fun j h' ↦
      hfirst j _ (faultyAt_iff.2 (.inr ⟨h', rfl⟩))
    -- an item of the wrong type would stand before the end
    have hle := hfirst j f' (faultyAt_iff.2 (.inl h'))
    exact absurd (Nat.le_trans hend.1 hle) (Nat.not_le.2 h'.lt)

theorem ofItems_eq_error_iff : Declaration.ofItems items = .error f ↔ ItemsFault items f := by
  rw [← Except.fault?_eq_some_iff, fault?_ofItems, Option.or_eq_some_iff,
    findSome?_zipIdx_eq_some_iff, findSome?_zipIdx_eq_none_iff]
  constructor
  · rintro (⟨i, h, hfirst⟩ | ⟨hnone, hlong⟩)
    · exact .of_faultyAt h hfirst
    · split at hlong
      · next hlen =>
        obtain rfl := Option.some.inj hlong
        exact .tooLong (fun j f' h ↦ hnone j f' (faultyAt_iff.2 (.inl h))) hlen
      · cases hlong
  · rintro (⟨h, hfirst⟩ | ⟨hwell, h, hfirst⟩ | ⟨hwell, hlong⟩)
    · refine .inl ⟨_, faultyAt_iff.2 (.inl h), fun j f' h' ↦ ?_⟩
      rcases faultyAt_iff.1 h' with h' | ⟨h', -⟩
      · exact hfirst j f' h'
      · exact Nat.le_of_lt (Nat.lt_of_lt_of_le h.lt h'.1)
    · refine .inl ⟨_, faultyAt_iff.2 (.inr ⟨h, rfl⟩), fun j f' h' ↦ ?_⟩
      rcases faultyAt_iff.1 h' with h' | ⟨h', -⟩
      · exact absurd h' (hwell j f')
      · exact hfirst j h'
    · refine .inr ⟨fun j f' h ↦ ?_, if_pos hlong⟩
      have hlt := h.lt
      rcases faultyAt_iff.1 h with h | ⟨⟨hle, -⟩, -⟩
      · exact hwell j f' h
      · omega

end Items

end GrammarPackages.Manifest
