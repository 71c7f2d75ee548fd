import Mathlib.Data.List.Forall2
import GrammarPackages.Manifest.Decode

namespace Except

variable {ε ε' α β : Type}

theorem bind_eq_ok_iff {x : Except ε α} {f : α → Except ε β} {b : β} :
    x >>= f = .ok b ↔ ∃ a, x = .ok a ∧ f a = .ok b := by
  cases x with
  | error e => simp [bind, Except.bind]
  | ok a => simp [bind, Except.bind]

theorem map_eq_ok_iff {x : Except ε α} {f : α → β} {b : β} :
    x.map f = .ok b ↔ ∃ a, x = .ok a ∧ f a = b := by
  cases x with
  | error e => simp [Except.map]
  | ok a => simp [Except.map]

theorem mapError_eq_ok_iff {x : Except ε α} {f : ε → ε'} {a : α} :
    x.mapError f = .ok a ↔ x = .ok a := by
  cases x with
  | error e => simp [Except.mapError]
  | ok a => simp [Except.mapError]

theorem mapM_eq_ok_iff {f : α → Except ε β} {l : List α} {m : List β} :
    l.mapM f = .ok m ↔ List.Forall₂ (fun a b ↦ f a = .ok b) l m := by
  induction l generalizing m with
  | nil => cases m <;> simp [pure, Except.pure]
  | cons a l ih =>
    rw [List.mapM_cons]
    simp only [bind_eq_ok_iff, ih]
    constructor
    · rintro ⟨b, hb, m', hm', he⟩
      obtain rfl := Except.ok.inj he
      exact .cons hb hm'
    · rintro (_ | ⟨hb, hm'⟩)
      exact ⟨_, hb, _, hm', rfl⟩

end Except

namespace GrammarPackages

namespace Json

variable {members members' : List (String × Value)} {key : String} {v : Value}

/-- The last member of this key has this value. -/
def Last (members : List (String × Value)) (key : String) (v : Value) : Prop :=
  ∃ before after, members = before ++ (key, v) :: after ∧ ∀ m ∈ after, m.1 ≠ key

def Absent (members : List (String × Value)) (key : String) : Prop := ∀ m ∈ members, m.1 ≠ key

theorem member?_eq_some_iff : member? members key = some v ↔ Last members key v := by
  rw [member?, List.lookup_eq_some_iff]
  constructor
  · rintro ⟨after, before, hrev, hafter⟩
    refine ⟨before.reverse, after.reverse, ?_, fun m hm ↦ ?_⟩
    · rw [← List.reverse_reverse members, hrev]
      simp
    · exact (bne_iff_ne.1 (hafter m (List.mem_reverse.1 hm))).symm
  · rintro ⟨before, after, rfl, hafter⟩
    refine ⟨after.reverse, before.reverse, by simp, fun m hm ↦ ?_⟩
    exact bne_iff_ne.2 (hafter m (List.mem_reverse.1 hm)).symm

theorem member?_eq_none_iff : member? members key = none ↔ Absent members key := by
  rw [member?, ← Option.not_isSome_iff_eq_none, List.lookup_isSome_iff]
  constructor
  · intro h m hm he
    exact h ⟨m, List.mem_reverse.2 hm, beq_iff_eq.2 he.symm⟩
  · rintro h ⟨m, hm, he⟩
    exact h m (List.mem_reverse.1 hm) (beq_iff_eq.1 he).symm

theorem member?_congr (h : ∀ v, Last members key v ↔ Last members' key v) :
    member? members key = member? members' key := by
  refine Option.ext fun v ↦ ?_
  rw [member?_eq_some_iff, member?_eq_some_iff, h v]

theorem last_of_mem (hnodup : (members.map Prod.fst).Nodup) (h : (key, v) ∈ members) :
    Last members key v := by
  obtain ⟨before, after, rfl⟩ := List.append_of_mem h
  refine ⟨before, after, rfl, fun m hm he ↦ ?_⟩
  rw [List.map_append, List.map_cons] at hnodup
  obtain ⟨habsent, -⟩ := List.nodup_cons.1 (List.nodup_append.1 hnodup).2.1
  exact habsent (List.mem_map.2 ⟨m, hm, he⟩)

end Json

namespace Manifest

open Json (Value Last Absent)

/-- A lone string stands for a list of one. -/
inductive OneOrMany : Value → List String → Prop
  | one (s : String) : OneOrMany (.string s) [s]
  | many (l : List String) : OneOrMany (.array (l.map .string)) l

inductive Nullable : Value → Option String → Prop
  | null : Nullable .null none
  | string (s : String) : Nullable (.string s) (some s)

/-- What a member of this key holds, or else the default. -/
inductive Given {α : Type} (members : List (String × Value)) (key : String) (default : α)
    (Holds : Value → α → Prop) : α → Prop
  | absent (h : Absent members key) : Given members key default Holds default
  | present {v : Value} {a : α} (h : Last members key v) (ha : Holds v a) :
      Given members key default Holds a

/-- The members spell the declaration, whatever other members there are. -/
structure SpelledBy (members : List (String × Value)) (d : Declaration) : Prop where
  scope : Last members "scope" (.string d.scope)
  fileTypes : Last members "file-types" (.array (d.fileTypes.map .string))
  path : Last members "path" (.string d.path)
  highlights : Given members "highlights" [] OneOrMany d.highlights
  locals : Given members "locals" [] OneOrMany d.locals
  injections : Given members "injections" "" (fun v s ↦ v = .string s) d.injections
  injectionRegex : Given members "injection-regex" none Nullable d.injectionRegex
  contentRegex : Given members "content-regex" none Nullable d.contentRegex

/-- The value spells the declaration, by keys or by position. -/
inductive Spells : Value → Declaration → Prop
  | object {members : List (String × Value)} {d : Declaration} (h : SpelledBy members d) :
      Spells (.object members) d
  | array {d : Declaration} {highlights locals injectionRegex contentRegex : Value}
      (hh : OneOrMany highlights d.highlights) (hl : OneOrMany locals d.locals)
      (hi : Nullable injectionRegex d.injectionRegex)
      (hc : Nullable contentRegex d.contentRegex) :
      Spells (.array [.string d.scope, .array (d.fileTypes.map .string), .string d.path,
        highlights, locals, .string d.injections, injectionRegex, contentRegex]) d

section Decoders

variable {v : Value} {l : List String}

theorem string_eq_ok_iff {s : String} : string v = .ok s ↔ v = .string s := by
  cases v <;> simp [string]

theorem optionalString_eq_ok_iff {o : Option String} :
    optionalString v = .ok o ↔ Nullable v o := by
  constructor
  · intro h
    cases v with
    | null =>
      obtain rfl := Except.ok.inj h
      exact .null
    | string s =>
      obtain rfl := Except.ok.inj h
      exact .string s
    | _ => cases h
  · rintro (_ | s) <;> rfl

theorem strings_eq_ok_iff : strings v = .ok l ↔ v = .array (l.map .string) := by
  cases v with
  | array items =>
    have hitems : List.Forall₂ (fun v s ↦ v = Value.string s) items l ↔
        items = l.map .string := by
      rw [← List.forall₂_eq_eq_eq, List.forall₂_map_right_iff]
    simp only [strings, Except.mapM_eq_ok_iff, string_eq_ok_iff, hitems, Value.array.injEq]
  | _ => simp [strings]

theorem oneOrMany_eq_ok_iff : oneOrMany v = .ok l ↔ OneOrMany v l := by
  constructor
  · intro h
    cases v with
    | string s =>
      obtain rfl := Except.ok.inj h
      exact .one s
    | array items =>
      rw [oneOrMany, Except.mapError_eq_ok_iff, strings_eq_ok_iff] at h
      · rw [h]
        exact .many l
      · simp
    | _ => cases h
  · rintro (s | l)
    · rfl
    · rw [oneOrMany, Except.mapError_eq_ok_iff, strings_eq_ok_iff]
      simp

end Decoders

section Members

variable {members members' : List (String × Value)} {key : String} {d : Declaration}
variable {α : Type} {decode : Value → Except ShapeFault α} {Holds : Value → α → Prop}

theorem field?_eq_ok_iff {o : Option α} (hdecode : ∀ v a, decode v = .ok a ↔ Holds v a) :
    field? members key decode = .ok o ↔ (Absent members key ∧ o = none) ∨
      ∃ v a, Last members key v ∧ Holds v a ∧ o = some a := by
  rw [field?, ← Json.member?_eq_none_iff]
  simp only [← Json.member?_eq_some_iff, ← hdecode]
  cases Json.member? members key with
  | none => simp [eq_comm]
  | some v =>
    have hmap : (decode v).map some = .ok o ↔ ∃ a, decode v = .ok a ∧ o = some a := by
      simp only [Except.map_eq_ok_iff, eq_comm (a := o)]
    simpa using hmap

theorem exists_field?_require_iff (hdecode : ∀ v a, decode v = .ok a ↔ Holds v a) {a : α} :
    (∃ o, field? members key decode = .ok o ∧ require key o = .ok a) ↔
      ∃ v, Last members key v ∧ Holds v a := by
  have hrequire : ∀ o : Option α, require key o = .ok a ↔ o = some a := by
    intro o
    cases o <;> simp [require]
  simp only [hrequire, exists_eq_right, field?_eq_ok_iff hdecode]
  simp

theorem exists_field?_getD_iff (hdecode : ∀ v a, decode v = .ok a ↔ Holds v a) {default a : α} :
    (∃ o, field? members key decode = .ok o ∧ o.getD default = a) ↔
      Given members key default Holds a := by
  simp only [field?_eq_ok_iff hdecode]
  constructor
  · rintro ⟨o, ⟨h, rfl⟩ | ⟨v, b, h, hb, rfl⟩, rfl⟩
    · exact .absent h
    · exact .present h hb
  · rintro (h | ⟨h, ha⟩)
    · exact ⟨none, .inl ⟨h, rfl⟩, rfl⟩
    · exact ⟨some a, .inr ⟨_, a, h, ha, rfl⟩, rfl⟩

theorem exists_field?_join_iff {β : Type} {decode : Value → Except ShapeFault (Option β)}
    {Holds : Value → Option β → Prop} (hdecode : ∀ v a, decode v = .ok a ↔ Holds v a)
    {a : Option β} :
    (∃ o, field? members key decode = .ok o ∧ o.join = a) ↔ Given members key none Holds a := by
  rw [← exists_field?_getD_iff hdecode]
  refine exists_congr fun o ↦ and_congr_right fun _ ↦ ?_
  cases o <;> rfl

theorem ofMembers_eq_ok_iff : Declaration.ofMembers members = .ok d ↔ SpelledBy members d := by
  have hstring : ∀ v s, string v = .ok s ↔ v = .string s := fun _ _ ↦ string_eq_ok_iff
  have hstrings : ∀ v l, strings v = .ok l ↔ v = .array (l.map .string) :=
    fun _ _ ↦ strings_eq_ok_iff
  have hmany : ∀ v l, oneOrMany v = .ok l ↔ OneOrMany v l := fun _ _ ↦ oneOrMany_eq_ok_iff
  have hoptional : ∀ v o, optionalString v = .ok o ↔ Nullable v o :=
    fun _ _ ↦ optionalString_eq_ok_iff
  simp only [Declaration.ofMembers, Except.bind_eq_ok_iff]
  constructor
  · rintro ⟨contentRegex, hc, fileTypes, hf, highlights, hh, injectionRegex, hr, injections, hi,
      locals, hl, path, hp, scope, hs, scope', hs', fileTypes', hf', path', hp', he⟩
    obtain rfl := Except.ok.inj he
    obtain ⟨_, hscope, rfl⟩ := (exists_field?_require_iff hstring).1 ⟨_, hs, hs'⟩
    obtain ⟨_, hfileTypes, rfl⟩ := (exists_field?_require_iff hstrings).1 ⟨_, hf, hf'⟩
    obtain ⟨_, hpath, rfl⟩ := (exists_field?_require_iff hstring).1 ⟨_, hp, hp'⟩
    exact {
      scope := hscope
      fileTypes := hfileTypes
      path := hpath
      highlights := (exists_field?_getD_iff hmany).1 ⟨_, hh, rfl⟩
      locals := (exists_field?_getD_iff hmany).1 ⟨_, hl, rfl⟩
      injections := (exists_field?_getD_iff hstring).1 ⟨_, hi, rfl⟩
      injectionRegex := (exists_field?_join_iff hoptional).1 ⟨_, hr, rfl⟩
      contentRegex := (exists_field?_join_iff hoptional).1 ⟨_, hc, rfl⟩ }
  · intro h
    obtain ⟨scope, hs, hs'⟩ := (exists_field?_require_iff hstring).2 ⟨_, h.scope, rfl⟩
    obtain ⟨fileTypes, hf, hf'⟩ := (exists_field?_require_iff hstrings).2 ⟨_, h.fileTypes, rfl⟩
    obtain ⟨path, hp, hp'⟩ := (exists_field?_require_iff hstring).2 ⟨_, h.path, rfl⟩
    obtain ⟨highlights, hh, hh'⟩ := (exists_field?_getD_iff hmany).2 h.highlights
    obtain ⟨locals, hl, hl'⟩ := (exists_field?_getD_iff hmany).2 h.locals
    obtain ⟨injections, hi, hi'⟩ := (exists_field?_getD_iff hstring).2 h.injections
    obtain ⟨injectionRegex, hr, hr'⟩ := (exists_field?_join_iff hoptional).2 h.injectionRegex
    obtain ⟨contentRegex, hc, hc'⟩ := (exists_field?_join_iff hoptional).2 h.contentRegex
    refine ⟨contentRegex, hc, fileTypes, hf, highlights, hh, injectionRegex, hr, injections, hi,
      locals, hl, path, hp, scope, hs, _, hs', _, hf', _, hp', ?_⟩
    rw [hh', hl', hi', hr', hc']
    rfl

/-- Members of other keys do not count, and of a repeated key only the last one does. -/
def fieldKeys : List String :=
  ["scope", "file-types", "path", "highlights", "locals", "injections", "injection-regex",
    "content-regex"]

theorem ofMembers_congr
    (h : ∀ key ∈ fieldKeys, ∀ v, Last members key v ↔ Last members' key v) :
    Declaration.ofMembers members = Declaration.ofMembers members' := by
  have hfield : ∀ key ∈ fieldKeys, ∀ {β : Type} (decode : Value → Except ShapeFault β),
      field? members key decode = field? members' key decode := by
    intro key hkey β decode
    rw [field?, field?, Json.member?_congr (h key hkey)]
  simp only [Declaration.ofMembers]
  rw [hfield "content-regex" (by decide), hfield "file-types" (by decide),
    hfield "highlights" (by decide), hfield "injection-regex" (by decide),
    hfield "injections" (by decide), hfield "locals" (by decide), hfield "path" (by decide),
    hfield "scope" (by decide)]

end Members

section Items

variable {items : List Value} {d : Declaration}

theorem item_eq_ok_iff {α : Type} {i : Nat} {decode : Value → Except ShapeFault α} {a : α} :
    item items i decode = .ok a ↔ ∃ v, items[i]? = some v ∧ decode v = .ok a := by
  rw [item]
  cases items[i]? with
  | none => simp
  | some v => simp

theorem length_eq_of_ofItems (h : Declaration.ofItems items = .ok d) : items.length = 8 := by
  simp only [Declaration.ofItems, Except.bind_eq_ok_iff] at h
  -- the eighth item is asked for, and a ninth is refused
  obtain ⟨_, _, _, _, _, _, _, _, _, _, _, _, _, _, _, hlast, hend⟩ := h
  obtain ⟨v, hv, -⟩ := item_eq_ok_iff.1 hlast
  obtain ⟨hlt, -⟩ := List.getElem?_eq_some_iff.1 hv
  by_cases hlong : 8 < items.length
  · rw [if_pos hlong] at hend
    cases hend
  · omega

theorem ofItems_eq_ok_iff {a b c e f g i j : Value} :
    Declaration.ofItems [a, b, c, e, f, g, i, j] = .ok d ↔
      a = .string d.scope ∧ b = .array (d.fileTypes.map .string) ∧ c = .string d.path ∧
        OneOrMany e d.highlights ∧ OneOrMany f d.locals ∧ g = .string d.injections ∧
        Nullable i d.injectionRegex ∧ Nullable j d.contentRegex := by
  simp only [← string_eq_ok_iff, ← strings_eq_ok_iff, ← oneOrMany_eq_ok_iff,
    ← optionalString_eq_ok_iff]
  simp only [Declaration.ofItems, Except.bind_eq_ok_iff, item, itemD]
  constructor
  · rintro ⟨_, ha, _, hb, _, hc, _, he, _, hf, _, hg, _, hi, _, hj, hend⟩
    obtain rfl := Except.ok.inj hend
    exact ⟨ha, hb, hc, he, hf, hg, hi, hj⟩
  · rintro ⟨ha, hb, hc, he, hf, hg, hi, hj⟩
    exact ⟨_, ha, _, hb, _, hc, _, he, _, hf, _, hg, _, hi, _, hj, rfl⟩

theorem exists_eq_of_length (h : items.length = 8) :
    ∃ a b c e f g i j, items = [a, b, c, e, f, g, i, j] := by
  match items, h with
  | [a, b, c, e, f, g, i, j], _ => exact ⟨a, b, c, e, f, g, i, j, rfl⟩

end Items

theorem declarationOfValue_eq_ok_iff {v : Value} {d : Declaration} :
    Declaration.ofValue v = .ok d ↔ Spells v d := by
  constructor
  · intro h
    cases v with
    | object members => exact .object (ofMembers_eq_ok_iff.1 h)
    | array items =>
      obtain ⟨a, b, c, e, f, g, i, j, rfl⟩ := exists_eq_of_length (length_eq_of_ofItems h)
      obtain ⟨rfl, rfl, rfl, he, hf, rfl, hi, hj⟩ := ofItems_eq_ok_iff.1 h
      exact .array he hf hi hj
    | _ => cases h
  · rintro (h | ⟨hh, hl, hi, hc⟩)
    · exact ofMembers_eq_ok_iff.2 h
    · exact ofItems_eq_ok_iff.2 ⟨rfl, rfl, rfl, hh, hl, rfl, hi, hc⟩

end Manifest

end GrammarPackages
