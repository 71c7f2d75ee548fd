import GrammarPackages.Package.Locate

namespace GrammarPackages

namespace Path

/-- The steps that the segments between slashes stand for. -/
def steps (segments : List (List Char)) : List Component :=
  segments.filterMap Component.ofSegment?

theorem components_eq (p : Path) : p.components = p.anchor.toList ++ steps p.segments := rfl

@[simp]
theorem steps_nil : steps [] = [] := rfl

@[simp]
theorem components_nil : (⟨[]⟩ : Path).components = [] := rfl

@[simp]
theorem steps_append (l m : List (List Char)) : steps (l ++ m) = steps l ++ steps m :=
  List.filterMap_append

theorem head?_segments_append_slash (front rest : List Char) :
    (⟨front ++ '/' :: rest⟩ : Path).segments.head? = (⟨front⟩ : Path).segments.head? := by
  obtain ⟨s, l, hs⟩ := List.exists_cons_of_ne_nil (List.splitOn_ne_nil '/' front)
  simp only [segments, List.splitOn_append_cons_self, hs, List.cons_append, List.head?_cons]

theorem anchor_append_slash (front rest rest' : List Char) :
    (⟨front ++ '/' :: rest⟩ : Path).anchor = (⟨front ++ '/' :: rest'⟩ : Path).anchor := by
  have ha : ∀ l : List Char, (⟨front ++ '/' :: l⟩ : Path).IsAbsolute ↔
      front = [] ∨ front.head? = some '/' := by
    intro l
    cases front <;> simp [IsAbsolute]
  simp only [anchor, ha, head?_segments_append_slash]

theorem anchor_append_slash_of_ne_nil {front : List Char} (h : front ≠ []) (rest : List Char) :
    (⟨front ++ '/' :: rest⟩ : Path).anchor = (⟨front⟩ : Path).anchor := by
  have ha : (⟨front ++ '/' :: rest⟩ : Path).IsAbsolute ↔ (⟨front⟩ : Path).IsAbsolute := by
    cases front with
    | nil => exact absurd rfl h
    | cons c front => simp [IsAbsolute]
  simp only [anchor, ha, head?_segments_append_slash]

theorem steps_segments_append_slash (front rest : List Char) :
    steps (⟨front ++ '/' :: rest⟩ : Path).segments =
      steps (front.splitOn '/') ++ steps (rest.splitOn '/') := by
  rw [segments, List.splitOn_append_cons_self, steps_append]

/-- A join goes the way of its left side, then that of its right side. -/
theorem components_div {p q : Path} (hp : p.chars ≠ []) (hq : ¬ q.IsAbsolute) :
    (p / q).components = p.components ++ steps q.segments := by
  obtain ⟨front⟩ := p
  rw [div_eq_join, join, if_neg hq]
  by_cases hslash : front.getLast? = some '/'
  · obtain ⟨before, rfl⟩ := List.getLast?_eq_some_iff.1 hslash
    have hcut : before ++ ['/'] ++ q.chars = before ++ '/' :: q.chars := by simp
    rw [if_pos (.inr hslash), hcut, components_eq, components_eq, steps_segments_append_slash,
      steps_segments_append_slash, anchor_append_slash before q.chars []]
    simp [steps, segments, Component.ofSegment?]
  · rw [if_neg (not_or.2 ⟨hp, hslash⟩), components_eq, components_eq,
      steps_segments_append_slash, anchor_append_slash_of_ne_nil hp]
    simp [segments]

theorem nil_div {q : Path} (hq : ¬ q.IsAbsolute) : (⟨[]⟩ : Path) / q = q := by
  rw [div_eq_join, join, if_neg hq]
  simp

theorem not_isAbsolute_of_anchor_eq_none {q : Path} (h : q.anchor = none) :
    ¬ q.IsAbsolute := by
  intro habs
  rw [anchor, if_pos habs] at h
  cases h

/-- A right side without an anchor adds its components to those of the left. -/
theorem components_div_of_anchor_eq_none (p : Path) {q : Path} (h : q.anchor = none) :
    (p / q).components = p.components ++ q.components := by
  have habs := not_isAbsolute_of_anchor_eq_none h
  by_cases hp : p.chars = []
  · obtain ⟨front⟩ := p
    obtain rfl : front = [] := hp
    rw [nil_div habs, components_nil, List.nil_append]
  · rw [components_div hp habs, components_eq q, h, Option.toList_none, List.nil_append]

/-- One whole step: no slash, nothing blank, nothing upwards. -/
structure IsPlain (s : List Char) : Prop where
  ne_nil : s ≠ []
  ne_here : s ≠ ['.']
  ne_up : s ≠ ['.', '.']
  no_slash : '/' ∉ s

section Plain

variable {s : List Char}

theorem IsPlain.segments_eq (h : IsPlain s) : (⟨s⟩ : Path).segments = [s] :=
  List.splitOn_eq_singleton h.no_slash

theorem IsPlain.steps_eq (h : IsPlain s) : steps (⟨s⟩ : Path).segments = [.name s] := by
  simp [h.segments_eq, steps, Component.ofSegment?, Blank, h.ne_nil, h.ne_here, h.ne_up]

theorem IsPlain.not_isAbsolute (h : IsPlain s) : ¬ (⟨s⟩ : Path).IsAbsolute := by
  intro habs
  exact h.no_slash (List.mem_of_mem_head? habs)

theorem IsPlain.anchor_eq (h : IsPlain s) : (⟨s⟩ : Path).anchor = none := by
  simp [anchor, h.not_isAbsolute, h.segments_eq, h.ne_here]

theorem IsPlain.components_eq (h : IsPlain s) : (⟨s⟩ : Path).components = [.name s] := by
  rw [Path.components_eq, h.anchor_eq, h.steps_eq]
  rfl

theorem IsPlain.isName (h : IsPlain s) : Package.IsName ⟨s⟩ := by
  rw [Package.IsName, h.components_eq]
  trivial

theorem components_div_plain (p : Path) (h : IsPlain s) :
    (p / ⟨s⟩).components = p.components ++ [.name s] := by
  rw [components_div_of_anchor_eq_none p h.anchor_eq, h.components_eq]

theorem equiv_of_div_plain_eq {p q : Path} (h : IsPlain s) (he : p / ⟨s⟩ = q / ⟨s⟩) : p ≈ q := by
  have hc := congrArg components he
  rw [components_div_plain p h, components_div_plain q h] at hc
  exact List.append_cancel_right hc

end Plain

end Path

end GrammarPackages
