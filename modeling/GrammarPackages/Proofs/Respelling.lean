import GrammarPackages.Proofs.PathParent

namespace GrammarPackages

namespace Path

variable {α : Type} {f : Path → α}

/-- Goes past a repeated slash and an inner dot. -/
def SkipsBlanks (f : Path → α) : Prop :=
  ∀ s, Blank s → ∀ front rest, f ⟨front ++ '/' :: (s ++ '/' :: rest)⟩ = f ⟨front ++ '/' :: rest⟩

/-- A component as it is spelled in front of others. -/
def Component.lead : Component → List Char
  | .root => ['/']
  | c => c.toPath.chars ++ ['/']

theorem lead_step {s : List Char} :
    (if s = ['.', '.'] then Component.up else .name s).lead = s ++ ['/'] := by
  split
  · next h => rw [h]; rfl
  · rfl

theorem SkipsBlanks.eq_steps (hf : SkipsBlanks f) (front : List Char) (l : List (List Char))
    (last : List Char) :
    f ⟨front ++ '/' :: (l.flatMap (· ++ ['/']) ++ last)⟩ =
      f ⟨front ++ '/' :: ((steps l).flatMap Component.lead ++ last)⟩ := by
  induction l generalizing front with
  | nil => rfl
  | cons s l ih =>
    have hs : (s :: l).flatMap (· ++ ['/']) ++ last =
        s ++ '/' :: (l.flatMap (· ++ ['/']) ++ last) := by simp
    rw [hs]
    by_cases hblank : Blank s
    · rw [hf s hblank, ih, steps_cons_of_blank hblank]
    · have hnext := ih (front ++ '/' :: s)
      rw [List.append_assoc, List.append_assoc, List.cons_append, List.cons_append] at hnext
      rw [hnext, steps_cons_of_not_blank hblank, List.flatMap_cons, lead_step]
      simp

theorem intercalate_append_slash (s : List Char) (l : List (List Char)) (last : List Char) :
    ['/'].intercalate (s :: l) ++ '/' :: last = s ++ '/' :: (l.flatMap (· ++ ['/']) ++ last) := by
  induction l generalizing s with
  | nil => simp
  | cons t l ih =>
    rw [List.intercalate_cons_cons, List.append_assoc, List.append_assoc, ih]
    simp

theorem flatMap_lead_components {p : Path} (hp : p.chars ≠ []) {s : List Char}
    {l : List (List Char)} (hs : p.segments = s :: l) :
    p.components.flatMap Component.lead = s ++ '/' :: (steps l).flatMap Component.lead := by
  by_cases habs : p.IsAbsolute
  · obtain ⟨rest, -, he⟩ := isAbsolute_iff.1 habs
    obtain ⟨rfl, rfl⟩ := List.cons.inj (hs.symm.trans he)
    rw [components_eq, anchor, if_pos habs, hs, steps_cons_of_blank (.inl rfl)]
    rfl
  · by_cases hhere : s = ['.']
    · subst hhere
      rw [components_eq, anchor, if_neg habs, hs, List.head?_cons, if_pos rfl,
        steps_cons_of_blank (.inr rfl)]
      rfl
    · have hanchor : p.anchor = none := by
        rw [anchor, if_neg habs, hs, if_neg]
        exact fun h ↦ hhere (Option.some.inj h)
      have hblank : ¬ Blank s := by
        refine (behind_body hp).first hanchor s ?_
        rw [body, hanchor, hs]
        rfl
      rw [components_eq, hanchor, hs, steps_cons_of_not_blank hblank, Option.toList_none,
        List.nil_append, List.flatMap_cons, lead_step, List.append_assoc]
      rfl

/-- What skips blanks sees of the left side of a join its components only. -/
theorem SkipsBlanks.div_eq (hf : SkipsBlanks f) (p : Path) {q : Path} (hq : ¬ q.IsAbsolute) :
    f (p / q) = f ⟨p.components.flatMap Component.lead ++ q.chars⟩ := by
  by_cases hp : p.chars = []
  · obtain ⟨chars⟩ := p
    obtain rfl : chars = [] := hp
    rw [nil_div hq]
    rfl
  · have hjoin : f (p / q) = f ⟨p.chars ++ '/' :: q.chars⟩ := by
      rw [div_eq_join, join, if_neg hq]
      by_cases hslash : p.chars.getLast? = some '/'
      · obtain ⟨front, hfront⟩ := List.getLast?_eq_some_iff.1 hslash
        have hskip := hf [] (.inl rfl) front q.chars
        rw [if_pos (.inr hslash), hfront, List.append_assoc, List.append_assoc]
        exact hskip.symm
      · rw [if_neg (not_or.2 ⟨hp, hslash⟩)]
    obtain ⟨s, l, hs⟩ := List.exists_cons_of_ne_nil (List.splitOn_ne_nil '/' p.chars)
    have hchars : p.chars = ['/'].intercalate (s :: l) := by
      rw [← intercalate_segments p]
      exact congrArg _ hs
    rw [hjoin, hchars, intercalate_append_slash, hf.eq_steps, flatMap_lead_components hp hs,
      List.append_assoc]
    rfl

theorem SkipsBlanks.div_congr (hf : SkipsBlanks f) {p p' : Path} (h : p ≈ p') (q : Path) :
    f (p / q) = f (p' / q) := by
  by_cases hq : q.IsAbsolute
  · rw [div_eq_join, div_eq_join, join, join, if_pos hq, if_pos hq]
  · rw [hf.div_eq p hq, hf.div_eq p' hq, equiv_iff.1 h]

theorem skipsBlanks_components : SkipsBlanks components := by
  intro s hs front rest
  have hblank : steps (s.splitOn '/') = [] := by
    rcases hs with rfl | rfl <;> rfl
  rw [components_eq, components_eq, anchor_append_slash front _ rest,
    steps_segments_append_slash, steps_segments_append_slash]
  have hrest := steps_segments_append_slash s rest
  rw [segments] at hrest
  rw [hrest, hblank, List.nil_append]

theorem div_equiv_div {p p' : Path} (h : p ≈ p') (q : Path) : p / q ≈ p' / q :=
  skipsBlanks_components.div_congr h q

theorem SkipsBlanks.of_equiv (hf : ∀ p q : Path, p ≈ q → f p = f q) : SkipsBlanks f :=
  fun s hs front rest ↦ hf _ _ (skipsBlanks_components s hs front rest)

end Path

/-- A repeated slash or an inner dot does not change what a path names. -/
structure FileView.SkipsBlanks (v : FileView) : Prop where
  kind : Path.SkipsBlanks v.kind
  contents : Path.SkipsBlanks v.contents

namespace FileView.SkipsBlanks

variable {v : FileView} {p p' : Path}

theorem exists_div_iff (h : v.SkipsBlanks) (hp : p ≈ p') (q : Path) :
    v.Exists (p / q) ↔ v.Exists (p' / q) := by
  rw [Exists, Exists, h.kind.div_congr hp]

theorem text_div (h : v.SkipsBlanks) (hp : p ≈ p') (q : Path) :
    v.text (p / q) = v.text (p' / q) := by
  rw [text, text, h.contents.div_congr hp]

end FileView.SkipsBlanks

/-- Sees each path under its shortest spelling. -/
def FileView.normalized (v : FileView) : FileView where
  kind p := v.kind p.normalize
  contents p := v.contents p.normalize
  canonical p := v.canonical p.normalize
  identity p := v.identity p.normalize

theorem FileView.skipsBlanks_normalized (v : FileView) : v.normalized.SkipsBlanks where
  kind := .of_equiv fun _ _ h ↦ congrArg (v.kind ∘ Path.ofComponents) h
  contents := .of_equiv fun _ _ h ↦ congrArg (v.contents ∘ Path.ofComponents) h

end GrammarPackages
