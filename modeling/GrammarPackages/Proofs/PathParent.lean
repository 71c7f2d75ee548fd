import GrammarPackages.Proofs.PathJoin

namespace GrammarPackages

namespace Path

theorem slash_not_mem_of_mem_splitOn {s text : List Char} (h : s ∈ text.splitOn '/') :
    '/' ∉ s := by
  induction text generalizing s with
  | nil =>
    rw [List.splitOn_nil, List.mem_singleton] at h
    simp [h]
  | cons c text ih =>
    rw [List.splitOn_cons_eq_if_modifyHead] at h
    by_cases hc : c = '/'
    · rw [if_pos (by simpa using hc)] at h
      rcases List.mem_cons.1 h with rfl | h
      · simp
      · exact ih h
    · obtain ⟨first, rest, hsplit⟩ := List.exists_cons_of_ne_nil (List.splitOn_ne_nil '/' text)
      rw [if_neg (by simpa using hc), hsplit, List.modifyHead_cons] at h
      rw [hsplit] at ih
      rcases List.mem_cons.1 h with rfl | h
      · have hfirst := ih (s := first) List.mem_cons_self
        simp [hfirst, Ne.symm hc]
      · exact ih (List.mem_cons_of_mem _ h)

theorem intercalate_segments (p : Path) : ['/'].intercalate p.segments = p.chars :=
  List.intercalate_splitOn '/'

theorem isAbsolute_iff {p : Path} :
    p.IsAbsolute ↔ ∃ rest, rest ≠ [] ∧ p.segments = [] :: rest := by
  obtain ⟨chars⟩ := p
  cases chars with
  | nil => simp [IsAbsolute, segments]
  | cons c chars =>
    rw [segments, List.splitOn_cons_eq_if_modifyHead]
    by_cases hc : c = '/'
    · simp [IsAbsolute, hc, List.splitOn_ne_nil]
    · obtain ⟨first, rest, hsplit⟩ := List.exists_cons_of_ne_nil (List.splitOn_ne_nil '/' chars)
      simp [IsAbsolute, hc, hsplit]

theorem blank_of_anchor_isSome {p : Path} (h : p.anchor.isSome) :
    ∃ s rest, Blank s ∧ p.segments = s :: rest := by
  by_cases habs : p.IsAbsolute
  · obtain ⟨rest, -, hsegments⟩ := isAbsolute_iff.1 habs
    exact ⟨[], rest, .inl rfl, hsegments⟩
  · rw [anchor, if_neg habs] at h
    split at h
    · next hhere =>
      obtain ⟨rest, hsegments⟩ := List.head?_eq_some_iff.1 hhere
      exact ⟨['.'], rest, .inr rfl, hsegments⟩
    · cases h

theorem steps_cons_of_blank {s : List Char} (h : Blank s) (l : List (List Char)) :
    steps (s :: l) = steps l := by
  simp [steps, Component.ofSegment?, h]

theorem steps_cons_of_not_blank {s : List Char} (h : ¬ Blank s) (l : List (List Char)) :
    steps (s :: l) = (if s = ['.', '.'] then .up else .name s) :: steps l := by
  have hs : Component.ofSegment? s = some (if s = ['.', '.'] then .up else .name s) := by
    rw [Component.ofSegment?, if_neg h]
    split <;> rfl
  rw [steps, List.filterMap_cons_some hs, steps]

theorem anchor_cases (p : Path) :
    p.anchor = none ∨ p.anchor = some .root ∨ p.anchor = some .here := by
  rw [anchor]
  split
  · exact .inr (.inl rfl)
  · split
    · exact .inr (.inr rfl)
    · exact .inl rfl

theorem isAbsolute_iff_anchor {p : Path} : p.IsAbsolute ↔ p.anchor = some .root := by
  rw [anchor]
  split
  · next h => exact iff_of_true h rfl
  · next h => split <;> simp [h]

theorem components_eq_body (p : Path) : p.components = p.anchor.toList ++ steps p.body := by
  rw [components_eq, body]
  split
  · next h =>
    obtain ⟨s, rest, hblank, hsegments⟩ := blank_of_anchor_isSome h
    rw [hsegments, steps_cons_of_blank hblank, List.tail_cons]
  · rfl

/-- Segments that are read back when they are spelled behind this anchor. -/
structure Behind (anchor : Option Component) (segments : List (List Char)) : Prop where
  no_slash : ∀ s ∈ segments, '/' ∉ s
  anchor_eq : anchor = none ∨ anchor = some .root ∨ anchor = some .here
  first : anchor = none → ∀ s ∈ segments.head?, ¬ Blank s

section Behind

variable {a : Option Component} {l m : List (List Char)}

theorem Behind.of_append (h : Behind a (l ++ m)) : Behind a l where
  no_slash s hs := h.no_slash s (List.mem_append_left m hs)
  anchor_eq := h.anchor_eq
  first ha s hs := by
    obtain ⟨rest, rfl⟩ := List.head?_eq_some_iff.1 hs
    exact h.first ha s rfl

theorem segments_intercalate (hl : ∀ s ∈ l, '/' ∉ s) (hne : l ≠ []) :
    (⟨['/'].intercalate l⟩ : Path).segments = l :=
  List.splitOn_intercalate '/' hl hne

theorem components_intercalate (hl : ∀ s ∈ l, '/' ∉ s) (hfirst : ∀ s ∈ l.head?, ¬ Blank s) :
    (⟨['/'].intercalate l⟩ : Path).components = steps l := by
  cases l with
  | nil => rfl
  | cons s l =>
    have hsegments := segments_intercalate hl (List.cons_ne_nil s l)
    have hs : ¬ Blank s := hfirst s rfl
    have habs : ¬ (⟨['/'].intercalate (s :: l)⟩ : Path).IsAbsolute := by
      intro h
      obtain ⟨rest, -, he⟩ := isAbsolute_iff.1 h
      exact hs (.inl (List.cons.inj (hsegments.symm.trans he)).1)
    have hanchor : (⟨['/'].intercalate (s :: l)⟩ : Path).anchor = none := by
      rw [anchor, if_neg habs, hsegments, if_neg]
      intro h
      exact hs (.inr (Option.some.inj h))
    rw [components_eq, hanchor, hsegments]
    rfl

theorem components_spell (h : Behind a l) : (spell a l).components = a.toList ++ steps l := by
  rcases h.anchor_eq with rfl | rfl | rfl
  · exact components_intercalate h.no_slash (h.first rfl)
  · have hsteps : steps (['/'].intercalate l |>.splitOn '/') = steps l := by
      cases l with
      | nil => rfl
      | cons s l => rw [List.splitOn_intercalate '/' h.no_slash (List.cons_ne_nil s l)]
    have hanchor : (spell (some .root) l).anchor = some .root := by
      simp [anchor, spell, IsAbsolute]
    rw [components_eq, hanchor, ← hsteps]
    exact congrArg (_ ++ ·) (steps_segments_append_slash [] _)
  · have hsegments : (spell (some .here) l).segments = ['.'] :: l := by
      refine segments_intercalate (fun s hs ↦ ?_) (List.cons_ne_nil _ l)
      rcases List.mem_cons.1 hs with rfl | hs
      · decide
      · exact h.no_slash s hs
    have habs : ¬ (spell (some .here) l).IsAbsolute := by
      intro habs
      obtain ⟨rest, -, he⟩ := isAbsolute_iff.1 habs
      rw [hsegments] at he
      cases he
    have hanchor : (spell (some .here) l).anchor = some .here := by
      rw [anchor, if_neg habs, hsegments]
      rfl
    rw [components_eq, hanchor, hsegments, steps_cons_of_blank (.inr rfl)]

theorem behind_body {p : Path} (h : p.chars ≠ []) : Behind p.anchor p.body where
  no_slash s hs := by
    rw [body] at hs
    split at hs
    · exact slash_not_mem_of_mem_splitOn (List.mem_of_mem_tail hs)
    · exact slash_not_mem_of_mem_splitOn hs
  anchor_eq := anchor_cases p
  first ha s hs := by
    have habs := not_isAbsolute_of_anchor_eq_none ha
    rw [body, ha, Option.isSome_none, if_neg Bool.false_ne_true] at hs
    obtain ⟨rest, hsegments⟩ := List.head?_eq_some_iff.1 hs
    rintro (rfl | rfl)
    · -- nothing before the first slash, and yet no root: then there is no text at all
      cases rest with
      | nil =>
        rw [← intercalate_segments p, hsegments] at h
        exact h rfl
      | cons t rest => exact habs (isAbsolute_iff.2 ⟨_, List.cons_ne_nil t rest, hsegments⟩)
    · rw [anchor, if_neg habs, if_pos (Option.mem_def.1 hs)] at ha
      cases ha

theorem steps_dropWhile_blank (l : List (List Char)) :
    steps (l.dropWhile (fun t ↦ Blank t)).reverse = steps l.reverse := by
  induction l with
  | nil => rfl
  | cons s l ih =>
    by_cases hs : Blank s
    · rw [List.dropWhile_cons_of_pos (by simpa using hs), ih, List.reverse_cons, steps_append,
        steps_cons_of_blank hs]
      simp [steps]
    · rw [List.dropWhile_cons_of_neg (by simpa using hs)]

/-- Blank segments at the end of an ancestor's spelling are left out. -/
theorem components_spell_above (h : Behind a l.reverse) :
    (spell a (l.dropWhile (fun t ↦ Blank t)).reverse).components =
      a.toList ++ steps l.reverse := by
  have hdrop : Behind a (l.dropWhile (fun t ↦ Blank t)).reverse := by
    have hsplit := List.takeWhile_append_dropWhile (p := fun t ↦ decide (Blank t)) (l := l)
    rw [← hsplit, List.reverse_append] at h
    exact h.of_append
  rw [components_spell hdrop, steps_dropWhile_blank]

/-- The segments stand in reverse, as `above` takes them. -/
theorem exists_head?_above (h : Behind a l.reverse) {before : List Component} {x : Component}
    (hx : x ≠ .root) (hl : a.toList ++ steps l.reverse = before ++ [x]) :
    ∃ q, (above a l).head? = some q ∧ q.components = before := by
  induction l with
  | nil =>
    rcases h.anchor_eq with rfl | rfl | rfl
    · simp [steps] at hl
    · have hroot : [] ++ [.root] = before ++ [x] := hl
      exact absurd (List.singleton_inj.1 (List.append_inj' hroot rfl).2).symm hx
    · have hhere : [] ++ [.here] = before ++ [x] := hl
      exact ⟨⟨[]⟩, rfl, (List.append_inj' hhere rfl).1⟩
  | cons s l ih =>
    rw [List.reverse_cons] at h hl
    rw [steps_append, ← List.append_assoc] at hl
    by_cases hs : Blank s
    · rw [steps_cons_of_blank hs, steps_nil, List.append_nil] at hl
      rw [above, if_pos hs]
      exact ih h.of_append hl
    · rw [above, if_neg hs]
      refine ⟨_, rfl, ?_⟩
      rw [components_spell_above h.of_append]
      rw [steps_cons_of_not_blank hs] at hl
      exact (List.append_inj' hl rfl).1

end Behind

/-- A path whose last step is not the root has a parent, which lacks just that step. -/
theorem exists_parent? {p : Path} {before : List Component} {x : Component} (hx : x ≠ .root)
    (hp : p.components = before ++ [x]) :
    ∃ q, p.parent? = some q ∧ q.components = before := by
  have hne : p.chars ≠ [] := by
    intro h
    obtain ⟨chars⟩ := p
    obtain rfl : chars = [] := h
    simp at hp
  have hbehind : Behind p.anchor p.body.reverse.reverse := by
    rw [List.reverse_reverse]
    exact behind_body hne
  refine exists_head?_above hbehind hx ?_
  rw [List.reverse_reverse, ← components_eq_body, hp]

end Path

end GrammarPackages
