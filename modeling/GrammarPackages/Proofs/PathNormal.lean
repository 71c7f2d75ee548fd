import GrammarPackages.Proofs.PathParent

namespace GrammarPackages.Path

variable {p q : Path} {s : List Char} {c : Component} {l front : List Component}

/-- What may follow the start of a path: a step up, or a plain name. -/
def Component.IsStep : Component → Prop
  | .up => True
  | .name s => IsPlain s
  | _ => False

theorem Component.IsStep.no_slash (h : c.IsStep) : '/' ∉ c.toPath.chars := by
  cases c with
  | root => cases h
  | here => cases h
  | up => decide
  | name s => exact IsPlain.no_slash h

theorem Component.IsStep.not_isAbsolute (h : c.IsStep) : ¬ c.toPath.IsAbsolute :=
  fun habs ↦ h.no_slash (List.mem_of_mem_head? habs)

theorem Component.IsStep.not_blank (h : c.IsStep) : ¬ Blank c.toPath.chars := by
  cases c with
  | root => cases h
  | here => cases h
  | up => decide
  | name s => exact not_or.2 ⟨IsPlain.ne_nil h, IsPlain.ne_here h⟩

theorem isStep_of_mem_steps {segments : List (List Char)} (hs : ∀ s ∈ segments, '/' ∉ s)
    (hc : c ∈ steps segments) : c.IsStep := by
  induction segments with
  | nil => cases hc
  | cons s segments ih =>
    obtain ⟨hslash, hrest⟩ := List.forall_mem_cons.1 hs
    by_cases hblank : Blank s
    · rw [steps_cons_of_blank hblank] at hc
      exact ih hrest hc
    · rw [steps_cons_of_not_blank hblank] at hc
      rcases List.mem_cons.1 hc with rfl | hc
      · split
        · trivial
        · next hup => exact ⟨(not_or.1 hblank).1, (not_or.1 hblank).2, hup, hslash⟩
      · exact ih hrest hc

theorem isStep_of_mem_steps_segments (h : c ∈ steps p.segments) : c.IsStep :=
  isStep_of_mem_steps (fun _ hs ↦ slash_not_mem_of_mem_splitOn hs) h

theorem steps_segments_cases (p : Path) : steps p.segments = [] ∨
    ∃ front c, steps p.segments = front ++ [c] ∧ c.IsStep := by
  rcases List.eq_nil_or_concat (steps p.segments) with hnil | ⟨front, c, hconcat⟩
  · exact .inl hnil
  · rw [List.concat_eq_append] at hconcat
    have hc : c ∈ steps p.segments := hconcat ▸ List.mem_concat_self
    exact .inr ⟨front, c, hconcat, isStep_of_mem_steps_segments hc⟩

theorem not_mem_anchor_name (p : Path) (s : List Char) : .name s ∉ p.anchor.toList := by
  rcases anchor_cases p with h | h | h <;> simp [h]

theorem isPlain_of_mem_components (h : .name s ∈ p.components) : IsPlain s := by
  rcases List.mem_append.1 h with h | h
  · exact absurd h (not_mem_anchor_name p s)
  · exact isStep_of_mem_steps_segments h

theorem components_div_step (p : Path) (h : c.IsStep) :
    (p / c.toPath).components = p.components ++ [c] := by
  cases c with
  | root => cases h
  | here => cases h
  | up => exact components_div_of_anchor_eq_none p rfl
  | name s => exact components_div_plain p h

theorem components_foldl_div (p : Path) (h : ∀ c ∈ l, c.IsStep) :
    (l.foldl (fun p c ↦ p / c.toPath) p).components = p.components ++ l := by
  induction l generalizing p with
  | nil => exact (List.append_nil _).symm
  | cons c l ih =>
    obtain ⟨hc, hl⟩ := List.forall_mem_cons.1 h
    rw [List.foldl_cons, ih _ hl, components_div_step p hc, List.append_assoc]
    rfl

theorem components_ofComponents_anchor (p : Path) :
    (ofComponents p.anchor.toList).components = p.anchor.toList := by
  rcases anchor_cases p with h | h | h <;> rw [h] <;> rfl

/-- The shortest spelling still spells the same components. -/
theorem components_normalize (p : Path) : p.normalize.components = p.components := by
  have hsteps : ∀ c ∈ steps p.segments, c.IsStep := fun c hc ↦ isStep_of_mem_steps_segments hc
  rw [normalize, ofComponents, components_eq p, List.foldl_append, components_foldl_div _ hsteps]
  exact congrArg (· ++ _) (components_ofComponents_anchor p)

theorem fileName?_eq_some_iff : p.fileName? = some s ↔ p.components.getLast? = some (.name s) := by
  rw [fileName?]
  split
  · next h => rw [h, Option.some_inj, Option.some_inj, Component.name.injEq]
  · next h => simpa using h s

theorem isPlain_of_fileName?_eq_some (h : p.fileName? = some s) : IsPlain s :=
  isPlain_of_mem_components (List.mem_of_getLast? (fileName?_eq_some_iff.1 h))

theorem normalize_eq_div (h : p.components = front ++ [c]) :
    p.normalize = ofComponents front / c.toPath := by
  rw [normalize, h, ofComponents, List.foldl_append]
  rfl

theorem components_ofComponents_of_concat (h : p.components = front ++ [c]) (hc : c.IsStep) :
    (ofComponents front).components = front := by
  have hp := components_normalize p
  rw [normalize_eq_div h, components_div_step _ hc, h] at hp
  exact List.append_cancel_right hp

end GrammarPackages.Path
