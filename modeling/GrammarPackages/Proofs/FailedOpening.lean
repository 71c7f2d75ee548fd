import GrammarPackages.Library.Linker

namespace GrammarPackages.Library.Linker

theorem findIdx?_modify {α : Type} {p : α → Bool} {f : α → α} {l : List α} {i : Nat}
    (h : l.findIdx? p = none) (hi : i < l.length) (hf : ∀ a, p (f a) = true) :
    (l.modify i f).findIdx? p = some i := by
  induction l generalizing i with
  | nil => exact absurd hi (Nat.not_lt_zero i)
  | cons a l ih =>
    rw [List.findIdx?_eq_none_iff, List.forall_mem_cons] at h
    cases i with
    | zero => rw [List.modify_zero_cons, List.findIdx?_cons, if_pos (hf a)]
    | succ i =>
      have hrest := ih (List.findIdx?_eq_none_iff.2 h.2) (Nat.lt_of_succ_lt_succ hi)
      have ha : ¬ p a = true := Bool.eq_false_iff.1 h.1
      rw [List.modify_succ_cons, List.findIdx?_cons, if_neg ha, hrest]
      rfl

variable {l opened : Linker} {files : FileView} {library : Path} {path : List Char}
variable {name : String} {i : Nat} {f : Fault}

/-- What opening a library under a name can do: nothing, name a library that is in memory already,
or add one. -/
theorem attach_cases (h : l.attach files path = some (i, opened)) :
    opened = l ∨
      opened.residents.length = l.residents.length ∧ opened.named? path = some i ∨
      ∃ r, opened.residents = l.residents ++ [r] := by
  cases hnamed : l.named? path with
  | some j =>
    simp only [attach, hnamed, Option.some_inj, Prod.mk.injEq] at h
    exact .inl h.2.symm
  | none =>
    simp only [attach, hnamed] at h
    split at h
    · cases h
    · obtain ⟨expanded, -, h⟩ := Option.bind_eq_some_iff.1 h
      obtain ⟨identity, -, h⟩ := Option.bind_eq_some_iff.1 h
      split at h
      · next j hj =>
        rw [Option.some_inj, Prod.mk.injEq] at h
        obtain ⟨rfl, rfl⟩ := h
        obtain ⟨hlt, -⟩ := List.findIdx?_eq_some_iff_getElem.1 hj
        refine .inr (.inl ⟨List.length_modify .., ?_⟩)
        exact findIdx?_modify hnamed hlt (by simp)
      · obtain ⟨bytes, -, h⟩ := Option.bind_eq_some_iff.1 h
        obtain ⟨image, -, h⟩ := Option.bind_eq_some_iff.1 h
        split at h
        · cases h
        · rw [Option.some_inj, Prod.mk.injEq] at h
          exact .inr (.inr ⟨_, congrArg residents h.2.symm⟩)

theorem load_of_refused (hpath : terminated? library.chars = some path)
    (hsystem : ¬ Name.IsSystem path) (hattach : l.attach files path = some (i, opened))
    (htake : opened.take i name = .error f) :
    l.load files library name = (.error f, ⟨opened.residents.take l.residents.length⟩) := by
  simp only [load, hpath, if_neg hsystem, hattach, htake]

/-- Trying once more does not help. -/
theorem load_load (h : (l.load files library name).1 = .error f) :
    ((l.load files library name).2.load files library name).1 = .error f := by
  have hsame : (l.load files library name).2 = l →
      ((l.load files library name).2.load files library name).1 = .error f := by
    intro hstate
    rw [hstate]
    exact h
  cases hpath : terminated? library.chars with
  | none => exact hsame (by simp only [load, hpath])
  | some path =>
    by_cases hsystem : Name.IsSystem path
    · exact hsame (by simp only [load, hpath, if_pos hsystem])
    · cases hattach : l.attach files path with
      | none => exact hsame (by simp only [load, hpath, if_neg hsystem, hattach])
      | some found =>
        obtain ⟨i, opened⟩ := found
        cases htake : opened.take i name with
        | ok g =>
          simp only [load, hpath, if_neg hsystem, hattach, htake] at h
          cases h
        | error f' =>
          have hload := load_of_refused hpath hsystem hattach htake
          rcases attach_cases hattach with rfl | ⟨hlength, hnamed⟩ | ⟨r, hr⟩
          · rw [List.take_length] at hload
            exact hsame (congrArg Prod.snd hload)
          · -- the library keeps the name that it was tried under, and is found by it now
            rw [← hlength, List.take_length] at hload
            have hagain : opened.attach files path = some (i, opened) := by
              simp only [attach, hnamed]
            rw [hload] at h ⊢
            rw [load_of_refused hpath hsystem hagain htake]
            exact h
          · rw [hr, List.take_left] at hload
            exact hsame (congrArg Prod.snd hload)

end GrammarPackages.Library.Linker
