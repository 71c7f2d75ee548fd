import GrammarPackages.Proofs.LibraryNames
import GrammarPackages.Proofs.PathNormal

namespace GrammarPackages.Grammar

open GrammarPackages.Path (IsPlain)

variable {lead d n s : List Char}

/-- What is left of a name without one `lead` in front of it, if there is one. -/
inductive Without (lead : List Char) : List Char → List Char → Prop
  | dropped (n : List Char) : Without lead (lead ++ n) n
  | kept {d : List Char} (h : ¬ lead <+: d) : Without lead d d

theorem dropLead_eq_self (h : ¬ lead <+: d) : dropLead lead d = d :=
  dropLead_of_ne fun n hn ↦ h ⟨n, hn.symm⟩

theorem without_dropLead (lead d : List Char) : Without lead d (dropLead lead d) := by
  by_cases h : lead <+: d
  · obtain ⟨n, rfl⟩ := h
    rw [dropLead_append]
    exact .dropped n
  · rw [dropLead_eq_self h]
    exact .kept h

theorem Without.eq_iff (h : Without lead d n) (hlead : lead ≠ []) : n = d ↔ ¬ lead <+: d := by
  cases h with
  | dropped =>
    rw [List.self_eq_append_left]
    exact iff_of_false hlead fun h ↦ h (List.prefix_append _ _)
  | kept h => exact iff_of_true rfl h

theorem Unmarked.eq_iff (h : Unmarked d n) :
    n = d ↔ ¬ "tree-sitter-".toList <+: d ∧ ¬ "tree_sitter_".toList <+: d := by
  cases h with
  | hyphens =>
    rw [List.self_eq_append_left]
    exact iff_of_false (by simp) fun h ↦ h.1 (List.prefix_append _ _)
  | underscores =>
    rw [List.self_eq_append_left]
    exact iff_of_false (by simp) fun h ↦ h.2 (List.prefix_append _ _)
  | plain h h' =>
    refine iff_of_true rfl ⟨?_, ?_⟩
    · rintro ⟨n, hn⟩
      exact h n hn.symm
    · rintro ⟨n, hn⟩
      exact h' n hn.symm

theorem stemOf_append_extension (h : s ≠ []) : Path.stemOf (s ++ extension) = s := by
  have hdrop : ((s ++ extension).reverse.dropWhile (· ≠ '.')).tail = s.reverse := by
    simp [extension]
  rw [Path.stemOf, hdrop]
  cases hs : s.reverse with
  | nil => exact absurd (List.reverse_eq_nil_iff.1 hs) h
  | cons c rest =>
    dsimp only
    rw [← hs, List.reverse_reverse]

/-- The name is that of the file, without the extension, then `lib`, then the repository's mark. -/
theorem nameOf_div (dir : Path) (hs : '/' ∉ s) (hne : s ≠ []) :
    nameOf (dir / ⟨s ++ extension⟩) = .ofList (dropFamily (dropLead "lib".toList s)) := by
  have hname : (dir / ⟨s ++ extension⟩).fileName? = some (s ++ extension) := by
    rw [Path.fileName?_eq_some_iff, Path.components_div_plain dir (isPlain_append_extension hs),
      List.getLast?_concat]
  rw [nameOf, Path.fileStem?, hname, Option.map_some, stemOf_append_extension hne,
    Option.getD_some]

theorem nameOf_div_of_lib (dir : Path) (hn : '/' ∉ n) :
    nameOf (dir / ⟨"lib".toList ++ n ++ extension⟩) = .ofList (dropFamily n) := by
  rw [nameOf_div dir (by simp [hn]) (by simp), dropLead_append]

theorem nameOf_div_of_not_lib (dir : Path) (hs : '/' ∉ s) (hne : s ≠ [])
    (hlib : ¬ "lib".toList <+: s) :
    nameOf (dir / ⟨s ++ extension⟩) = .ofList (dropFamily s) := by
  rw [nameOf_div dir hs hne, dropLead_eq_self hlib]

theorem nameOf_div_of_hyphens (dir : Path) (hn : '/' ∉ n) :
    nameOf (dir / ⟨"tree-sitter-".toList ++ n ++ extension⟩) = .ofList n := by
  rw [nameOf_div_of_not_lib dir (by simp [hn]) (by simp) (by simp), dropFamily_hyphens]

theorem nameOf_div_of_underscores (dir : Path) (hn : '/' ∉ n) :
    nameOf (dir / ⟨"tree_sitter_".toList ++ n ++ extension⟩) = .ofList n := by
  rw [nameOf_div_of_not_lib dir (by simp [hn]) (by simp) (by simp), dropFamily_underscores]

/-- What a library may be called that holds the grammar of this name. -/
def decorations (n : List Char) : List (List Char) :=
  ["lib".toList ++ n, n, "tree-sitter-".toList ++ n, "tree_sitter_".toList ++ n].map (· ++ extension)

/-- Under this way of naming, all decorations of a name give it back. -/
def Undecorates (name : Path → String) (dir : Path) (n : List Char) : Prop :=
  ∀ file ∈ decorations n, name (dir / ⟨file⟩) = .ofList n

theorem forall_mem_decorations_iff {f : List Char → Prop} :
    (∀ file ∈ decorations n, f file) ↔ f ("lib".toList ++ n ++ extension) ∧ f (n ++ extension) ∧
      f ("tree-sitter-".toList ++ n ++ extension) ∧
        f ("tree_sitter_".toList ++ n ++ extension) := by
  simp only [decorations, List.map_cons, List.map_nil, List.forall_mem_cons, List.not_mem_nil,
    false_implies, implies_true, and_true]

theorem undecorates_iff (dir : Path) (h : IsPlain n) :
    Undecorates nameOf dir n ↔ ¬ "lib".toList <+: n ∧ ¬ "tree-sitter-".toList <+: n ∧
      ¬ "tree_sitter_".toList <+: n := by
  have hn := h.no_slash
  have hunmarked := (unmarked_dropFamily n).eq_iff
  rw [Undecorates, forall_mem_decorations_iff, nameOf_div_of_hyphens dir hn,
    nameOf_div_of_underscores dir hn, nameOf_div_of_lib dir hn, nameOf_div dir hn h.ne_nil,
    String.ofList_inj, String.ofList_inj, ← hunmarked]
  constructor
  · rintro ⟨hfamily, hname, -⟩
    refine ⟨?_, hfamily⟩
    rintro ⟨m, rfl⟩
    rw [dropLead_append] at hname
    -- what is left of `m` is no longer than `m`, so it cannot be `m` behind `lib`
    have hlength := (dropFamily_suffix m).length_le
    have hlib : "lib".toList.length = 3 := rfl
    rw [hname, List.length_append] at hlength
    omega
  · rintro ⟨hlib, hfamily⟩
    rw [dropLead_eq_self hlib]
    exact ⟨hfamily, hfamily, rfl, rfl⟩

structure NamesDecorated (dir : Path) (n : List Char) : Prop where
  hyphens : nameOf (dir / ⟨"tree-sitter-".toList ++ n ++ extension⟩) = .ofList n
  underscores : nameOf (dir / ⟨"tree_sitter_".toList ++ n ++ extension⟩) = .ofList n
  lib : ∃ m, Unmarked n m ∧ nameOf (dir / ⟨"lib".toList ++ n ++ extension⟩) = .ofList m
  bare : ∃ l m, Without "lib".toList n l ∧ Unmarked l m ∧
    nameOf (dir / ⟨n ++ extension⟩) = .ofList m
  all_iff : Undecorates nameOf dir n ↔ ¬ "lib".toList <+: n ∧ ¬ "tree-sitter-".toList <+: n ∧
    ¬ "tree_sitter_".toList <+: n

/-- A name comes back from a decorated file, unless it begins like a decoration itself. -/
theorem nameOf_decorated (dir : Path) (h : IsPlain n) : NamesDecorated dir n where
  hyphens := nameOf_div_of_hyphens dir h.no_slash
  underscores := nameOf_div_of_underscores dir h.no_slash
  lib := ⟨_, unmarked_dropFamily n, nameOf_div_of_lib dir h.no_slash⟩
  bare := ⟨_, _, without_dropLead _ n, unmarked_dropFamily _, nameOf_div dir h.no_slash h.ne_nil⟩
  all_iff := undecorates_iff dir h

theorem nameOf_decorated_of_lib : IsPlain "libtree-sitter-a.b".toList ∧
    NamesDecorated (.ofString "/p/") "libtree-sitter-a.b".toList := by
  have h : IsPlain "libtree-sitter-a.b".toList :=
    ⟨by decide +kernel, by decide +kernel, by decide +kernel, by decide +kernel⟩
  exact ⟨h, nameOf_decorated (.ofString "/p/") h⟩

/-- The file `liba.so` is a decoration of two names, so no way of naming gives both back. -/
theorem undecorates_fails :
    ¬ Undecorates nameOf (.ofString "/p") "liba".toList ∧
      ¬ Undecorates nameOf (.ofString "/p") "tree-sitter-a".toList ∧
      ∀ name dir, ¬ (Undecorates name dir "a".toList ∧ Undecorates name dir "liba".toList) := by
  refine ⟨?_, ?_, ?_⟩
  · rw [undecorates_iff _ ⟨by decide, by decide, by decide, by decide⟩]
    exact fun h ↦ h.1 ⟨['a'], rfl⟩
  · rw [undecorates_iff _ ⟨by decide, by decide, by decide, by decide⟩]
    exact fun h ↦ h.2.1 ⟨['a'], rfl⟩
  · intro name dir h
    have ha := (forall_mem_decorations_iff.1 h.1).1
    have hliba := (forall_mem_decorations_iff.1 h.2).2.1
    exact absurd (ha.symm.trans hliba) (by decide +kernel)

end GrammarPackages.Grammar
