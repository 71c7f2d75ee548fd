import Mathlib.Data.List.Infix
import GrammarPackages.Grammar.Name
import GrammarPackages.Proofs.PathJoin

namespace GrammarPackages.Grammar

variable {lead d n s : List Char}

theorem isPrefixOf?_eq_none (h : ∀ n, d ≠ lead ++ n) : lead.isPrefixOf? d = none := by
  rw [Option.eq_none_iff_forall_ne_some]
  intro n hn
  exact h n (List.isPrefixOf?_eq_some_iff_append_eq.1 hn).symm

theorem dropLead_append (lead n : List Char) : dropLead lead (lead ++ n) = n := by
  rw [dropLead, List.isPrefixOf?_eq_some_iff_append_eq.2 rfl, Option.getD_some]

theorem dropLead_of_ne (h : ∀ n, d ≠ lead ++ n) : dropLead lead d = d := by
  rw [dropLead, isPrefixOf?_eq_none h, Option.getD_none]

theorem dropFamily_hyphens (n : List Char) : dropFamily ("tree-sitter-".toList ++ n) = n := by
  rw [dropFamily, List.isPrefixOf?_eq_some_iff_append_eq.2 rfl]

theorem dropFamily_of_not_hyphens (h : ∀ n, d ≠ "tree-sitter-".toList ++ n) :
    dropFamily d = dropLead "tree_sitter_".toList d := by
  rw [dropFamily, isPrefixOf?_eq_none h]

theorem dropFamily_underscores (n : List Char) :
    dropFamily ("tree_sitter_".toList ++ n) = n := by
  have hne : ∀ m, "tree_sitter_".toList ++ n ≠ "tree-sitter-".toList ++ m := by
    intro m hm
    simp at hm
  rw [dropFamily_of_not_hyphens hne, dropLead_append]

/-- What is left of a name without the mark of a grammar's repository. -/
inductive Unmarked : List Char → List Char → Prop
  | hyphens (n : List Char) : Unmarked ("tree-sitter-".toList ++ n) n
  | underscores (n : List Char) : Unmarked ("tree_sitter_".toList ++ n) n
  | plain {d : List Char} (h : ∀ n, d ≠ "tree-sitter-".toList ++ n)
      (h' : ∀ n, d ≠ "tree_sitter_".toList ++ n) : Unmarked d d

theorem Unmarked.dropFamily_eq (h : Unmarked d n) : dropFamily d = n := by
  cases h with
  | hyphens n => exact dropFamily_hyphens n
  | underscores n => exact dropFamily_underscores n
  | plain h h' => rw [dropFamily_of_not_hyphens h, dropLead_of_ne h']

theorem unmarked_dropFamily (d : List Char) : Unmarked d (dropFamily d) := by
  by_cases h : ∃ n, d = "tree-sitter-".toList ++ n
  · obtain ⟨n, rfl⟩ := h
    rw [dropFamily_hyphens]
    exact .hyphens n
  · by_cases h' : ∃ n, d = "tree_sitter_".toList ++ n
    · obtain ⟨n, rfl⟩ := h'
      rw [dropFamily_underscores]
      exact .underscores n
    · have hd := Unmarked.plain (not_exists.1 h) (not_exists.1 h')
      rwa [hd.dropFamily_eq]

theorem dropFamily_suffix (d : List Char) : dropFamily d <:+ d := by
  have h := unmarked_dropFamily d
  generalize dropFamily d = n at h
  cases h with
  | hyphens => exact List.suffix_append _ _
  | underscores => exact List.suffix_append _ _
  | plain => exact List.suffix_rfl

theorem slash_not_mem_dropFamily (h : '/' ∉ d) : '/' ∉ dropFamily d :=
  fun hmem ↦ h ((dropFamily_suffix d).subset hmem)

theorem slash_not_mem_underscored (h : '/' ∉ s) : '/' ∉ underscored s := by
  rw [underscored, List.mem_map]
  rintro ⟨c, hc, he⟩
  split at he
  · cases he
  · exact h (he ▸ hc)

theorem isPlain_append_extension (h : '/' ∉ s) : Path.IsPlain (s ++ extension) where
  ne_nil := by simp [extension]
  ne_here he := by simpa [extension] using congrArg List.length he
  ne_up he := by simpa [extension] using congrArg List.length he
  no_slash := by simp [extension, h]

theorem isPlain_libraryName (h : '/' ∉ s) : Path.IsPlain (libraryName s) := by
  apply isPlain_append_extension
  simp [slash_not_mem_underscored h]

end GrammarPackages.Grammar
