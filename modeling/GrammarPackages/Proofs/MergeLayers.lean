import GrammarPackages.Proofs.RootMerge

namespace GrammarPackages.SearchPath

variable {s : SearchPath} {p : Path} {host : List Path}

theorem ofList_roots (s : SearchPath) : ofList s.roots = s := by
  obtain ⟨roots, distinct⟩ := s
  simp only [ofList, firsts_eq_self distinct]

/-- A merge with the roots of a search path goes on where that search path ends. -/
theorem merge_roots_eq_foldr (s : SearchPath) (host : List Path) :
    merge s.roots host = host.foldr cons s := by
  rw [merge, ofList_roots]

theorem merge_merge (defaults host host' : List Path) :
    merge (merge defaults host).roots host' = merge defaults (host' ++ host) := by
  rw [merge_roots_eq_foldr, merge, merge, List.foldr_append]

theorem mem_merge_of_mem_host (defaults : List Path) (hp : p ∈ host) :
    p ∈ merge defaults host := by
  rw [mem_iff, merge_roots, exists_mem_hostOnly_append_firsts_iff]
  exact ⟨p, List.mem_append_left defaults hp, Setoid.refl p⟩

theorem cons_of_mem (hp : p ∈ s) : cons p s = s := dif_pos hp

/-- Roots that are there already, in whatever spelling, leave a search path as it is. -/
theorem merge_of_forall_mem (h : ∀ p ∈ host, p ∈ s) : merge s.roots host = s := by
  rw [merge_roots_eq_foldr]
  induction host with
  | nil => rfl
  | cons p host ih =>
    obtain ⟨hp, hhost⟩ := List.forall_mem_cons.1 h
    rw [List.foldr_cons, ih hhost, cons_of_mem hp]

/-- Layers of roots, each merged over those behind it, are one merge of them all. -/
theorem foldr_merge (defaults : List Path) (layers : List (List Path)) :
    layers.foldr (fun host s ↦ merge s.roots host) (ofList defaults) =
      merge defaults layers.flatten := by
  induction layers with
  | nil => rfl
  | cons host layers ih => rw [List.foldr_cons, ih, merge_merge, List.flatten_cons]

/-- It is the same, spellings included, to merge in layers and to merge at once; and nothing comes
of merging again what is in already. -/
theorem merge_in_layers (defaults host host' : List Path) :
    (merge (merge defaults host).roots host').roots = (merge defaults (host' ++ host)).roots ∧
      (merge (merge defaults host).roots host).roots = (merge defaults host).roots ∧
      ∀ layers : List (List Path),
        (layers.foldr (fun host s ↦ merge s.roots host) (ofList defaults)).roots =
          (merge defaults layers.flatten).roots := by
  refine ⟨?_, ?_, fun layers ↦ ?_⟩
  · rw [merge_merge]
  · rw [merge_of_forall_mem fun p hp ↦ mem_merge_of_mem_host defaults hp]
  · rw [foldr_merge]

end GrammarPackages.SearchPath
