import GrammarPackages.Grammar.StandIn
import GrammarPackages.Proofs.GrammarNames
import GrammarPackages.Proofs.LibraryCandidates
import GrammarPackages.Proofs.LoadOutcome
import GrammarPackages.Proofs.PlainView

namespace GrammarPackages

namespace Grammar

variable {d n s l : List Char}

/-- The mark of a repository, with either sign in each of its two places. -/
def IsMark (s : List Char) : Prop :=
  ∃ a b, (a = '-' ∨ a = '_') ∧ (b = '-' ∨ b = '_') ∧
    s = "tree".toList ++ a :: ("sitter".toList ++ [b])

theorem hyphen_not_mem_underscored (s : List Char) : '-' ∉ underscored s := by
  rw [underscored, List.mem_map]
  rintro ⟨c, -, he⟩
  split at he
  · cases he
  · next hc => exact hc he

theorem eq_of_underscored_eq (hs : '_' ∉ s) (h : underscored l = s) : l = s := by
  have hid : ∀ c ∈ l, (if c = '-' then '_' else c) = c := by
    intro c hc
    rw [if_neg]
    rintro rfl
    apply hs
    rw [← h]
    exact List.mem_map.2 ⟨'-', hc, rfl⟩
  rw [← h, underscored, List.map_congr_left hid, List.map_id']

theorem isMark_iff : IsMark s ↔ underscored s = "tree_sitter_".toList := by
  have hsign : ∀ c : Char, (if c = '-' then '_' else c) = '_' → c = '-' ∨ c = '_' := by
    intro c hc
    split at hc
    · next h => exact .inl h
    · exact .inr hc
  constructor
  · rintro ⟨a, b, rfl | rfl, rfl | rfl, rfl⟩ <;> rfl
  · intro h
    have hmark : "tree_sitter_".toList = "tree".toList ++ '_' :: ("sitter".toList ++ ['_']) := rfl
    rw [hmark] at h
    -- `s` is taken apart at the two signs; the letters between them are left as they are
    obtain ⟨tree, rest, rfl, htree, h⟩ := List.map_eq_append_iff.1 h
    obtain ⟨a, rest, rfl, ha, h⟩ := List.map_eq_cons_iff.1 h
    obtain ⟨sitter, rest, rfl, hsitter, h⟩ := List.map_eq_append_iff.1 h
    obtain ⟨b, rest, rfl, hb, h⟩ := List.map_eq_cons_iff.1 h
    obtain rfl := List.map_eq_nil_iff.1 h
    obtain rfl := eq_of_underscored_eq (by decide) htree
    obtain rfl := eq_of_underscored_eq (by decide) hsitter
    exact ⟨a, b, hsign a ha, hsign b hb, rfl⟩

theorem prefix_underscored_iff :
    "tree_sitter_".toList <+: underscored s ↔ ∃ mark, IsMark mark ∧ mark <+: s := by
  rw [underscored, List.prefix_map_iff]
  constructor
  · rintro ⟨mark, hmark, he⟩
    exact ⟨mark, isMark_iff.2 he.symm, hmark⟩
  · rintro ⟨mark, he, hmark⟩
    exact ⟨mark, hmark, (isMark_iff.1 he).symm⟩

/-- The name of a library that is called after a name is that name with underscores, less one mark
in front. -/
theorem nameOf_div_libraryName (dir : Path) (h : '/' ∉ n) :
    nameOf (dir / ⟨libraryName n⟩) = .ofList (dropLead "tree_sitter_".toList (underscored n)) := by
  have hhyphens : ∀ m, underscored n ≠ "tree-sitter-".toList ++ m := by
    intro m hm
    apply hyphen_not_mem_underscored n
    rw [hm]
    exact List.mem_append_left m (by decide)
  rw [libraryName, nameOf_div_of_lib dir (slash_not_mem_underscored h),
    dropFamily_of_not_hyphens hhyphens]

/-- The library that a directory of this name holds, called after it. -/
def StandsInside (files : FileView) (d : List Char) (library : Path) : Prop :=
  ∃ directory : Path, directory.fileName? = some d ∧ files.IsDirectory directory ∧
    inside directory d = library

/-- The name that the grammar of a directory has: what follows the directory's mark, with
underscores, less one more mark, if there is one. -/
structure NamedAfter (d : List Char) (name : String) : Prop where
  name_eq : ∃ n m, Unmarked d n ∧ Without "tree_sitter_".toList (underscored n) m ∧
    name = .ofList m
  unshortened_iff : ∀ n, Unmarked d n →
    (name = .ofList (underscored n) ↔ ∀ mark, IsMark mark → ¬ mark <+: n)

theorem namedAfter_of_standsInside {files : FileView} {library : Path}
    (h : StandsInside files d library) : NamedAfter d (nameOf library) := by
  obtain ⟨directory, hd, -, rfl⟩ := h
  have hplain := Path.isPlain_of_fileName?_eq_some hd
  have hslash : '/' ∉ dropFamily d := slash_not_mem_dropFamily hplain.no_slash
  have hwithout := without_dropLead "tree_sitter_".toList (underscored (dropFamily d))
  rw [inside, nameOf_div_libraryName directory hslash]
  constructor
  · exact ⟨_, _, unmarked_dropFamily d, hwithout, rfl⟩
  · intro n hn
    rw [← hn.dropFamily_eq, String.ofList_inj, hwithout.eq_iff (by simp), prefix_underscored_iff]
    push Not
    rfl

end Grammar

namespace Package

open Grammar (Without NamedAfter StandsInside underscored libraryName)

variable {σ γ : Type}

/-- A build calls the loader for declarations of the manifest, each in its place. -/
theorem exists_declaration_of_call {files : FileView} {loader : Grammar.Loader σ γ}
    {roots : List Path} {directory library : Path} {package name : String} {state : σ} {i : Nat}
    (h : (build files loader roots directory package state).calls[i]? = some (name, library)) :
    ∃ ds d, Manifest.read files directory = .ok ds ∧ ds[i]? = some d ∧
      callFor files roots d = some (name, library) := by
  cases hd : Manifest.read files directory with
  | error defect =>
    rw [build_of_rejected hd, Run.calls_of_reports] at h
    cases h
  | ok ds =>
    rw [build_of_read hd] at h
    obtain ⟨hlt, -⟩ := List.getElem?_eq_some_iff.1 h
    obtain ⟨rest, hrest⟩ : (buildFrom files loader roots package ds 0 ∅ state).calls.map some <+:
      ds.map (callFor files roots) := buildFrom_calls_prefix package 0 ∅
    have hi : (ds.map (callFor files roots))[i]? = some (some (name, library)) := by
      rw [← hrest, List.getElem?_append_left (by rwa [List.length_map]), List.getElem?_map, h,
        Option.map_some]
    rw [List.getElem?_map, Option.map_eq_some_iff] at hi
    obtain ⟨d, hdi, hc⟩ := hi
    exact ⟨ds, d, rfl, hdi, hc⟩

/-- A library inside a directory gets its grammar's name from that of the directory, and the loader
is asked for that name. -/
theorem build_names_after_directories :
    (∀ (dir : Path) (n : List Char), '/' ∉ n → ∃ m,
      Without "tree_sitter_".toList (underscored n) m ∧
        Grammar.nameOf (dir / ⟨libraryName n⟩) = .ofList m) ∧
    ∀ (files : FileView) (loader : Grammar.Loader σ γ) (roots : List Path) (directory : Path)
      (package : String) (state : σ) (i : Nat) (name : String) (library : Path),
      (build files loader roots directory package state).calls[i]? = some (name, library) →
        ∃ ds d, Manifest.read files directory = .ok ds ∧ ds[i]? = some d ∧
          Grammar.resolve files roots d.path = .ok library ∧
            ∀ dirName, StandsInside files dirName library → NamedAfter dirName name := by
  constructor
  · intro dir n hn
    exact ⟨_, Grammar.without_dropLead _ _, Grammar.nameOf_div_libraryName dir hn⟩
  · intro files loader roots directory package state i name library h
    obtain ⟨ds, d, hds, hd, hc⟩ := exists_declaration_of_call h
    obtain ⟨hresolve, rfl⟩ : _ ∧ name = Grammar.nameOf library := callFor_eq_some_iff.1 hc
    exact ⟨ds, d, hds, hd, hresolve, fun _ ↦ Grammar.namedAfter_of_standsInside⟩

def markedTwiceManifest : String :=
  "\x7b\"tree-sitter\":[[\"s\",[],\"tree-sitter-tree-sitter_a\",[],[],\"\",null,null]]\x7d"

def markedTwice : FileView := .plain [
  (.ofString "/r/tree-sitter-tree-sitter_a", none),
  (.ofString "/r/tree-sitter-tree-sitter_a/libtree_sitter_a.so", some ""),
  (.ofString "/p/package.json", some markedTwiceManifest)]

theorem read_markedTwice : Manifest.read markedTwice (.ofString "/p") =
    .ok [⟨"s", [], "tree-sitter-tree-sitter_a", [], [], "", none, none⟩] := by
  have hparse : (Manifest.parse markedTwiceManifest).toOption =
      some [⟨"s", [], "tree-sitter-tree-sitter_a", [], [], "", none, none⟩] := by decide +kernel
  exact Manifest.read_plain (by decide +kernel) hparse

theorem build_names_after_directories_of_markedTwice :
    let library : Path := .ofString "/r/tree-sitter-tree-sitter_a/libtree_sitter_a.so"
    let run := build markedTwice Grammar.StandIn.unread [.ofString "/r"] (.ofString "/p") "p" ()
    let d := "tree-sitter-tree-sitter_a".toList
    ('/' ∉ "tree-sitter_a".toList ∧ ∃ m,
      Without "tree_sitter_".toList (underscored "tree-sitter_a".toList) m ∧
        Grammar.nameOf (.ofString "/r/b" / ⟨libraryName "tree-sitter_a".toList⟩) = .ofList m) ∧
    run.calls[0]? = some ("a", library) ∧ StandsInside markedTwice d library ∧
      ∃ ds spec, Manifest.read markedTwice (.ofString "/p") = .ok ds ∧ ds[0]? = some spec ∧
        Grammar.resolve markedTwice [.ofString "/r"] spec.path = .ok library ∧
          NamedAfter d "a" := by
  intro library run d
  have hslash : '/' ∉ "tree-sitter_a".toList := by decide +kernel
  have hcall : callFor markedTwice [.ofString "/r"]
      ⟨"s", [], "tree-sitter-tree-sitter_a", [], [], "", none, none⟩ = some ("a", library) := by
    decide +kernel
  have hcalls : run.calls[0]? = some ("a", library) := by
    change (build _ _ _ _ _ _).calls[0]? = _
    rw [build_of_read read_markedTwice, buildFrom_cons_of_grammar hcall rfl]
    rfl
  have hinside : StandsInside markedTwice d library :=
    ⟨.ofString "/r/tree-sitter-tree-sitter_a", by decide +kernel, by decide +kernel,
      by decide +kernel⟩
  have h := build_names_after_directories (σ := Unit) (γ := Grammar.StandIn)
  obtain ⟨ds, spec, hds, hspec, hresolve, hname⟩ := h.2 _ _ _ _ _ _ _ _ _ hcalls
  exact ⟨⟨hslash, h.1 (.ofString "/r/b") _ hslash⟩, hcalls, hinside, ds, spec, hds, hspec,
    hresolve, hname d hinside⟩

end Package

end GrammarPackages
