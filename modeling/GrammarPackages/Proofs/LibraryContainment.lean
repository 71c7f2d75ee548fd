import GrammarPackages.Files.Tree
import GrammarPackages.Proofs.LibraryCandidates
import GrammarPackages.Proofs.PlainView

namespace GrammarPackages

namespace Path

variable {p q root : Path} {d s : List Char} {front rest : List Component}

/-- Strictly below the root, with no step up on the way. -/
def IsBelow (p root : Path) : Prop :=
  ∃ rest, rest ≠ [] ∧ .up ∉ rest ∧ p.components = root.components ++ rest

theorem normalize_congr (h : p ≈ q) : p.normalize = q.normalize := congrArg ofComponents h

theorem isBelow_of_concat (hp : p.components = root.components ++ rest ++ [.name s])
    (hup : .up ∉ rest) : p.IsBelow root := by
  refine ⟨rest ++ [.name s], by simp, ?_, by rw [hp, List.append_assoc]⟩
  intro h
  rcases List.mem_append.1 h with h | h
  · exact hup h
  · cases List.mem_singleton.1 h

theorem steps_eq_nil_or_concat (hup : .up ∉ steps p.segments) :
    steps p.segments = [] ∨ ∃ front d, steps p.segments = front ++ [.name d] := by
  rcases steps_segments_cases p with hnil | ⟨front, c, hconcat, hc⟩
  · exact .inl hnil
  · cases c with
    | root => cases hc
    | here => cases hc
    | up => exact absurd (hconcat ▸ List.mem_concat_self) hup
    | name d => exact .inr ⟨front, d, hconcat⟩

/-- What a relative path adds to a root. -/
theorem exists_components_div (root : Path) (hrel : ¬ p.IsAbsolute) (hup : .up ∉ p.components) :
    ∃ rest, (root / p).components = root.components ++ rest ∧ .up ∉ rest ∧
      ((rest = [] ∧ ∀ s, .name s ∉ p.components) ∨ (∃ front d, rest = front ++ [.name d]) ∨
        root = ⟨[]⟩ ∧ rest = [.here]) := by
  have hup' : .up ∉ steps p.segments := fun h ↦ hup (List.mem_append_right _ h)
  have hnames : steps p.segments = [] → ∀ s, .name s ∉ p.components := by
    intro hsteps s hs
    rw [components_eq, hsteps, List.append_nil] at hs
    exact not_mem_anchor_name p s hs
  by_cases hroot : root = ⟨[]⟩
  · subst hroot
    refine ⟨p.components, by rw [nil_div hrel]; rfl, hup, ?_⟩
    rcases steps_eq_nil_or_concat hup' with hsteps | ⟨front, d, hsteps⟩
    · have hcomponents : p.components = p.anchor.toList := by
        rw [components_eq, hsteps, List.append_nil]
      rcases anchor_cases p with h | h | h
      · exact .inl ⟨by rw [hcomponents, h]; rfl, hnames hsteps⟩
      · rw [anchor, if_neg hrel] at h
        split at h <;> cases h
      · exact .inr (.inr ⟨rfl, by rw [hcomponents, h]; rfl⟩)
    · exact .inr (.inl ⟨p.anchor.toList ++ front, d, by
        rw [components_eq, hsteps, List.append_assoc]⟩)
  · have hne : root.chars ≠ [] := fun h ↦ hroot (congrArg Path.mk h)
    refine ⟨steps p.segments, components_div hne hrel, hup', ?_⟩
    rcases steps_eq_nil_or_concat hup' with hsteps | hsteps
    · exact .inl ⟨hsteps, hnames hsteps⟩
    · exact .inr (.inl hsteps)

end Path

namespace Grammar

open FileTree
open GrammarPackages.Path (IsPlain)

variable {files : FileView} {roots : List Path} {path : String} {library p q root : Path}
variable {d : List Char} {front : List Path.Component}

theorem components_inside (h : p.normalize.fileName? = some d) :
    ∃ s, (inside p.normalize d).components = p.components ++ [.name s] := by
  obtain ⟨-, s, hs, hinside⟩ := exists_inside_eq h
  exact ⟨s, by rw [hinside, Path.components_div_plain _ hs, Path.components_normalize]⟩

/-- A candidate lies below the root, unless the path names nothing there. -/
theorem isBelow_of_mem_candidates (hrel : ¬ (Path.ofString path).IsAbsolute)
    (hup : .up ∉ (Path.ofString path).components)
    (h : library ∈ candidates (root / .ofString path)) :
    library.IsBelow root ∨ (∀ s, .name s ∉ (Path.ofString path).components) ∧
      (library ≈ root ∨ library = withExtension root.normalize) := by
  obtain ⟨rest, hdiv, hrest, hcases⟩ := Path.exists_components_div root hrel hup
  rcases mem_candidates_iff.1 h with rfl | rfl | ⟨d, hd, rfl⟩
  · have hbase := Path.components_normalize (root / .ofString path)
    rw [hdiv] at hbase
    rcases hcases with ⟨rfl, hnames⟩ | hcases
    · rw [List.append_nil] at hbase
      exact .inr ⟨hnames, .inl hbase⟩
    · refine .inl ⟨rest, ?_, hrest, hbase⟩
      rcases hcases with ⟨front, d, rfl⟩ | ⟨-, rfl⟩ <;> simp
  · rcases hcases with ⟨rfl, hnames⟩ | ⟨front, d, rfl⟩ | ⟨rfl, rfl⟩
    · rw [List.append_nil] at hdiv
      exact .inr ⟨hnames, .inr (congrArg withExtension (Path.normalize_congr hdiv))⟩
    · rw [← List.append_assoc] at hdiv
      have hd : IsPlain d := Path.isPlain_of_mem_components (hdiv ▸ List.mem_concat_self)
      refine .inl (Path.isBelow_of_concat (components_withExtension hdiv hd) fun hfront ↦ ?_)
      exact hrest (List.mem_append_left _ hfront)
    · -- nothing but a dot below the empty root
      have hdot : (⟨[]⟩ / Path.ofString path : Path).normalize = ⟨['.']⟩ :=
        congrArg Path.ofComponents hdiv
      have hname : (withExtension ⟨['.']⟩).components =
        (⟨[]⟩ : Path).components ++ [] ++ [.name "..so".toList] := rfl
      rw [hdot]
      exact .inl (Path.isBelow_of_concat hname List.not_mem_nil)
  · obtain ⟨s, hs⟩ := components_inside hd
    rw [hdiv] at hs
    exact .inl (Path.isBelow_of_concat hs hrest)

/-- A relative path without a step up leads below a root, if it names anything there. Else it may
lead to the root itself, or beside it. -/
theorem resolve_below_root (hrel : ¬ (Path.ofString path).IsAbsolute)
    (hup : .up ∉ (Path.ofString path).components) (h : resolve files roots path = .ok library) :
    ∃ root ∈ roots, library.IsBelow root ∨ (∀ s, .name s ∉ (Path.ofString path).components) ∧
      (library ≈ root ∨ library = withExtension root.normalize) := by
  obtain ⟨-, hfound⟩ := mem_candidates_of_resolve h
  rw [if_neg hrel] at hfound
  obtain ⟨root, hroot, hmem⟩ := hfound
  exact ⟨root, hroot, isBelow_of_mem_candidates hrel hup hmem⟩

theorem resolve_below_root_of_dotted :
    let files : FileView := .plain [(.ofString "/r/g.so", some "")]
    let roots : List Path := [.ofString "/e", .ofString "/r"]
    (¬ (Path.ofString "./g").IsAbsolute ∧ .up ∉ (Path.ofString "./g").components ∧
      resolve files roots "./g" = .ok (.ofString "/r/g.so")) ∧
    ∃ root ∈ roots, (Path.ofString "/r/g.so").IsBelow root ∨
      (∀ s, .name s ∉ (Path.ofString "./g").components) ∧
        (Path.ofString "/r/g.so" ≈ root ∨ .ofString "/r/g.so" = withExtension root.normalize) := by
  intro files roots
  have hrel : ¬ (Path.ofString "./g").IsAbsolute := by decide +kernel
  have hup : .up ∉ (Path.ofString "./g").components := by decide +kernel
  have h : resolve files roots "./g" = .ok (.ofString "/r/g.so") :=
    eq_ok_of_toOption (by decide +kernel)
  exact ⟨⟨hrel, hup, h⟩, resolve_below_root hrel hup h⟩

/-- A relative path without a step up leads below a root. -/
def StaysBelow (files : FileView) (roots : List Path) (path : String) : Prop :=
  ¬ (Path.ofString path).IsAbsolute → .up ∉ (Path.ofString path).components →
    ∀ library, resolve files roots path = .ok library →
      ∃ root ∈ roots, ∃ rest, rest ≠ [] ∧ library.components = root.components ++ rest

/-- The files `/f` and `/r.so`. -/
def besideRoots : FileTree where
  nodes := #[⟨0, [], .directory, true⟩, ⟨0, "f".toList, .file .empty, true⟩,
    ⟨0, "r.so".toList, .file .empty, true⟩]
  working := 0

theorem isFile_besideRoots :
    besideRoots.view.IsFile (.ofString "/f") ∧ ¬ besideRoots.view.IsFile (.ofString "/r") ∧
      besideRoots.view.IsFile (.ofString "/r.so") := by
  have hroot : besideRoots.IsDirectory 0 := trivial
  have hf : besideRoots.entry 0 "f".toList = .ok 1 := eq_ok_of_toOption (by decide +kernel)
  have hr : besideRoots.entry 0 "r".toList = .error .notFound := by decide +kernel
  have hso : besideRoots.entry 0 "r.so".toList = .ok 2 := eq_ok_of_toOption (by decide +kernel)
  have hfile : besideRoots.walk anywhere linkLimit 0 [[], "f".toList] = .ok 1 := by
    rw [walk_blank hroot, walk_entry hroot (by decide) hf rfl rfl, walk]
  have hmissing : besideRoots.walk anywhere linkLimit 0 [[], "r".toList] = .error .notFound := by
    rw [walk_blank hroot, walk_of_entry_eq_error hroot (by decide) hr]
  have hfile' : besideRoots.walk anywhere linkLimit 0 [[], "r.so".toList] = .ok 2 := by
    rw [walk_blank hroot, walk_entry hroot (by decide) hso rfl rfl, walk]
  exact ⟨isFile_view_of_walk (by decide +kernel) hfile id, not_isFile_view_of_walk hmissing,
    isFile_view_of_walk (by decide +kernel) hfile' id⟩

theorem resolve_besideRoots :
    resolve besideRoots.view [.ofString "/r"] "." = .ok (.ofString "/r.so") ∧
      resolve besideRoots.view [.ofString "/f"] "" = .ok (.ofString "/f") := by
  obtain ⟨hfile, hroot, hbeside⟩ := isFile_besideRoots
  constructor
  · have hbase : .ofString "/r" = (Path.ofString "/r" / .ofString ".").normalize := by
      decide +kernel
    have hwith : .ofString "/r.so" = withExtension (.ofString "/r") := by decide +kernel
    refine resolve_sole_root (by decide +kernel) ?_
    rw [hwith] at hbeside ⊢
    rw [hbase] at hroot hbeside
    exact hbase ▸ .extended hroot hbeside
  · have hbase : .ofString "/f" = (Path.ofString "/f" / .ofString "").normalize := by
      decide +kernel
    refine resolve_sole_root (by decide +kernel) ?_
    rw [hbase] at hfile
    exact hbase ▸ .itself hfile

/-- A path that is only a dot, or nothing at all, leads beside a root or to the root itself. -/
theorem staysBelow_fails :
    ¬ StaysBelow besideRoots.view [.ofString "/r"] "." ∧
      ¬ StaysBelow besideRoots.view [.ofString "/f"] "" := by
  obtain ⟨hbeside, hroot⟩ := resolve_besideRoots
  constructor
  · intro h
    obtain ⟨root, hmem, rest, -, hrest⟩ := h (by decide +kernel) (by decide +kernel) _ hbeside
    rw [List.mem_singleton.1 hmem] at hrest
    have hprefix : ¬ (Path.ofString "/r").components <+: (Path.ofString "/r.so").components := by
      decide +kernel
    exact hprefix ⟨rest, hrest.symm⟩
  · intro h
    obtain ⟨root, hmem, rest, hne, hrest⟩ := h (by decide +kernel) (by decide +kernel) _ hroot
    rw [List.mem_singleton.1 hmem] at hrest
    exact hne (List.append_cancel_left (hrest.symm.trans (List.append_nil _).symm))

end Grammar

end GrammarPackages
