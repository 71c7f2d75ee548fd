import GrammarPackages.Proofs.PathJoin

namespace GrammarPackages.Package

variable {files : FileView} {package : String} {roots : List Path}

theorem probe_fst (files : FileView) (package : String) (roots : List Path) :
    (probe files package roots).1 =
      (roots.find? (fun root ↦ files.Exists (root / .ofString package))).map
        (· / .ofString package) := by
  induction roots with
  | nil => rfl
  | cons root rest ih =>
    by_cases h : files.Exists (root / .ofString package)
    · simp [probe, h]
    · simp [probe, h, ih]

theorem locate_of_isName (h : IsName (.ofString package)) :
    locate files roots package = probe files package roots :=
  if_pos h

theorem locate_fst_eq_some_iff (h : IsName (.ofString package)) {directory : Path} :
    (locate files roots package).1 = some directory ↔
      ∃ root, roots.find? (fun root ↦ files.Exists (root / .ofString package)) = some root ∧
        root / .ofString package = directory := by
  rw [locate_of_isName h, probe_fst, Option.map_eq_some_iff]

theorem locate_singleton_of_not_exists (h : IsName (.ofString package)) {root : Path}
    (hroot : ¬ files.Exists (root / .ofString package)) :
    (locate files [root] package).1 = none := by
  rw [locate_of_isName h, probe_fst, List.find?_cons_of_neg (by simpa using hroot)]
  rfl

end GrammarPackages.Package
