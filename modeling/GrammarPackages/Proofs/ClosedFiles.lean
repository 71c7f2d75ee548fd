import Mathlib.Data.List.Basic
import GrammarPackages.Files.Tree
import GrammarPackages.Proofs.PathJoin

namespace GrammarPackages

namespace FileTree

open GrammarPackages.Path (Blank IsPlain)

variable {t : FileTree} {reach : Nat → Bool} {links node n : Nat} {l : List (List Char)}
variable {s : List Char} {p : Path}

theorem walk_blank (hdir : t.IsDirectory node) :
    t.walk reach links node ([] :: l) = t.walk reach links node l := by
  rw [walk, if_neg (not_not.2 hdir), if_pos (.inl rfl)]

theorem walk_entry (hdir : t.IsDirectory node) (hs : ¬ Blank s ∧ s ≠ ['.', '.'])
    (h : t.entry node s = .ok n) (hreach : reach n) (hn : t.target? n = none) :
    t.walk reach links node (s :: l) = t.walk reach links n l := by
  rw [walk, if_neg (not_not.2 hdir), if_neg hs.1, if_neg hs.2, h]
  simp only [hreach, not_true, if_false, hn]

theorem walk_of_entry_eq_error {f : FileFault} (hdir : t.IsDirectory node)
    (hs : ¬ Blank s ∧ s ≠ ['.', '.']) (h : t.entry node s = .error f) :
    t.walk reach links node (s :: l) = .error f := by
  rw [walk, if_neg (not_not.2 hdir), if_neg hs.1, if_neg hs.2, h]

/-- A walk that goes one segment further has come to a directory before it, with a slash at its end
or without. -/
theorem exists_directory_of_walk_concat (h : t.walk reach links node (l ++ [s]) = .ok n) :
    ∃ m, t.walk reach links node l = .ok m ∧ t.walk reach links node (l ++ [[]]) = .ok m ∧
      t.IsDirectory m := by
  induction links, node, l using walk.induct t reach with
  | case1 links node =>
    rw [List.nil_append, walk] at h
    split at h
    · cases h
    · next hdir =>
      rw [not_not] at hdir
      exact ⟨node, by rw [walk], by simp [walk, hdir, Blank], hdir⟩
  | case2 links node s' rest hdir =>
    rw [List.cons_append, walk, if_pos hdir] at h
    cases h
  | case3 links node s' rest hdir hblank ih =>
    simp only [List.cons_append, walk, if_neg hdir, if_pos hblank] at h ⊢
    exact ih h
  | case4 links node rest hdir hblank ih =>
    simp only [List.cons_append, walk, if_neg hdir, if_neg hblank, if_true] at h ⊢
    exact ih h
  | case5 links node s' rest hdir hblank hup f hentry =>
    simp only [List.cons_append, walk, if_neg hdir, if_neg hblank, if_neg hup, hentry] at h
    cases h
  | case6 links node s' rest hdir hblank hup m hentry hreach =>
    simp only [List.cons_append, walk, if_neg hdir, if_neg hblank, if_neg hup, hentry,
      if_pos hreach] at h
    cases h
  | case7 node s' rest hdir hblank hup m hentry hreach links hlink ih =>
    simp only [List.cons_append, walk, if_neg hdir, if_neg hblank, if_neg hup, hentry,
      if_neg hreach, hlink] at h ⊢
    exact ih h
  | case8 node s' rest hdir hblank hup m hentry hreach target hlink =>
    simp only [List.cons_append, walk, if_neg hdir, if_neg hblank, if_neg hup, hentry,
      if_neg hreach, hlink] at h
    cases h
  | case9 node s' rest hdir hblank hup m hentry hreach target links hlink ih =>
    simp only [List.cons_append, walk, if_neg hdir, if_neg hblank, if_neg hup, hentry,
      if_neg hreach, hlink, ← List.append_assoc] at h ⊢
    exact ih h

/-- The paths that are looked up at all. -/
def Admits (p : Path) : Prop :=
  '\x00' ∉ p.chars ∧ bytes p.chars < pathLimit ∧ p.chars ≠ []

instance (p : Path) : Decidable (Admits p) := inferInstanceAs (Decidable (_ ∧ _))

theorem find_eq_ok_iff : t.find p = .ok n ↔
    Admits p ∧ t.walk anywhere linkLimit (startOf p t.working) p.segments = .ok n := by
  have hfind : t.find p = if '\x00' ∉ p.chars ∧ pathLimit ≤ bytes p.chars then
      .error .nameTooLong else t.follow anywhere p := by
    rw [find, checkLength]
    split <;> rfl
  rw [hfind, follow, Admits]
  by_cases hnul : '\x00' ∈ p.chars
  · simp [hnul]
  · by_cases hlong : bytes p.chars < pathLimit
    · rw [if_neg (not_and.2 fun _ ↦ Nat.not_le.2 hlong), if_neg hnul]
      by_cases hnil : p.chars = []
      · simp [hnil]
      · simp [hnul, hlong, hnil]
    · simp [hnul, hlong, Nat.not_lt.1 hlong]

theorem isFile_view_iff : t.view.IsFile p ↔ ∃ n, t.find p = .ok n ∧ ¬ t.IsDirectory n := by
  change t.kind p = some .file ↔ _
  rw [kind]
  cases t.find p with
  | error f => simp
  | ok n => by_cases h : t.IsDirectory n <;> simp [h]

theorem isDirectory_view_iff :
    t.view.IsDirectory p ↔ ∃ n, t.find p = .ok n ∧ t.IsDirectory n := by
  change t.kind p = some .directory ↔ _
  rw [kind]
  cases t.find p with
  | error f => simp
  | ok n => by_cases h : t.IsDirectory n <;> simp [h]

theorem isFile_view_of_walk (hp : Admits p)
    (h : t.walk anywhere linkLimit (startOf p t.working) p.segments = .ok n)
    (hn : ¬ t.IsDirectory n) : t.view.IsFile p :=
  isFile_view_iff.2 ⟨n, find_eq_ok_iff.2 ⟨hp, h⟩, hn⟩

theorem isDirectory_view_of_walk (hp : Admits p)
    (h : t.walk anywhere linkLimit (startOf p t.working) p.segments = .ok n)
    (hn : t.IsDirectory n) : t.view.IsDirectory p :=
  isDirectory_view_iff.2 ⟨n, find_eq_ok_iff.2 ⟨hp, h⟩, hn⟩

theorem not_isFile_view_of_walk {f : FileFault}
    (h : t.walk anywhere linkLimit (startOf p t.working) p.segments = .error f) :
    ¬ t.view.IsFile p := by
  intro hfile
  obtain ⟨n, hn, -⟩ := isFile_view_iff.1 hfile
  obtain ⟨-, hwalk⟩ := find_eq_ok_iff.1 hn
  cases h.symm.trans hwalk

end FileTree

end GrammarPackages
