import GrammarPackages.Files.Tree
import GrammarPackages.Proofs.ClosedFiles
import GrammarPackages.Proofs.PackageNames
import GrammarPackages.Proofs.PlainView

namespace GrammarPackages

namespace Path

variable {name c : List Char}

/-- A plain name, a slash, and from there on nothing but slashes and dots that stand alone. -/
structure TrailsOff (name c : List Char) : Prop where
  plain : IsPlain c
  tail : ∃ rest, name = c ++ '/' :: rest ∧ ∀ s ∈ rest.splitOn '/', Blank s

theorem TrailsOff.spellsName (h : TrailsOff name c) : SpellsName ⟨name⟩ c := by
  obtain ⟨rest, rfl, hrest⟩ := h.tail
  have hc : c.splitOn '/' = [c] := h.plain.segments_eq
  have hsegments : (⟨c ++ '/' :: rest⟩ : Path).segments = c :: rest.splitOn '/' := by
    rw [segments, List.splitOn_append_cons_self, hc]
    rfl
  refine ⟨h.plain, rest.splitOn '/', hrest, ?_⟩
  rw [← hsegments, intercalate_segments]

theorem SpellsName.trailsOff (h : SpellsName ⟨name⟩ c) (hslash : '/' ∈ name) :
    TrailsOff name c := by
  obtain ⟨blanks, hblanks, hsegments⟩ := h.exists_segments
  obtain ⟨front, rest, rfl, hfront⟩ := List.eq_append_cons_of_mem hslash
  rw [segments, List.splitOn_append_cons_self, List.splitOn_eq_singleton hfront] at hsegments
  obtain ⟨rfl, rfl⟩ := List.cons.inj hsegments
  exact ⟨h.plain, rest, rfl, hblanks⟩

theorem SpellsName.eq_of_slash_not_mem (h : SpellsName ⟨name⟩ c) (hslash : '/' ∉ name) :
    name = c := by
  obtain ⟨blanks, -, hsegments⟩ := h.exists_segments
  rw [segments, List.splitOn_eq_singleton hslash] at hsegments
  exact (List.cons.inj hsegments).1

theorem IsPlain.spellsName (h : IsPlain name) : SpellsName ⟨name⟩ name :=
  components_eq_name_iff.1 h.components_eq

end Path

namespace Package

open FileTree
open GrammarPackages.Path (IsPlain SpellsName TrailsOff)

variable {files : FileView} {roots : List Path} {package : String} {c : List Char}

/-- Names get past the check that are plain, or trail off behind a plain one. -/
theorem isName_iff_isPlain_or_trailsOff : IsName (.ofString package) ↔
    IsPlain package.toList ∨ ∃ c, TrailsOff package.toList c := by
  rw [isName_iff]
  constructor
  · rintro ⟨c, hc⟩
    by_cases hslash : '/' ∈ package.toList
    · exact .inr ⟨c, hc.trailsOff hslash⟩
    · obtain rfl := hc.eq_of_slash_not_mem hslash
      exact .inl hc.plain
  · rintro (h | ⟨c, hc⟩)
    · exact ⟨_, h.spellsName⟩
    · exact ⟨c, hc.spellsName⟩

theorem nameRejected_not_mem_probe (files : FileView) (package : String) (roots : List Path) :
    .nameRejected package ∉ (probe files package roots).2 := by
  induction roots with
  | nil => exact List.not_mem_nil
  | cons root roots ih =>
    rw [probe]
    split
    · simp
    · simpa using ih

theorem locate_eq_rejected_iff :
    locate files roots package = (none, [.nameRejected package]) ↔
      ¬ IsName (.ofString package) := by
  constructor
  · intro h hname
    apply nameRejected_not_mem_probe files package roots
    rw [← locate_of_isName hname, h]
    exact List.mem_singleton_self _
  · exact fun h ↦ if_neg h

/-- Which names a search looks for, told by their characters. -/
structure RefusesByCharacters (files : FileView) (roots : List Path) (package : String)
    (located : Option Path × List Event) : Prop where
  refused_iff : located = (none, [.nameRejected package]) ↔
    ¬ IsPlain package.toList ∧ ∀ c, ¬ TrailsOff package.toList c
  slashed : '/' ∈ package.toList → (∀ c, ¬ TrailsOff package.toList c) →
    located = (none, [.nameRejected package])
  dotted : package = "" ∨ package = "." ∨ package = ".." →
    located = (none, [.nameRejected package])
  notFound : ∀ {σ γ : Type} (loader : Grammar.Loader σ γ) (state : σ),
    located = (none, [.nameRejected package]) → load files loader roots package state =
      ⟨.error (.notFound package), [.report (.nameRejected package)], state⟩
  /-- What is found then lies right below a root all the same. -/
  trailing : ∀ c, TrailsOff package.toList c → located = probe files package roots ∧
    ∀ directory, located.1 = some directory →
      ∃ root ∈ roots, directory = root / .ofString package ∧
        directory.components = root.components ++ [.name c]

/-- No root is tried for a name that is neither plain nor a plain one with slashes and dots behind
it. A slash alone does not keep a name from the roots. -/
theorem locate_refuses_by_characters (files : FileView) (roots : List Path) (package : String) :
    RefusesByCharacters files roots package (locate files roots package) where
  refused_iff := by
    rw [locate_eq_rejected_iff, isName_iff_isPlain_or_trailsOff, not_or, not_exists]
  slashed hslash h := by
    rw [locate_eq_rejected_iff, isName_iff_isPlain_or_trailsOff]
    rintro (hplain | ⟨c, hc⟩)
    · exact hplain.no_slash hslash
    · exact h c hc
  dotted h := by
    rw [locate_eq_rejected_iff]
    rcases h with rfl | rfl | rfl <;> decide +kernel
  notFound loader state h := by
    have hnone : (locate files roots package).1 = none := by rw [h]
    rw [load_of_absent hnone, h]
    rfl
  trailing c hc := by
    have hname := isName_iff.2 ⟨c, hc.spellsName⟩
    refine ⟨locate_of_isName hname, fun directory h ↦ ?_⟩
    obtain ⟨root, hroot, rfl⟩ := (locate_fst_eq_some_iff hname).1 h
    exact ⟨root, List.mem_of_find?_eq_some hroot, rfl,
      components_div_of_spellsName root hc.spellsName⟩

/-- A name with a slash in it is refused before a root is tried. -/
def RefusesSlashes (files : FileView) (roots : List Path) (package : String) : Prop :=
  '/' ∈ package.toList → locate files roots package = (none, [.nameRejected package])

def onePackage : FileTree where
  nodes := #[⟨0, [], .directory, true⟩, ⟨0, ['p'], .directory, true⟩]
  working := 0

theorem exists_onePackage : onePackage.view.Exists (.ofString "/" / .ofString "p/") := by
  have hroot : onePackage.IsDirectory 0 := trivial
  have hdir : onePackage.IsDirectory 1 := trivial
  have hp : onePackage.entry 0 ['p'] = .ok 1 := eq_ok_of_toOption (by decide +kernel)
  have hwalk : onePackage.walk anywhere linkLimit 0 [[], ['p'], []] = .ok 1 := by
    rw [walk_blank hroot, walk_entry hroot (by decide) hp rfl rfl, walk_blank hdir, walk]
  have hview : onePackage.view.IsDirectory (.ofString "/" / .ofString "p/") :=
    isDirectory_view_of_walk (by decide +kernel) hwalk hdir
  rw [FileView.Exists, hview]
  rfl

theorem refusesSlashes_fails : ¬ RefusesSlashes onePackage.view [.ofString "/"] "p/" := by
  intro h
  have hname : IsName (.ofString "p/") := by decide +kernel
  have hlocated : (locate onePackage.view [.ofString "/"] "p/").1 =
      some (.ofString "/" / .ofString "p/") := by
    rw [locate_of_isName hname, probe, if_pos exists_onePackage]
  rw [h (by decide +kernel)] at hlocated
  cases hlocated

end Package

end GrammarPackages
