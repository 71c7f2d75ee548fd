import Mathlib.Data.List.Find
import GrammarPackages.SearchPath
import GrammarPackages.Grammar.StandIn
import GrammarPackages.Proofs.AlikeRoots
import GrammarPackages.Proofs.LoadOutcome
import GrammarPackages.Proofs.PackageSearch
import GrammarPackages.Proofs.PlainView
import GrammarPackages.Proofs.Respelling
import GrammarPackages.Proofs.RootMerge

namespace GrammarPackages

namespace SearchPath

/-- A test that goes by the path, not by its spelling, is passed first by a first spelling. -/
theorem find?_firsts {hit : Path → Bool} (hhit : ∀ p q, p ≈ q → hit p = hit q)
    (l : List Path) : (firsts l).find? hit = l.find? hit := by
  induction l with
  | nil => rfl
  | cons p l ih =>
    rw [firsts]
    by_cases hp : hit p = true
    · rw [List.find?_cons_of_pos hp, List.find?_cons_of_pos hp]
    · rw [List.find?_cons_of_neg hp, List.find?_cons_of_neg hp, List.find?_filter, ← ih]
      apply List.find?_congr
      intro q _
      have hpq : hit q = true → ¬ p ≈ q := fun hq he ↦ hp ((hhit p q he).trans hq)
      rw [Bool.eq_iff_iff, decide_eq_true_iff, decide_eq_true_iff]
      exact and_iff_right_of_imp hpq

theorem findSome?_eq_bind_find? {α β : Type} (f : α → Option β) (l : List α) :
    l.findSome? f = (l.find? (fun a ↦ (f a).isSome)).bind f := by
  induction l with
  | nil => rfl
  | cons a l ih =>
    cases ha : f a with
    | none => simp [ha, ih]
    | some b => simp [ha]

theorem findSome?_firsts {α : Type} {f : Path → Option α} (hf : ∀ p q, p ≈ q → f p = f q)
    (l : List Path) : (firsts l).findSome? f = l.findSome? f := by
  have hhit : ∀ p q, p ≈ q → (f p).isSome = (f q).isSome :=
    fun p q h ↦ congrArg Option.isSome (hf p q h)
  rw [findSome?_eq_bind_find?, findSome?_eq_bind_find?, find?_firsts hhit]

end SearchPath

open SearchPath

namespace Grammar

variable {files : FileView}

/-- The library that the first of the roots, as they are listed, has for the path. -/
def firstLibrary (files : FileView) (roots : List Path) (path : String) : Option Path :=
  if (Path.ofString path).IsAbsolute then candidate? files (.ofString path)
  else (roots.map (· / .ofString path)).findSome? (candidate? files)

theorem resolve_eq_firstLibrary (files : FileView) (roots : List Path) (path : String) :
    resolve files roots path =
      (firstLibrary files roots path).elim (.error (.notFound path)) .ok := by
  rw [firstLibrary, List.findSome?_map, resolve]
  simp only [Function.comp_def]
  cases (if (Path.ofString path).IsAbsolute then candidate? files (.ofString path)
    else roots.findSome? (fun root ↦ candidate? files (root / .ofString path))) <;> rfl

theorem resolve_firsts (files : FileView) (roots : List Path) (path : String) :
    resolve files (firsts roots) path = resolve files roots path := by
  have hfind : (firsts roots).findSome? (fun root ↦ candidate? files (root / .ofString path)) =
      roots.findSome? (fun root ↦ candidate? files (root / .ofString path)) :=
    findSome?_firsts (fun _ _ h ↦ candidate?_congr (Path.div_equiv_div h _)) roots
  simp only [resolve, hfind]

end Grammar

namespace Package

variable {σ γ : Type} {files : FileView}

/-- The entry of this name that the first of the roots, as they are listed, has, if the name is a
plain one. -/
def firstEntry (files : FileView) (roots : List Path) (package : String) : Option Path :=
  if IsName (.ofString package) then
    (roots.map (· / .ofString package)).find? (fun p ↦ files.Exists p)
  else none

theorem locate_eq_firstEntry (files : FileView) (roots : List Path) (package : String) :
    (locate files roots package).1 = firstEntry files roots package := by
  rw [firstEntry]
  split
  · next hname => rw [locate_of_isName hname, probe_fst, List.find?_map]; rfl
  · next hname => rw [locate, if_neg hname]

theorem locate_firsts (hfiles : Path.SkipsBlanks files.kind) (roots : List Path)
    (package : String) :
    (locate files (firsts roots) package).1 = (locate files roots package).1 := by
  have hhit : ∀ p q : Path, p ≈ q → decide (files.Exists (p / .ofString package)) =
      decide (files.Exists (q / .ofString package)) := by
    intro p q h
    rw [decide_eq_decide, FileView.Exists, FileView.Exists, hfiles.div_congr h]
  by_cases hname : IsName (.ofString package)
  · rw [locate_of_isName hname, locate_of_isName hname, probe_fst, probe_fst, find?_firsts hhit]
  · rw [locate, locate, if_neg hname, if_neg hname]

theorem load_firsts (hfiles : Path.SkipsBlanks files.kind) (loader : Grammar.Loader σ γ)
    (roots : List Path) (package : String) (state : σ) :
    (load files loader roots package state).Matches
      (load files loader (firsts roots) package state) := by
  have hmanifest := congrArg (Option.map (Manifest.read files)) (locate_firsts hfiles roots package)
  refine load_matches hmanifest fun ds _ ↦ ?_
  refine buildFrom_congr package package 0 ∅ (List.map_congr_left fun d _ ↦ ?_)
  rw [callFor, callFor, Grammar.resolve_firsts]

/-- A root that is listed again, spelled in whatever way, is never missed: what is found below a
search path is what is found below the list it was made of. -/
theorem found_past_repeats (files : FileView) (roots : List Path) :
    (∀ path, Grammar.resolve files (SearchPath.ofList roots).roots path =
      (Grammar.firstLibrary files roots path).elim (.error (.notFound path)) .ok) ∧
    (Path.SkipsBlanks files.kind → ∀ package,
      (locate files (SearchPath.ofList roots).roots package).1 = firstEntry files roots package ∧
        ∀ {σ γ : Type} (loader : Grammar.Loader σ γ) (state : σ),
          (load files loader roots package state).Matches
            (load files loader (SearchPath.ofList roots).roots package state)) := by
  constructor
  · intro path
    rw [← Grammar.resolve_eq_firstLibrary]
    exact Grammar.resolve_firsts files roots path
  · intro hfiles package
    constructor
    · rw [← locate_eq_firstEntry]
      exact locate_firsts hfiles roots package
    · intro σ γ loader state
      exact load_firsts hfiles loader roots package state

theorem found_past_repeats_of_respelled :
    let roots : List Path := [.ofString "r/", .ofString "/s/.", .ofString "r", .ofString "//s"]
    let run roots := load oneRoot Grammar.StandIn.unread roots "p" ()
    (Path.SkipsBlanks oneRoot.kind ∧
      (SearchPath.ofList roots).roots = [.ofString "r/", .ofString "/s/."]) ∧
    Grammar.resolve oneRoot (SearchPath.ofList roots).roots "g" = .ok (.ofString "/s/g") ∧
      (locate oneRoot (SearchPath.ofList roots).roots "p").1 = some (.ofString "/s/./p") ∧
      (run roots).Matches (run (SearchPath.ofList roots).roots) := by
  intro roots run
  have hfiles : Path.SkipsBlanks oneRoot.kind := (FileView.skipsBlanks_normalized _).kind
  obtain ⟨hresolve, hrest⟩ := found_past_repeats oneRoot roots
  obtain ⟨hlocate, hload⟩ := hrest hfiles "p"
  have hlibrary : Grammar.firstLibrary oneRoot roots "g" = some (.ofString "/s/g") := by
    decide +kernel
  have hentry : firstEntry oneRoot roots "p" = some (.ofString "/s/./p") := by decide +kernel
  refine ⟨⟨hfiles, by decide +kernel⟩, ?_, hlocate.trans hentry, hload _ ()⟩
  rw [hresolve, hlibrary]
  rfl

end Package

end GrammarPackages
