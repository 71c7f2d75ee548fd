import Mathlib.Data.List.Forall2
import GrammarPackages.SearchPath
import GrammarPackages.Grammar.StandIn
import GrammarPackages.Proofs.LoadOutcome
import GrammarPackages.Proofs.PackageSearch
import GrammarPackages.Proofs.PlainView
import GrammarPackages.Proofs.Respelling

namespace GrammarPackages

namespace SearchPath

variable {l l' : List Path}

theorem findSome?_eq_of_equiv {α : Type} {f : Path → Option α} (hf : ∀ p q, p ≈ q → f p = f q)
    (h : List.Forall₂ (· ≈ ·) l l') : l.findSome? f = l'.findSome? f := by
  induction h with
  | nil => rfl
  | @cons p q l l' hpq _ ih => rw [List.findSome?_cons, List.findSome?_cons, hf p q hpq, ih]

theorem map_eq_of_rel {α : Type} {f : Path → α} (hf : ∀ p q, p ≈ q → f p = f q)
    {a b : Option Path} (h : Option.Rel (· ≈ ·) a b) : a.map f = b.map f := by
  cases h with
  | none => rfl
  | some hpq => exact congrArg some (hf _ _ hpq)

theorem Alike.forall₂ {s t : SearchPath} (h : s.Alike t) :
    List.Forall₂ (· ≈ ·) s.roots t.roots := by
  rw [Alike, ← List.forall₂_eq_eq_eq, List.forall₂_map_left_iff, List.forall₂_map_right_iff] at h
  exact h

end SearchPath

theorem Grammar.candidate?_congr {files : FileView} {p q : Path} (h : p ≈ q) :
    candidate? files p = candidate? files q := by
  have hbase : p.normalize = q.normalize := congrArg Path.ofComponents h
  rw [candidate?, candidate?, hbase]

theorem Grammar.resolve_of_equiv (files : FileView) {roots roots' : List Path}
    (h : List.Forall₂ (· ≈ ·) roots roots') (path : String) :
    resolve files roots path = resolve files roots' path := by
  have hfind : roots.findSome? (fun root ↦ candidate? files (root / .ofString path)) =
      roots'.findSome? (fun root ↦ candidate? files (root / .ofString path)) :=
    SearchPath.findSome?_eq_of_equiv (fun _ _ hr ↦ candidate?_congr (Path.div_equiv_div hr _)) h
  simp only [resolve, hfind]

theorem Manifest.read_congr {files : FileView} (hfiles : files.SkipsBlanks) {p q : Path}
    (h : p ≈ q) : read files p = read files q := by
  rw [read, read, hfiles.text_div h]

namespace Package

section Equal

variable {files : FileView} {roots roots' : List Path}

theorem probe_rel_of_equiv (hfiles : files.SkipsBlanks)
    (h : List.Forall₂ (· ≈ ·) roots roots') (package : String) :
    Option.Rel (· ≈ ·) (probe files package roots).1 (probe files package roots').1 := by
  induction h with
  | nil => exact .none
  | @cons p q roots roots' hpq _ ih =>
    have hiff := hfiles.exists_div_iff hpq (.ofString package)
    by_cases hp : files.Exists (p / .ofString package)
    · rw [probe, probe, if_pos hp, if_pos (hiff.1 hp)]
      exact .some (Path.div_equiv_div hpq _)
    · rw [probe, probe, if_neg hp, if_neg (mt hiff.2 hp)]
      exact ih

theorem locate_rel_of_equiv (hfiles : files.SkipsBlanks)
    (h : List.Forall₂ (· ≈ ·) roots roots') (package : String) :
    Option.Rel (· ≈ ·) (locate files roots package).1 (locate files roots' package).1 := by
  by_cases hname : IsName (.ofString package)
  · rw [locate_of_isName hname, locate_of_isName hname]
    exact probe_rel_of_equiv hfiles h package
  · rw [locate, locate, if_neg hname, if_neg hname]
    exact .none

theorem manifest?_of_equiv (hfiles : files.SkipsBlanks)
    (h : List.Forall₂ (· ≈ ·) roots roots') (package : String) :
    manifest? files roots' package = manifest? files roots package := by
  have hrel := locate_rel_of_equiv hfiles h package
  exact (SearchPath.map_eq_of_rel (fun _ _ hpq ↦ Manifest.read_congr hfiles hpq) hrel).symm

end Equal

/-- Search paths that are alike find the same packages and the same libraries, and give the same
registries. -/
theorem load_of_alike {files : FileView} (hfiles : files.SkipsBlanks) {s t : SearchPath}
    (h : s.Alike t) (package : String) :
    Option.Rel (· ≈ ·) (locate files s.roots package).1 (locate files t.roots package).1 ∧
      (∀ path, Grammar.resolve files s.roots path = Grammar.resolve files t.roots path) ∧
      ∀ {σ γ : Type} (loader : Grammar.Loader σ γ) (state : σ),
        (load files loader s.roots package state).Matches
          (load files loader t.roots package state) := by
  have hroots := h.forall₂
  refine ⟨locate_rel_of_equiv hfiles hroots package, Grammar.resolve_of_equiv files hroots,
    fun loader state ↦ load_matches (manifest?_of_equiv hfiles hroots package) fun ds _ ↦ ?_⟩
  refine buildFrom_congr package package 0 ∅ (List.map_congr_left fun d _ ↦ ?_)
  rw [callFor, callFor, Grammar.resolve_of_equiv files hroots]

def oneRoot : FileView := .normalized (.plain [
  (.ofString "/s/p", none), (.ofString "/s/g", some ""),
  (.ofString "/s/p/package.json", some Manifest.soleText)])

theorem load_of_alike_respelled :
    let s : SearchPath := .ofList [.ofString "r/", .ofString "/s/."]
    let t : SearchPath := .ofList [.ofString "r", .ofString "//s"]
    (oneRoot.SkipsBlanks ∧ s.Alike t ∧
      (locate oneRoot s.roots "p").1 = some (.ofString "/s/./p") ∧
      (locate oneRoot t.roots "p").1 = some (.ofString "//s/p")) ∧
    Option.Rel (· ≈ ·) (locate oneRoot s.roots "p").1 (locate oneRoot t.roots "p").1 ∧
      (∀ path, Grammar.resolve oneRoot s.roots path = Grammar.resolve oneRoot t.roots path) ∧
      (load oneRoot Grammar.StandIn.unread s.roots "p" ()).Matches
        (load oneRoot Grammar.StandIn.unread t.roots "p" ()) := by
  intro s t
  have hfiles : oneRoot.SkipsBlanks := FileView.skipsBlanks_normalized _
  have halike : s.Alike t := by decide +kernel
  obtain ⟨hlocate, hresolve, hload⟩ := load_of_alike hfiles halike "p"
  exact ⟨⟨hfiles, halike, by decide +kernel, by decide +kernel⟩, hlocate, hresolve, hload _ ()⟩

end Package

end GrammarPackages
