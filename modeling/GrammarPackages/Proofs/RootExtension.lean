import Mathlib.Data.List.Infix
import GrammarPackages.SearchPath
import GrammarPackages.Grammar.StandIn
import GrammarPackages.Proofs.LibraryCandidates
import GrammarPackages.Proofs.LoadOutcome
import GrammarPackages.Proofs.PackageSearch
import GrammarPackages.Proofs.PlainView
import GrammarPackages.Proofs.RootMerge

namespace GrammarPackages

namespace SearchPath

theorem firsts_prefix (l m : List Path) : firsts l <+: firsts (l ++ m) := by
  induction l with
  | nil => exact List.nil_prefix
  | cons p l ih => exact List.cons_prefix_cons.2 ⟨rfl, ih.filter _⟩

/-- The second list has the roots of the first, in order, and others of some kind among them. -/
inductive Widened (extra : Path → Prop) : List Path → List Path → Prop
  | nil : Widened extra [] []
  | keep (root : Path) {l l' : List Path} (h : Widened extra l l') :
      Widened extra (root :: l) (root :: l')
  | insert {root : Path} {l l' : List Path} (hroot : extra root) (h : Widened extra l l') :
      Widened extra l (root :: l')

theorem Widened.findSome?_eq {extra : Path → Prop} {α : Type} {f : Path → Option α}
    {l l' : List Path} (h : Widened extra l l') (hf : ∀ root, extra root → f root = none) :
    l'.findSome? f = l.findSome? f := by
  induction h with
  | nil => rfl
  | keep root _ ih => rw [List.findSome?_cons, List.findSome?_cons, ih]
  | insert hroot _ ih =>
    rw [List.findSome?_cons, hf _ hroot]
    exact ih

end SearchPath

open SearchPath (Widened)

namespace Grammar

variable {files : FileView} {roots roots' : List Path} {path : String} {library : Path}

theorem resolve_append (h : resolve files roots path = .ok library) (later : List Path) :
    resolve files (roots ++ later) path = .ok library := by
  rw [resolve_eq_ok_iff] at h ⊢
  split at h
  · next habs => rw [if_pos habs, h]
  · next habs => rw [if_neg habs, List.findSome?_append, h, Option.some_or]

theorem resolve_of_widened {extra : Path → Prop} (h : Widened extra roots roots')
    (hextra : ¬ (Path.ofString path).IsAbsolute → ∀ root, extra root →
      ∀ q ∈ candidates (root / .ofString path), ¬ files.IsFile q) :
    resolve files roots' path = resolve files roots path := by
  by_cases habs : (Path.ofString path).IsAbsolute
  · simp only [resolve, if_pos habs]
  · have hfind : roots'.findSome? (fun root ↦ candidate? files (root / .ofString path)) =
        roots.findSome? (fun root ↦ candidate? files (root / .ofString path)) := by
      refine h.findSome?_eq fun root hroot ↦ ?_
      exact candidate?_eq_none (hextra habs root hroot)
    simp only [resolve, if_neg habs, hfind]

end Grammar

namespace Package

open Manifest (Declaration)

variable {σ γ α : Type}

/-- Neither the package nor a grammar was missing. -/
structure Run.Found (r : Run σ α) : Prop where
  package : ∀ p, r.outcome ≠ .error (.notFound p)
  grammar : ∀ path, r.outcome ≠ .error (.grammar (.notFound path))

/-- There is nothing below this root that a load of the package, as the other roots have it,
would look for. -/
structure Vacant (files : FileView) (roots : List Path) (package : String) (root : Path) :
    Prop where
  no_package : ¬ files.Exists (root / .ofString package)
  no_library : ∀ ds, Declares files roots package ds → ∀ d ∈ ds,
    ¬ (Path.ofString d.path).IsAbsolute →
      ∀ q ∈ Grammar.candidates (root / .ofString d.path), ¬ files.IsFile q

section Roots

variable {files : FileView} {loader : Grammar.Loader σ γ} {roots roots' : List Path}
variable {package : String} {state : σ} {directory : Path} {ds : List Declaration}

theorem locate_append (h : (locate files roots package).1 = some directory) (later : List Path) :
    (locate files (roots ++ later) package).1 = some directory := by
  by_cases hname : IsName (.ofString package)
  · rw [locate_fst_eq_some_iff hname] at h ⊢
    obtain ⟨root, hfind, hroot⟩ := h
    refine ⟨root, ?_, hroot⟩
    rw [List.find?_append, hfind, Option.some_or]
  · rw [locate, if_neg hname] at h
    cases h

theorem locate_of_widened {extra : Path → Prop} (h : Widened extra roots roots')
    (hextra : ∀ root, extra root → ¬ files.Exists (root / .ofString package)) :
    (locate files roots' package).1 = (locate files roots package).1 := by
  by_cases hname : IsName (.ofString package)
  · rw [locate_of_isName hname, locate_of_isName hname]
    induction h with
    | nil => rfl
    | keep root _ ih =>
      rw [probe, probe]
      split
      · rfl
      · exact ih
    | insert hroot _ ih =>
      rw [probe, if_neg (hextra _ hroot)]
      exact ih
  · rw [locate, locate, if_neg hname, if_neg hname]

/-- Where more paths resolve, and those that did still resolve to the same libraries, a build in
which no grammar was missing goes on as it did. -/
theorem buildFrom_of_more_found {place : Nat} {r : Registry γ}
    (hmore : ∀ d ∈ ds, ∀ c, callFor files roots d = some c → callFor files roots' d = some c)
    (hfound : ∀ path, (buildFrom files loader roots package ds place r state).outcome ≠
      .error (.grammar (.notFound path))) :
    (buildFrom files loader roots package ds place r state).Matches
      (buildFrom files loader roots' package ds place r state) := by
  induction ds generalizing place r state with
  | nil => exact ⟨rfl, rfl, rfl⟩
  | cons d ds ih =>
    obtain ⟨hd, hds⟩ := List.forall_mem_cons.1 hmore
    cases hc : callFor files roots d with
    | none =>
      rw [buildFrom_cons_of_unresolved hc] at hfound
      exact absurd rfl (hfound d.path)
    | some c =>
      have hc' := hd c hc
      cases hl : (loader.load state c.1 c.2).result with
      | error f =>
        rw [buildFrom_cons_of_fault hc hl, buildFrom_cons_of_fault hc' hl]
        exact ⟨rfl, rfl, rfl⟩
      | ok g =>
        rw [buildFrom_cons_of_grammar hc hl] at hfound ⊢
        rw [buildFrom_cons_of_grammar hc' hl]
        exact (ih hds hfound).after_call c.1 c.2 _ _ _

theorem load_append (hfound : (load files loader roots package state).Found)
    (later : List Path) :
    (load files loader roots package state).Matches
      (load files loader (roots ++ later) package state) := by
  have hlocate : (locate files (roots ++ later) package).1 = (locate files roots package).1 := by
    cases hl : (locate files roots package).1 with
    | none => exact absurd ((load_notFound_iff package).2 ⟨rfl, hl⟩) (hfound.package package)
    | some directory => exact locate_append hl later
  refine load_matches (congrArg (Option.map _) hlocate) fun ds h ↦ ?_
  refine buildFrom_of_more_found (fun d _ c hc ↦ ?_) fun path ↦ ?_
  · rw [callFor_eq_some_iff] at hc ⊢
    exact ⟨Grammar.resolve_append hc.1 later, hc.2⟩
  · have hpath := hfound.grammar path
    rwa [h.load_eq] at hpath

theorem load_of_widened (h : Widened (Vacant files roots package) roots roots') :
    (load files loader roots package state).Matches
      (load files loader roots' package state) := by
  have hlocate : (locate files roots' package).1 = (locate files roots package).1 :=
    locate_of_widened h fun _ hroot ↦ hroot.no_package
  refine load_matches (congrArg (Option.map _) hlocate) fun ds hds ↦ ?_
  refine buildFrom_congr package package 0 ∅ (List.map_congr_left fun d hd ↦ ?_)
  have hresolve : Grammar.resolve files roots' d.path = Grammar.resolve files roots d.path :=
    Grammar.resolve_of_widened h fun habs _ hroot ↦ hroot.no_library ds hds d hd habs
  rw [callFor, callFor, hresolve]

end Roots

/-- Roots behind the others change nothing, unless something was missing; roots among them that
have nothing to do with the package change nothing at all. -/
theorem load_of_more_roots (files : FileView) (loader : Grammar.Loader σ γ) (roots : List Path)
    (package : String) (state : σ) :
    let run := load files loader roots package state
    (run.Found → ∀ later,
      run.Matches (load files loader (roots ++ later) package state) ∧
        (roots.Pairwise (fun p q ↦ ¬ p ≈ q) →
          run.Matches (load files loader (SearchPath.ofList (roots ++ later)).roots package
            state))) ∧
      ∀ roots', Widened (Vacant files roots package) roots roots' →
        run.Matches (load files loader roots' package state) := by
  intro run
  refine ⟨fun hfound later ↦ ⟨load_append hfound later, fun hdistinct ↦ ?_⟩,
    fun roots' h ↦ load_of_widened h⟩
  obtain ⟨rest, hrest⟩ := SearchPath.firsts_prefix roots later
  rw [SearchPath.firsts_eq_self hdistinct] at hrest
  have hroots : (SearchPath.ofList (roots ++ later)).roots = roots ++ rest := hrest.symm
  rw [hroots]
  exact load_append hfound rest

/-- The package `p` below `/a` and, with a manifest that is no good, below `/b`. -/
def shadowedPackage : FileView := .plain [
  (.ofString "/a/p", none), (.ofString "/a/p/package.json", some Manifest.soleText),
  (.ofString "/a/g.so", some ""), (.ofString "/b/p", none),
  (.ofString "/b/p/package.json", some "\x7b"), (.ofString "/b/g", some "")]

theorem manifest?_shadowedPackage :
    manifest? shadowedPackage [.ofString "/a"] "p" = some (.ok [Manifest.soleDeclaration]) := by
  have hlocate : (locate shadowedPackage [.ofString "/a"] "p").1 = some (.ofString "/a/p") := by
    decide +kernel
  rw [manifest?, hlocate, Option.map_some]
  exact congrArg some (Manifest.read_plain (by decide +kernel) Manifest.parse_soleText)

theorem load_of_more_roots_of_shadowed :
    let run := load shadowedPackage Grammar.StandIn.unread [.ofString "/a"] "p" ()
    let run' roots := load shadowedPackage Grammar.StandIn.unread roots "p" ()
    (run.Found ∧ Widened (Vacant shadowedPackage [.ofString "/a"] "p") [.ofString "/a"]
      [.ofString "/e", .ofString "/a"]) ∧
    run.Matches (run' [.ofString "/a", .ofString "/b"]) ∧
      run.Matches (run' (SearchPath.ofList [.ofString "/a", .ofString "/b"]).roots) ∧
      run.Matches (run' [.ofString "/e", .ofString "/a"]) := by
  intro run run'
  have hds : Declares shadowedPackage [.ofString "/a"] "p" [Manifest.soleDeclaration] :=
    declares_iff.2 manifest?_shadowedPackage
  have hall : AllLoad shadowedPackage Grammar.StandIn.unread [.ofString "/a"] ()
      [Manifest.soleDeclaration] :=
    allLoad_cons.2 ⟨("g", .ofString "/a/g.so"), ⟨"g", none⟩, by decide +kernel, rfl,
      fun j hj ↦ absurd hj (Nat.not_lt_zero j)⟩
  obtain ⟨r, hr⟩ := load_ok_iff.2 ⟨_, hds, hall⟩
  have hfound : run.Found :=
    ⟨fun p hp ↦ (nomatch hr.symm.trans hp), fun path hp ↦ (nomatch hr.symm.trans hp)⟩
  have hvacant : Vacant shadowedPackage [.ofString "/a"] "p" (.ofString "/e") := by
    refine ⟨by decide +kernel, fun ds h d hd _ ↦ ?_⟩
    rw [declares_iff, manifest?_shadowedPackage, Option.some_inj, Except.ok.injEq] at h
    rw [← h] at hd
    rw [List.mem_singleton.1 hd]
    decide +kernel
  have hwidened := Widened.insert hvacant (.keep (.ofString "/a") .nil)
  obtain ⟨hafter, hamong⟩ := load_of_more_roots shadowedPackage Grammar.StandIn.unread
    [.ofString "/a"] "p" ()
  obtain ⟨hlist, hpath⟩ := hafter hfound [.ofString "/b"]
  exact ⟨⟨hfound, hwidened⟩, hlist, hpath (List.pairwise_singleton _ _), hamong _ hwidened⟩

end Package

end GrammarPackages
