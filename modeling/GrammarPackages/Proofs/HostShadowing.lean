import GrammarPackages.Proofs.PackageSearch
import GrammarPackages.Proofs.PlainView
import GrammarPackages.Proofs.RootMerge
import GrammarPackages.Files.Tree

namespace GrammarPackages

namespace SearchPath

variable {defaults host : List Path} {r q root : Path} {hit : Path → Bool}

theorem find?_merge (defaults host : List Path) (hit : Path → Bool) :
    (merge defaults host).roots.find? hit =
      ((hostOnly defaults host).find? hit).or ((firsts defaults).find? hit) := by
  rw [merge_roots, List.find?_append]

theorem exists_host_of_find?_firsts (hr : r ∈ host) (hq : q ∈ firsts defaults) (hqr : q ≈ r)
    (hhit : hit q = true)
    (hbefore : ∀ d ∈ defaults.takeWhile (fun d ↦ ¬ d ≈ r), hit d = true → ∃ h ∈ host, h ≈ d)
    (hfind : (firsts defaults).find? hit = some root) : ∃ h ∈ host, h ≈ root := by
  by_cases hroot : root ≈ r
  · exact ⟨r, hr, Setoid.symm hroot⟩
  · obtain ⟨hroothit, before, after, hsplit, hmiss⟩ := List.find?_eq_some_iff_append.1 hfind
    have hne : ∀ d ∈ before, ¬ d ≈ r := by
      intro d hd hdr
      have hmem : d ∈ (ofList defaults).roots := by
        change d ∈ firsts defaults
        rw [hsplit]
        exact List.mem_append_left _ hd
      have hdq : d = q := eq_of_equiv hmem hq (Setoid.trans hdr (Setoid.symm hqr))
      have hd' := hmiss d hd
      rw [hdq, hhit] at hd'
      cases hd'
    have htake : root ∈ (firsts defaults).takeWhile (fun d ↦ ¬ d ≈ r) := by
      rw [hsplit, List.takeWhile_append_of_pos (fun d hd ↦ by simpa using hne d hd),
        List.takeWhile_cons_of_pos (by simpa using hroot)]
      exact List.mem_append_right _ List.mem_cons_self
    refine hbefore root (mem_takeWhile_of_mem_firsts (fun a b hab ↦ ?_) htake) hroothit
    have hiff : a ≈ r ↔ b ≈ r :=
      ⟨fun h ↦ Setoid.trans (Setoid.symm hab) h, fun h ↦ Setoid.trans hab h⟩
    simp only [hiff]

/-- The first hit in a merge is a host root, if one is hit and no root that is only a default
comes before it among the defaults. -/
theorem exists_host_of_find?_merge (hr : r ∈ host)
    (hkept : ∃ q ∈ (merge defaults host).roots, q ≈ r ∧ hit q = true)
    (hbefore : (∃ d ∈ defaults, d ≈ r) →
      ∀ d ∈ defaults.takeWhile (fun d ↦ ¬ d ≈ r), hit d = true → ∃ h ∈ host, h ≈ d) :
    ∃ root, (merge defaults host).roots.find? hit = some root ∧ ∃ h ∈ host, h ≈ root := by
  rw [find?_merge]
  cases hfirst : (hostOnly defaults host).find? hit with
  | some root =>
    have hmem := (mem_hostOnly_iff.1 (List.mem_of_find?_eq_some hfirst)).1
    exact ⟨root, rfl, root, mem_of_mem_lasts hmem, Setoid.refl root⟩
  | none =>
    obtain ⟨q, hq, hqr, hhit⟩ := hkept
    rw [merge_roots] at hq
    have hq : q ∈ firsts defaults := by
      rcases List.mem_append.1 hq with hq | hq
      · exact absurd hhit (List.find?_eq_none.1 hfirst q hq)
      · exact hq
    cases hfind : (firsts defaults).find? hit with
    | none => exact absurd hhit (List.find?_eq_none.1 hfind q hq)
    | some root =>
      have hshared : ∃ d ∈ defaults, d ≈ r := ⟨q, mem_of_mem_firsts hq, hqr⟩
      exact ⟨root, rfl, exists_host_of_find?_firsts hr hq hqr hhit (hbefore hshared) hfind⟩

theorem merge_respelled (h : q ≈ r) : (merge [] [r, q]).roots = [q] := by
  change (cons r (merge [] [q])).roots = [q]
  rw [cons_roots, if_pos (mem_iff.2 ⟨q, List.mem_cons_self, h⟩)]
  rfl

end SearchPath

namespace Package

open SearchPath

/-- A package that is below a host root is taken from a host root, unless a root that is only a
default has it too and stands before that host root among the defaults. -/
theorem locate_merge_from_host {files : FileView} {defaults host : List Path} {r : Path}
    {package : String} (hname : Path.IsPlain package.toList) (hr : r ∈ host)
    (hkept : ∃ q ∈ (merge defaults host).roots, q ≈ r ∧ files.Exists (q / .ofString package))
    (hbefore : (∃ d ∈ defaults, d ≈ r) → ∀ d ∈ defaults.takeWhile (fun d ↦ ¬ d ≈ r),
      files.Exists (d / .ofString package) → ∃ h ∈ host, h ≈ d) :
    let located := (locate files (merge defaults host).roots package).1
    (∃ root, located = some (root / .ofString package) ∧ ∃ h ∈ host, h ≈ root) ∧
      ∀ d, (∀ h ∈ host, ¬ h ≈ d) → located ≠ some (d / .ofString package) := by
  have hfind : ∃ root, (merge defaults host).roots.find?
      (fun root ↦ files.Exists (root / .ofString package)) = some root ∧ ∃ h ∈ host, h ≈ root :=
    exists_host_of_find?_merge hr (by simpa using hkept) (by simpa using hbefore)
  obtain ⟨root, hfind, h, hh, hroot⟩ := hfind
  have hlocated := (locate_fst_eq_some_iff hname.isName).2 ⟨root, hfind, rfl⟩
  refine ⟨⟨root, hlocated, h, hh, hroot⟩, fun d hd hdl ↦ ?_⟩
  have hrd : root ≈ d :=
    Path.equiv_of_div_plain_eq hname (Option.some.inj (hlocated.symm.trans hdl))
  exact hd h hh (Setoid.trans hroot hrd)

theorem locate_merge_from_shared_root :
    let files : FileView := .plain [(.ofString "/s/p", none), (.ofString "/d/p", none)]
    let defaults : List Path := [.ofString "/s", .ofString "/d"]
    let host : List Path := [.ofString "/h", .ofString "/s/"]
    files.Exists (.ofString "/d" / .ofString "p") ∧
      let located := (locate files (merge defaults host).roots "p").1
      (∃ root, located = some (root / .ofString "p") ∧ ∃ h ∈ host, h ≈ root) ∧
        ∀ d, (∀ h ∈ host, ¬ h ≈ d) → located ≠ some (d / .ofString "p") := by
  have hname : Path.IsPlain "p".toList :=
    ⟨by decide +kernel, by decide +kernel, by decide +kernel, by decide +kernel⟩
  exact ⟨by decide +kernel, locate_merge_from_host (r := .ofString "/s/") hname
    (by decide +kernel) (by decide +kernel) (by decide +kernel)⟩

/-- Wherever a host root has the package, it is taken from a host root. -/
def HostShadows (files : FileView) (defaults host : List Path) (package : String) : Prop :=
  (∃ r ∈ host, files.Exists (r / .ofString package)) →
    ∃ root, (locate files (merge defaults host).roots package).1 =
      some (root / .ofString package) ∧ ∃ h ∈ host, h ≈ root

/-- The directories `/d/p` and `/s/p`. -/
def twoHomes : FileTree where
  nodes := #[⟨0, [], .directory, true⟩, ⟨0, ['d'], .directory, true⟩,
    ⟨1, ['p'], .directory, true⟩, ⟨0, ['s'], .directory, true⟩, ⟨3, ['p'], .directory, true⟩]
  working := 0

theorem twoHomes_exists : twoHomes.view.Exists (.ofString "/d" / .ofString "p") ∧
    twoHomes.view.Exists (.ofString "/s" / .ofString "p") := by
  have hd : twoHomes.entry 0 ['d'] = .ok 1 := eq_ok_of_toOption (by decide +kernel)
  have hdp : twoHomes.entry 1 ['p'] = .ok 2 := eq_ok_of_toOption (by decide +kernel)
  have hs : twoHomes.entry 0 ['s'] = .ok 3 := eq_ok_of_toOption (by decide +kernel)
  have hsp : twoHomes.entry 3 ['p'] = .ok 4 := eq_ok_of_toOption (by decide +kernel)
  have hdirs : twoHomes.IsDirectory 0 ∧ twoHomes.IsDirectory 1 ∧ twoHomes.IsDirectory 3 :=
    ⟨trivial, trivial, trivial⟩
  have hlinks : twoHomes.target? 1 = none ∧ twoHomes.target? 2 = none ∧
      twoHomes.target? 3 = none ∧ twoHomes.target? 4 = none := ⟨rfl, rfl, rfl, rfl⟩
  have hfind : twoHomes.find (.ofString "/d" / .ofString "p") = .ok 2 := by
    change twoHomes.walk FileTree.anywhere FileTree.linkLimit 0 [[], ['d'], ['p']] = .ok 2
    simp [FileTree.walk, hd, hdp, hdirs, hlinks, Path.Blank, FileTree.anywhere]
  have hfind' : twoHomes.find (.ofString "/s" / .ofString "p") = .ok 4 := by
    change twoHomes.walk FileTree.anywhere FileTree.linkLimit 0 [[], ['s'], ['p']] = .ok 4
    simp [FileTree.walk, hs, hsp, hdirs, hlinks, Path.Blank, FileTree.anywhere]
  simp [FileView.Exists, FileTree.view, FileTree.kind, hfind, hfind']

/-- The root `/s`, spelled too long for a file to be looked up below it. -/
def farSpelling : Path := ⟨['/', 's'] ++ List.replicate FileTree.pathLimit '/'⟩

theorem farSpelling_equiv : farSpelling ≈ .ofString "/s" := by decide +kernel

theorem not_exists_below_farSpelling :
    ¬ twoHomes.view.Exists (farSpelling / .ofString "p") := by decide +kernel

/-- A default that stands before the shared root has the package too; and of the two spellings
of a host root, the one that is kept reaches nothing. -/
theorem hostShadows_fails :
    ¬ HostShadows twoHomes.view [.ofString "/d", .ofString "/s"] [.ofString "/s"] "p" ∧
      ¬ HostShadows twoHomes.view [] [.ofString "/s", farSpelling] "p" := by
  have hname : Path.IsPlain "p".toList :=
    ⟨by decide +kernel, by decide +kernel, by decide +kernel, by decide +kernel⟩
  obtain ⟨hd, hs⟩ := twoHomes_exists
  constructor
  · intro h
    obtain ⟨root, hlocated, r, hr, hroot⟩ := h ⟨.ofString "/s", List.mem_singleton_self _, hs⟩
    have hroots : (merge [.ofString "/d", .ofString "/s"] [.ofString "/s"]).roots =
        [.ofString "/d", .ofString "/s"] := by decide +kernel
    rw [hroots, locate_of_isName hname.isName, probe_fst,
      List.find?_cons_of_pos (by simpa using hd)] at hlocated
    have hrd := Path.equiv_of_div_plain_eq hname (Option.some.inj hlocated)
    rw [List.mem_singleton.1 hr] at hroot
    exact absurd (Setoid.trans hroot (Setoid.symm hrd)) (by decide +kernel)
  · intro h
    obtain ⟨root, hlocated, -⟩ := h ⟨.ofString "/s", List.mem_cons_self, hs⟩
    rw [merge_respelled farSpelling_equiv,
      locate_singleton_of_not_exists hname.isName not_exists_below_farSpelling] at hlocated
    cases hlocated

end Package

end GrammarPackages
