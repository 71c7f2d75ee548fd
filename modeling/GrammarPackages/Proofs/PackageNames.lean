import GrammarPackages.Proofs.PathParent
import GrammarPackages.Proofs.LoadOutcome
import GrammarPackages.Proofs.PackageSearch

namespace GrammarPackages

namespace Path

variable {c : List Char} {p : Path}

/-- The name `c`, and behind it nothing but slashes and dots that stand alone. -/
structure SpellsName (p : Path) (c : List Char) : Prop where
  plain : IsPlain c
  tail : ∃ blanks, (∀ s ∈ blanks, Blank s) ∧ p.chars = ['/'].intercalate (c :: blanks)

theorem slash_not_mem_of_blank {s : List Char} (h : Blank s) : '/' ∉ s := by
  rcases h with rfl | rfl <;> decide

theorem SpellsName.exists_segments (h : SpellsName p c) :
    ∃ blanks, (∀ s ∈ blanks, Blank s) ∧ p.segments = c :: blanks := by
  obtain ⟨blanks, hblanks, hchars⟩ := h.tail
  refine ⟨blanks, hblanks, ?_⟩
  rw [segments, hchars]
  refine List.splitOn_intercalate '/' (fun s hs ↦ ?_) (List.cons_ne_nil c blanks)
  rcases List.mem_cons.1 hs with rfl | hs
  · exact h.plain.no_slash
  · exact slash_not_mem_of_blank (hblanks s hs)

theorem steps_eq_nil_iff {l : List (List Char)} : steps l = [] ↔ ∀ s ∈ l, Blank s := by
  have hnone : ∀ s, Component.ofSegment? s = none ↔ Blank s := by
    intro s
    rw [Component.ofSegment?]
    split
    · next h => simp [h]
    · next h => split <;> simp [h]
  simp only [steps, List.filterMap_eq_nil_iff, hnone]

theorem SpellsName.anchor_eq (h : SpellsName p c) : p.anchor = none := by
  obtain ⟨blanks, -, hsegments⟩ := h.exists_segments
  have habs : ¬ p.IsAbsolute := by
    intro habs
    obtain ⟨rest, -, he⟩ := isAbsolute_iff.1 habs
    exact h.plain.ne_nil (List.cons.inj (hsegments.symm.trans he)).1
  rw [anchor, if_neg habs, hsegments, if_neg]
  exact fun he ↦ h.plain.ne_here (Option.some.inj he)

theorem SpellsName.components_eq (h : SpellsName p c) : p.components = [.name c] := by
  obtain ⟨blanks, hblanks, hsegments⟩ := h.exists_segments
  have hc : steps [c] = [.name c] := by
    rw [← h.plain.steps_eq, h.plain.segments_eq]
  rw [Path.components_eq, h.anchor_eq, hsegments, ← List.singleton_append, steps_append, hc,
    steps_eq_nil_iff.2 hblanks]
  rfl

theorem spellsName_of_components_eq (h : p.components = [.name c]) : SpellsName p c := by
  have hne : p.chars ≠ [] := by
    intro he
    obtain ⟨chars⟩ := p
    obtain rfl : chars = [] := he
    cases h
  -- an anchor would be a component in front of the name
  have hanchor : p.anchor = none := by
    rcases anchor_cases p with ha | ha | ha
    · exact ha
    · rw [Path.components_eq, ha] at h
      cases (List.cons.inj h).1
    · rw [Path.components_eq, ha] at h
      cases (List.cons.inj h).1
  -- without one, the first segment is the name and all others are blank
  have hbody : p.body = p.segments := by
    rw [body, hanchor]
    rfl
  obtain ⟨s, rest, hsegments⟩ := List.exists_cons_of_ne_nil (List.splitOn_ne_nil '/' p.chars)
  change p.segments = s :: rest at hsegments
  have hs : ¬ Blank s := by
    refine (behind_body hne).first hanchor s ?_
    rw [hbody, hsegments]
    rfl
  rw [Path.components_eq, hanchor, hsegments, steps_cons_of_not_blank hs] at h
  obtain ⟨hname, hrest⟩ := List.cons.inj h
  split at hname
  · cases hname
  · next hup =>
    obtain rfl := Component.name.inj hname
    have hslash : '/' ∉ s := by
      have hmem : s ∈ p.segments := hsegments ▸ List.mem_cons_self
      exact slash_not_mem_of_mem_splitOn hmem
    have hchars := (intercalate_segments p).symm
    rw [hsegments] at hchars
    exact ⟨⟨(not_or.1 hs).1, (not_or.1 hs).2, hup, hslash⟩, rest, steps_eq_nil_iff.1 hrest, hchars⟩

/-- A path that is a single name is spelled as that name, but for what may stand behind it. -/
theorem components_eq_name_iff : p.components = [.name c] ↔ SpellsName p c :=
  ⟨spellsName_of_components_eq, SpellsName.components_eq⟩

theorem fileName?_of_components_eq {before : List Component}
    (h : p.components = before ++ [.name c]) : p.fileName? = some c := by
  rw [fileName?, h, List.getLast?_concat]

end Path

namespace Package

open GrammarPackages.Path (SpellsName IsPlain)

theorem isName_iff {p : Path} : IsName p ↔ ∃ c, SpellsName p c := by
  simp only [← Path.components_eq_name_iff, IsName]
  constructor
  · intro h
    split at h
    · next s hs => exact ⟨s, hs⟩
    · cases h
  · rintro ⟨c, hc⟩
    rw [hc]
    trivial

/-- The first of the roots with an entry of this name is the one at place `i`. -/
structure FoundAt (files : FileView) (package : String) (roots : List Path) (i : Nat)
    (root : Path) : Prop where
  root_eq : roots[i]? = some root
  here : files.Exists (root / .ofString package)
  first : ∀ r ∈ roots.take i, ¬ files.Exists (r / .ofString package)

def probes (package : String) (roots : List Path) : List Event :=
  roots.map (fun root ↦ .rootProbed package (root / .ofString package))

section Search

variable {files : FileView} {package : String} {roots rest : List Path} {root r : Path} {i : Nat}
variable {c : List Char}

theorem FoundAt.zero (h : files.Exists (root / .ofString package)) :
    FoundAt files package (root :: rest) 0 root :=
  ⟨rfl, h, fun _ hr ↦ nomatch hr⟩

theorem FoundAt.succ (h : FoundAt files package rest i root)
    (hr : ¬ files.Exists (r / .ofString package)) :
    FoundAt files package (r :: rest) (i + 1) root where
  root_eq := h.root_eq
  here := h.here
  first q hq := by
    rcases List.mem_cons.1 hq with rfl | hq
    · exact hr
    · exact h.first q hq

theorem FoundAt.mem (h : FoundAt files package roots i root) : root ∈ roots :=
  List.mem_of_getElem? h.root_eq

theorem exists_foundAt_or_absent (files : FileView) (package : String) (roots : List Path) :
    (∃ i root, FoundAt files package roots i root) ∨
      ∀ root ∈ roots, ¬ files.Exists (root / .ofString package) := by
  induction roots with
  | nil => exact .inr fun _ hr ↦ nomatch hr
  | cons r rest ih =>
    by_cases hr : files.Exists (r / .ofString package)
    · exact .inl ⟨0, r, .zero hr⟩
    · rcases ih with ⟨i, root, h⟩ | habsent
      · exact .inl ⟨i + 1, root, h.succ hr⟩
      · exact .inr fun q hq ↦ (List.mem_cons.1 hq).elim (fun he ↦ he ▸ hr) (habsent q)

theorem probe_of_foundAt (h : FoundAt files package roots i root) :
    probe files package roots = (some (root / .ofString package),
      probes package (roots.take (i + 1)) ++
        [.packageLocated package (root / .ofString package)]) := by
  induction roots generalizing i with
  | nil => cases h.root_eq
  | cons r rest ih =>
    cases i with
    | zero =>
      obtain rfl := Option.some.inj h.root_eq
      rw [probe, if_pos h.here]
      rfl
    | succ i =>
      have hr := h.first r List.mem_cons_self
      have hrest : FoundAt files package rest i root :=
        ⟨h.root_eq, h.here, fun q hq ↦ h.first q (List.mem_cons_of_mem r hq)⟩
      rw [probe, if_neg hr, ih hrest]
      rfl

theorem probe_of_absent (h : ∀ root ∈ roots, ¬ files.Exists (root / .ofString package)) :
    probe files package roots = (none, probes package roots) := by
  induction roots with
  | nil => rfl
  | cons r rest ih =>
    obtain ⟨hr, hrest⟩ := List.forall_mem_cons.1 h
    rw [probe, if_neg hr, ih hrest]
    rfl

theorem locate_of_foundAt (hc : SpellsName (.ofString package) c)
    (h : FoundAt files package roots i root) :
    locate files roots package = (some (root / .ofString package),
      probes package (roots.take (i + 1)) ++
        [.packageLocated package (root / .ofString package)]) := by
  rw [locate_of_isName (isName_iff.2 ⟨c, hc⟩), probe_of_foundAt h]

theorem locate_of_not_spellsName (h : ∀ c, ¬ SpellsName (.ofString package) c) :
    locate files roots package = (none, [.nameRejected package]) := by
  rw [locate, if_neg]
  intro hname
  obtain ⟨c, hc⟩ := isName_iff.1 hname
  exact h c hc

theorem locate_eq_some_iff {directory : Path} :
    (locate files roots package).1 = some directory ↔
      ∃ c i root, SpellsName (.ofString package) c ∧ FoundAt files package roots i root ∧
        root / .ofString package = directory := by
  constructor
  · intro h
    by_cases hname : ∃ c, SpellsName (.ofString package) c
    · obtain ⟨c, hc⟩ := hname
      rcases exists_foundAt_or_absent files package roots with ⟨i, root, hfound⟩ | habsent
      · rw [locate_of_foundAt hc hfound] at h
        exact ⟨c, i, root, hc, hfound, Option.some.inj h⟩
      · rw [locate_of_isName (isName_iff.2 ⟨c, hc⟩), probe_of_absent habsent] at h
        cases h
    · rw [locate_of_not_spellsName (not_exists.1 hname)] at h
      cases h
  · rintro ⟨c, i, root, hc, hfound, rfl⟩
    rw [locate_of_foundAt hc hfound]

theorem components_div_of_spellsName (root : Path) {p : Path} (h : SpellsName p c) :
    (root / p).components = root.components ++ [.name c] := by
  rw [Path.components_div_of_anchor_eq_none root h.anchor_eq, h.components_eq]

/-- A search that ends at a root has seen no root behind it. -/
theorem FoundAt.congr {files' : FileView} {roots' : List Path}
    (h : FoundAt files package roots i root) (hroots : roots'.take (i + 1) = roots.take (i + 1))
    (hfiles : ∀ r ∈ roots.take (i + 1),
      files'.Exists (r / .ofString package) ↔ files.Exists (r / .ofString package)) :
    FoundAt files' package roots' i root where
  root_eq := by
    rw [← List.getElem?_take_of_lt (Nat.lt_succ_self i), hroots,
      List.getElem?_take_of_lt (Nat.lt_succ_self i), h.root_eq]
  here := by
    refine (hfiles root ?_).2 h.here
    refine List.mem_of_getElem? (i := i) ?_
    rw [List.getElem?_take_of_lt (Nat.lt_succ_self i), h.root_eq]
  first r hr := by
    have htake : roots'.take i = roots.take i := by
      have he := congrArg (List.take i) hroots
      rwa [List.take_take, List.take_take, Nat.min_eq_left (Nat.le_succ i)] at he
    rw [htake] at hr
    have hr' : r ∈ roots.take (i + 1) := List.take_subset_take_left roots (Nat.le_succ i) hr
    exact fun he ↦ h.first r hr ((hfiles r hr').1 he)

end Search

/-- A search below the roots by name: what it finds lies right below a root, and it looks no
further than it must. -/
structure FindsDirectlyBelow (files : FileView) (roots : List Path) (package : String)
    (located : Option Path × List Event) : Prop where
  some_iff : ∀ directory, located.1 = some directory ↔
    ∃ c i root, SpellsName (.ofString package) c ∧ FoundAt files package roots i root ∧
      root / .ofString package = directory
  isSome_iff : located.1.isSome ↔ (∃ c, SpellsName (.ofString package) c) ∧
    ∃ root ∈ roots, files.Exists (root / .ofString package)
  directly_below : ∀ c i root, SpellsName (.ofString package) c →
    FoundAt files package roots i root →
      let directory := root / .ofString package
      directory.components = root.components ++ [.name c] ∧ directory.fileName? = some c ∧
        ∃ parent, directory.parent? = some parent ∧ parent ≈ root
  nowhere_else : ∀ directory, located.1 = some directory →
    ∃ root ∈ roots, ∃ c, IsPlain c ∧ directory.components = root.components ++ [.name c]
  probed : ∀ c i root, SpellsName (.ofString package) c → FoundAt files package roots i root →
    located.2 = probes package (roots.take (i + 1)) ++
      [.packageLocated package (root / .ofString package)]
  /-- Roots behind the first with the package, and what is below them, do not matter. -/
  unmoved_behind : ∀ c i root, SpellsName (.ofString package) c →
    FoundAt files package roots i root → ∀ files' roots',
      roots'.take (i + 1) = roots.take (i + 1) →
      (∀ r ∈ roots.take (i + 1),
        files'.Exists (r / .ofString package) ↔ files.Exists (r / .ofString package)) →
      locate files' roots' package = located
  rejected : (∀ c, ¬ SpellsName (.ofString package) c) → located = (none, [.nameRejected package])
  notFound_iff : ∀ {σ γ : Type} (loader : Grammar.Loader σ γ) (state : σ),
    (load files loader roots package state).outcome = .error (.notFound package) ↔
      located.1 = none

theorem locate_directly_below (files : FileView) (roots : List Path) (package : String) :
    FindsDirectlyBelow files roots package (locate files roots package) where
  some_iff _ := locate_eq_some_iff
  isSome_iff := by
    rw [Option.isSome_iff_exists]
    constructor
    · rintro ⟨directory, h⟩
      obtain ⟨c, i, root, hc, hfound, -⟩ := locate_eq_some_iff.1 h
      exact ⟨⟨c, hc⟩, root, hfound.mem, hfound.here⟩
    · rintro ⟨⟨c, hc⟩, root, hroot, hhere⟩
      rcases exists_foundAt_or_absent files package roots with ⟨i, r, hfound⟩ | habsent
      · exact ⟨_, locate_eq_some_iff.2 ⟨c, i, r, hc, hfound, rfl⟩⟩
      · exact absurd hhere (habsent root hroot)
  directly_below c i root hc _ := by
    have hcomponents := components_div_of_spellsName root hc
    exact ⟨hcomponents, Path.fileName?_of_components_eq hcomponents,
      Path.exists_parent? (by simp) hcomponents⟩
  nowhere_else directory h := by
    obtain ⟨c, i, root, hc, hfound, rfl⟩ := locate_eq_some_iff.1 h
    exact ⟨root, hfound.mem, c, hc.plain, components_div_of_spellsName root hc⟩
  probed c i root hc hfound := by rw [locate_of_foundAt hc hfound]
  unmoved_behind c i root hc hfound files' roots' hroots hfiles := by
    rw [locate_of_foundAt hc hfound, locate_of_foundAt hc (hfound.congr hroots hfiles), hroots]
  rejected h := locate_of_not_spellsName h
  notFound_iff loader state := by
    rw [load_notFound_iff, and_iff_right rfl]

end Package

end GrammarPackages
