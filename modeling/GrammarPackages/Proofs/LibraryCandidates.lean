import GrammarPackages.Grammar.Resolve
import GrammarPackages.Proofs.ClosedFiles
import GrammarPackages.Proofs.LibraryNames
import GrammarPackages.Proofs.PathNormal

namespace GrammarPackages.Grammar

variable {files : FileView} {roots : List Path} {path : String} {library p q : Path}
variable {d : List Char} {c : Path.Component} {front : List Path.Component}

/-- The files that a path of a manifest may stand for. -/
def candidates (path : Path) : List Path :=
  let base := path.normalize
  base :: withExtension base :: (base.fileName?.map (inside base)).toList

theorem mem_candidates_iff : q ∈ candidates p ↔
    q = p.normalize ∨ q = withExtension p.normalize ∨
      ∃ d, p.normalize.fileName? = some d ∧ inside p.normalize d = q := by
  rw [candidates, List.mem_cons, List.mem_cons, Option.mem_toList, Option.map_eq_some_iff]

/-- What a path stands for, with all that is tried before it not there. -/
inductive Found (files : FileView) (p : Path) : Path → Prop
  | itself (h : files.IsFile p.normalize) : Found files p p.normalize
  | extended (hbase : ¬ files.IsFile p.normalize)
      (h : files.IsFile (withExtension p.normalize)) : Found files p (withExtension p.normalize)
  | inside {d : List Char} (hbase : ¬ files.IsFile p.normalize)
      (hextension : ¬ files.IsFile (withExtension p.normalize))
      (hdir : files.IsDirectory p.normalize) (hd : p.normalize.fileName? = some d)
      (h : files.IsFile (inside p.normalize d)) : Found files p (inside p.normalize d)

theorem Found.candidate?_eq (h : Found files p q) : candidate? files p = some q := by
  cases h with
  | itself h => rw [candidate?, if_pos h]
  | extended hbase h => rw [candidate?, if_neg hbase, if_pos h]
  | inside hbase hextension hdir hd h =>
    rw [candidate?, if_neg hbase, if_neg hextension, if_pos hdir, hd, Option.map_some,
      Option.filter_some, if_pos (decide_eq_true h)]

theorem found_of_candidate? (h : candidate? files p = some q) : Found files p q := by
  rw [candidate?] at h
  split at h
  · next hbase =>
    obtain rfl := Option.some.inj h
    exact .itself hbase
  · next hbase =>
    split at h
    · next hextension =>
      obtain rfl := Option.some.inj h
      exact .extended hbase hextension
    · next hextension =>
      split at h
      · next hdir =>
        obtain ⟨hq, hfile⟩ := Option.filter_eq_some_iff.1 h
        obtain ⟨d, hd, rfl⟩ := Option.map_eq_some_iff.1 hq
        exact .inside hbase hextension hdir hd (of_decide_eq_true hfile)
      · cases h

theorem Found.isFile (h : Found files p q) : files.IsFile q := by
  cases h <;> assumption

theorem Found.mem_candidates (h : Found files p q) : q ∈ candidates p := by
  rw [mem_candidates_iff]
  cases h with
  | itself => exact .inl rfl
  | extended => exact .inr (.inl rfl)
  | inside _ _ _ hd => exact .inr (.inr ⟨_, hd, rfl⟩)

theorem candidate?_eq_none (h : ∀ q ∈ candidates p, ¬ files.IsFile q) :
    candidate? files p = none := by
  rw [Option.eq_none_iff_forall_ne_some]
  intro q hq
  have hfound := found_of_candidate? hq
  exact h q hfound.mem_candidates hfound.isFile

theorem resolve_eq_ok_iff :
    resolve files roots path = .ok library ↔
      (if (Path.ofString path).IsAbsolute then candidate? files (.ofString path)
        else roots.findSome? (fun root ↦ candidate? files (root / .ofString path))) =
          some library := by
  unfold resolve
  dsimp only
  split
  · next h => rw [h, Option.some_inj, Except.ok.injEq]
  · next h => simp [h]

theorem resolve_sole_root {root : Path} (hrel : ¬ (Path.ofString path).IsAbsolute)
    (h : Found files (root / .ofString path) library) :
    resolve files [root] path = .ok library := by
  rw [resolve_eq_ok_iff, if_neg hrel, List.findSome?_singleton, h.candidate?_eq]

/-- The library inside a directory is called by a plain name. -/
theorem exists_inside_eq (hd : p.normalize.fileName? = some d) :
    p.normalize.chars ≠ [] ∧
      ∃ s, Path.IsPlain s ∧ inside p.normalize d = p.normalize / ⟨s⟩ := by
  have hplain := Path.isPlain_of_fileName?_eq_some hd
  constructor
  · intro hnil
    have hp : p.normalize = ⟨[]⟩ := congrArg Path.mk hnil
    rw [hp] at hd
    cases hd
  · exact ⟨_, isPlain_libraryName (slash_not_mem_dropFamily hplain.no_slash), rfl⟩

/-- The extension goes to the last step of a path. -/
theorem withExtension_normalize (h : p.components = front ++ [c]) (hc : c.IsStep) :
    withExtension p.normalize = Path.ofComponents front / ⟨c.toPath.chars ++ extension⟩ := by
  have hplain := isPlain_append_extension hc.no_slash
  rw [Path.normalize_eq_div h, withExtension, Path.div_eq_join, Path.div_eq_join, Path.join,
    Path.join, if_neg hc.not_isAbsolute, if_neg hplain.not_isAbsolute]
  split <;> simp

theorem components_withExtension (h : p.components = front ++ [c]) (hc : c.IsStep) :
    (withExtension p.normalize).components = front ++ [.name (c.toPath.chars ++ extension)] := by
  rw [withExtension_normalize h hc,
    Path.components_div_plain _ (isPlain_append_extension hc.no_slash),
    Path.components_ofComponents_of_concat h hc]

/-- A library that was found is a candidate below some root, or stands for the path itself. -/
theorem mem_candidates_of_resolve (h : resolve files roots path = .ok library) :
    files.IsFile library ∧
      if (Path.ofString path).IsAbsolute then library ∈ candidates (.ofString path)
      else ∃ root ∈ roots, library ∈ candidates (root / .ofString path) := by
  rw [resolve_eq_ok_iff] at h
  split at h
  · next habs =>
    have hq := found_of_candidate? h
    rw [if_pos habs]
    exact ⟨hq.isFile, hq.mem_candidates⟩
  · next habs =>
    obtain ⟨root, hroot, hfound⟩ := List.exists_of_findSome?_eq_some h
    have hq := found_of_candidate? hfound
    rw [if_neg habs]
    exact ⟨hq.isFile, root, hroot, hq.mem_candidates⟩

end GrammarPackages.Grammar
