import GrammarPackages.Proofs.AlikeRoots
import GrammarPackages.Proofs.LibraryContainment
import GrammarPackages.Proofs.PlainView

namespace GrammarPackages

namespace Path

variable {p q : Path} {s front : List Char} {c : Component} {l : List Component}

/-- Spelled as its components are, put together. -/
def IsNormal (p : Path) : Prop := p.normalize = p

theorem isNormal_normalize (p : Path) : p.normalize.IsNormal :=
  normalize_congr (components_normalize p)

theorem isNormal_ofComponents (h : (ofComponents l).components = l) : (ofComponents l).IsNormal :=
  congrArg ofComponents h

theorem IsNormal.div_plain (h : p.IsNormal) (hs : IsPlain s) : (p / ⟨s⟩).IsNormal := by
  have hc : (p / ⟨s⟩).components = p.components ++ [.name s] := components_div_plain p hs
  rw [IsNormal, normalize_eq_div hc]
  exact congrArg (· / (⟨s⟩ : Path)) h

/-- A path ends in a step, unless it is an anchor and nothing more. -/
theorem components_eq_anchor_or_concat (p : Path) :
    p.components = p.anchor.toList ∨ ∃ front c, p.components = front ++ [c] ∧ c.IsStep := by
  rcases steps_segments_cases p with hnil | ⟨front, c, hconcat, hc⟩
  · left
    rw [components_eq, hnil, List.append_nil]
  · right
    refine ⟨p.anchor.toList ++ front, c, ?_, hc⟩
    rw [components_eq, hconcat, List.append_assoc]

/-- Nothing behind the first slash is blank: no slash is repeated or stands at the end, and a dot
stands alone only in front. -/
def IsTidy (p : Path) : Prop := ∀ s ∈ p.segments.tail, ¬ Blank s

theorem tail_segments_append_slash (front : List Char) (hs : '/' ∉ s) :
    (⟨front ++ '/' :: s⟩ : Path).segments.tail = (⟨front⟩ : Path).segments.tail ++ [s] := by
  rw [segments, List.splitOn_append_cons_self, List.splitOn_eq_singleton hs,
    List.tail_append_of_ne_nil (List.splitOn_ne_nil '/' front)]
  rfl

theorem isTidy_append_slash (h : (⟨front⟩ : Path).IsTidy) (hs : '/' ∉ s) (hblank : ¬ Blank s) :
    (⟨front ++ '/' :: s⟩ : Path).IsTidy := by
  intro t ht
  rw [tail_segments_append_slash front hs] at ht
  rcases List.mem_append.1 ht with ht | ht
  · exact h t ht
  · rwa [List.mem_singleton.1 ht]

theorem isTidy_of_slash_not_mem (hs : '/' ∉ s) : (⟨s⟩ : Path).IsTidy := by
  intro t ht
  rw [segments, List.splitOn_eq_singleton hs] at ht
  cases ht

theorem IsTidy.getLast?_ne (h : p.IsTidy) : p.chars.getLast? ≠ some '/' := by
  intro hlast
  obtain ⟨front, hfront⟩ := List.getLast?_eq_some_iff.1 hlast
  obtain ⟨chars⟩ := p
  obtain rfl : chars = front ++ ['/'] := hfront
  refine h [] ?_ (.inl rfl)
  rw [tail_segments_append_slash front List.not_mem_nil]
  exact List.mem_concat_self

theorem isTidy_div_step (h : p.IsTidy ∨ p = ⟨['/']⟩) (hc : c.IsStep) :
    (p / c.toPath).IsTidy := by
  have hnil : (⟨[]⟩ : Path).IsTidy := isTidy_of_slash_not_mem List.not_mem_nil
  rw [div_eq_join, join, if_neg hc.not_isAbsolute]
  rcases h with h | rfl
  · by_cases hp : p.chars = []
    · rw [if_pos (.inl hp), hp]
      exact isTidy_of_slash_not_mem hc.no_slash
    · rw [if_neg (not_or.2 ⟨hp, h.getLast?_ne⟩)]
      exact isTidy_append_slash h hc.no_slash hc.not_blank
  · rw [if_pos (.inr rfl)]
    exact isTidy_append_slash hnil hc.no_slash hc.not_blank

theorem isTidy_foldl_div (h : p.IsTidy ∨ p = ⟨['/']⟩) (hl : ∀ c ∈ l, c.IsStep) :
    (l.foldl (fun p c ↦ p / c.toPath) p).IsTidy ∨
      l.foldl (fun p c ↦ p / c.toPath) p = ⟨['/']⟩ := by
  induction l generalizing p with
  | nil => exact h
  | cons c l ih =>
    obtain ⟨hc, hl⟩ := List.forall_mem_cons.1 hl
    exact ih (.inl (isTidy_div_step h hc)) hl

/-- A normal path is tidy; only the root ends in a slash. -/
theorem IsNormal.isTidy (h : p.IsNormal) : p.IsTidy ∨ p = ⟨['/']⟩ := by
  have hanchor : (ofComponents p.anchor.toList).IsTidy ∨
      ofComponents p.anchor.toList = ⟨['/']⟩ := by
    rcases anchor_cases p with ha | ha | ha <;> rw [ha]
    · exact .inl (isTidy_of_slash_not_mem List.not_mem_nil)
    · exact .inr rfl
    · exact .inl (isTidy_of_slash_not_mem (s := ['.']) (by decide))
  rw [← h, normalize, ofComponents, components_eq, List.foldl_append]
  exact isTidy_foldl_div hanchor fun c hc ↦ isStep_of_mem_steps_segments hc

theorem mem_anchor_iff : c ∈ p.anchor ↔ c ∈ p.components ∧ ¬ c.IsStep := by
  rw [components_eq, List.mem_append, Option.mem_toList]
  constructor
  · intro h
    refine ⟨.inl h, ?_⟩
    rcases anchor_cases p with ha | ha | ha <;> rw [ha] at h <;> cases h <;> exact id
  · rintro ⟨h | h, hc⟩
    · exact h
    · exact absurd (isStep_of_mem_steps_segments h) hc

theorem anchor_congr (h : p ≈ q) : p.anchor = q.anchor := by
  ext c
  rw [← Option.mem_def, ← Option.mem_def, mem_anchor_iff, mem_anchor_iff, equiv_iff.1 h]

theorem isAbsolute_congr (h : p ≈ q) : p.IsAbsolute ↔ q.IsAbsolute := by
  rw [isAbsolute_iff_anchor, isAbsolute_iff_anchor, anchor_congr h]

theorem steps_segments_congr (h : p ≈ q) : steps p.segments = steps q.segments := by
  have hc := equiv_iff.1 h
  rw [components_eq, components_eq, anchor_congr h] at hc
  exact List.append_cancel_left hc

theorem div_equiv_div_left (p : Path) {q q' : Path} (h : q ≈ q') : p / q ≈ p / q' := by
  have habs : q.IsAbsolute ↔ q'.IsAbsolute := isAbsolute_congr h
  by_cases hq : q.IsAbsolute
  · rw [div_eq_join, div_eq_join, join, join, if_pos hq, if_pos (habs.1 hq)]
    exact h
  · have hq' := mt habs.2 hq
    by_cases hp : p.chars = []
    · obtain ⟨chars⟩ := p
      obtain rfl : chars = [] := hp
      rw [nil_div hq, nil_div hq']
      exact h
    · rw [equiv_iff, components_div hp hq, components_div hp hq', steps_segments_congr h]

end Path

namespace FileTree

/-- What is spelled with a slash at its end is no file. -/
theorem not_isFile_view_of_slash (t : FileTree) (front : List Char) :
    ¬ t.view.IsFile ⟨front ++ ['/']⟩ := by
  intro h
  obtain ⟨n, hn, hfile⟩ := isFile_view_iff.1 h
  obtain ⟨-, hwalk⟩ := find_eq_ok_iff.1 hn
  rw [Path.segments, List.splitOn_append_cons_self] at hwalk
  obtain ⟨m, -, hm, hdir⟩ := exists_directory_of_walk_concat hwalk
  obtain rfl := Except.ok.inj (hwalk.symm.trans hm)
  exact hfile hdir

end FileTree

namespace Grammar

variable {files : FileView} {roots : List Path} {path path' : String} {library p q : Path}

theorem isNormal_withExtension (p : Path) : (withExtension p.normalize).IsNormal := by
  rcases Path.components_eq_anchor_or_concat p with hp | ⟨front, c, hp, hc⟩
  · rw [Path.normalize, hp]
    rcases Path.anchor_cases p with ha | ha | ha <;> rw [ha] <;> rfl
  · have hfront := Path.components_ofComponents_of_concat hp hc
    rw [withExtension_normalize hp hc]
    exact (Path.isNormal_ofComponents hfront).div_plain (isPlain_append_extension hc.no_slash)

theorem isNormal_of_mem_candidates (h : q ∈ candidates p) : q.IsNormal := by
  rcases mem_candidates_iff.1 h with rfl | rfl | ⟨d, hd, rfl⟩
  · exact Path.isNormal_normalize p
  · exact isNormal_withExtension p
  · obtain ⟨-, s, hs, hinside⟩ := exists_inside_eq hd
    rw [hinside]
    exact (Path.isNormal_normalize p).div_plain hs

theorem isNormal_of_resolve (h : resolve files roots path = .ok library) : library.IsNormal := by
  obtain ⟨-, hmem⟩ := mem_candidates_of_resolve h
  split at hmem
  · exact isNormal_of_mem_candidates hmem
  · obtain ⟨root, -, hmem⟩ := hmem
    exact isNormal_of_mem_candidates hmem

theorem isTidy_of_resolve (h : resolve files roots path = .ok library) :
    library.IsTidy ∨ library = ⟨['/']⟩ ∧ files.IsFile ⟨['/']⟩ := by
  have hfile := (mem_candidates_of_resolve h).1
  rcases (isNormal_of_resolve h).isTidy with htidy | rfl
  · exact .inl htidy
  · exact .inr ⟨rfl, hfile⟩

theorem resolve_eq_ok_congr (h : Path.ofString path' ≈ Path.ofString path) :
    resolve files roots path' = .ok library ↔ resolve files roots path = .ok library := by
  have habs : (Path.ofString path').IsAbsolute ↔ (Path.ofString path).IsAbsolute :=
    Path.isAbsolute_congr h
  have hbelow : ∀ root, candidate? files (root / Path.ofString path') =
      candidate? files (root / Path.ofString path) :=
    fun root ↦ candidate?_congr (Path.div_equiv_div_left root h)
  simp only [resolve_eq_ok_iff, habs, candidate?_congr h, hbelow]

/-- How the library is spelled that a path of a manifest leads to. -/
structure SpellsNormally (files : FileView) (roots : List Path) (path : String)
    (outcome : Except Fault Path) : Prop where
  normal : ∀ library, outcome = .ok library → library.normalize = library
  tidy : ∀ library, outcome = .ok library →
    library.IsTidy ∨ library = ⟨['/']⟩ ∧ files.IsFile ⟨['/']⟩
  tidy_of_tree : ∀ t : FileTree, files = t.view → ∀ library, outcome = .ok library →
    library.IsTidy
  respelled : ∀ path', Path.ofString path' ≈ Path.ofString path →
    ∀ library, resolve files roots path' = .ok library ↔ outcome = .ok library

/-- What is found is spelled in normal form, and the spelling of the path that led there does not
show in it. -/
theorem resolve_spells_normally (files : FileView) (roots : List Path) (path : String) :
    SpellsNormally files roots path (resolve files roots path) where
  normal _ h := isNormal_of_resolve h
  tidy _ h := isTidy_of_resolve h
  tidy_of_tree t ht library h := by
    rcases isTidy_of_resolve h with htidy | ⟨-, hfile⟩
    · exact htidy
    · rw [ht] at hfile
      exact absurd hfile (t.not_isFile_view_of_slash [])
  respelled _ h _ := resolve_eq_ok_congr h

example : ∀ path ∈ ["g", "g/", "./g//."], (resolve (.plain
    [(.ofString "/r/g", none), (.ofString "/r/g/libg.so", some "")])
    [.ofString "/r/./"] path).toOption = some (.ofString "/r/g/libg.so") := by
  decide +kernel

end Grammar

end GrammarPackages
