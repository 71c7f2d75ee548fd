import GrammarPackages.Proofs.RootMerge

namespace GrammarPackages.SearchPath

variable {p : Path} {l m defaults : List Path}

theorem lasts_append (l m : List Path) :
    lasts (l ++ m) = (lasts l).filter (fun p ↦ ∀ q ∈ m, ¬ q ≈ p) ++ lasts m := by
  induction l with
  | nil => rfl
  | cons p l ih =>
    rw [List.cons_append, lasts, lasts, ih]
    by_cases hl : ∃ q ∈ l, q ≈ p
    · have hlm : ∃ q ∈ l ++ m, q ≈ p := hl.imp fun q hq ↦ ⟨List.mem_append_left m hq.1, hq.2⟩
      rw [if_pos hlm, if_pos hl]
    · by_cases hm : ∃ q ∈ m, q ≈ p
      · have hlm : ∃ q ∈ l ++ m, q ≈ p :=
          hm.imp fun q hq ↦ ⟨List.mem_append_right l hq.1, hq.2⟩
        have hdrop : ¬ ∀ q ∈ m, ¬ q ≈ p := fun h ↦ hm.elim fun q hq ↦ h q hq.1 hq.2
        rw [if_pos hlm, if_neg hl, List.filter_cons_of_neg (by simpa using hdrop)]
      · have hkeep : ∀ q ∈ m, ¬ q ≈ p := fun q hq he ↦ hm ⟨q, hq, he⟩
        have hlm : ¬ ∃ q ∈ l ++ m, q ≈ p := by
          intro h
          obtain ⟨q, hq, he⟩ := h
          exact (List.mem_append.1 hq).elim (fun h ↦ hl ⟨q, h, he⟩) (fun h ↦ hkeep q h he)
        rw [if_neg hlm, if_neg hl, List.filter_cons_of_pos (by simpa using hkeep),
          List.cons_append]

theorem lasts_eq_self (h : l.Pairwise (fun p q ↦ ¬ p ≈ q)) : lasts l = l := by
  induction h with
  | nil => rfl
  | @cons p l hp _ ih =>
    have hnone : ¬ ∃ q ∈ l, q ≈ p := fun ⟨q, hq, he⟩ ↦ hp q hq (Setoid.symm he)
    rw [lasts, if_neg hnone, ih]

/-- The root that equals `p` stands before every root of that kind. -/
def StandsBefore (roots : List Path) (p : Path) (kind : Path → Prop) : Prop :=
  ∃ p' ∈ roots, p' ≈ p ∧ ∀ r ∈ roots, kind r → List.Sublist [p', r] roots

instance (roots : List Path) (p : Path) (kind : Path → Prop) [DecidablePred kind] :
    Decidable (StandsBefore roots p kind) :=
  inferInstanceAs (Decidable (∃ p' ∈ roots, _))

theorem standsBefore_of_mem_append {roots : List Path} {kind : Path → Prop}
    (hroots : roots = l ++ m) (hp : ∃ p' ∈ l, p' ≈ p) (hl : ∀ r ∈ l, ¬ kind r) :
    StandsBefore roots p kind := by
  subst hroots
  obtain ⟨p', hmem, he⟩ := hp
  refine ⟨p', List.mem_append_left m hmem, he, fun r hr hkind ↦ ?_⟩
  have hrm : r ∈ m := (List.mem_append.1 hr).resolve_left fun h ↦ hl r h hkind
  exact (List.singleton_sublist.2 hmem).append (List.singleton_sublist.2 hrm)

namespace Surroundings

variable (s : Surroundings)

/-- The lookup directories of the running program. -/
def programRoots : List Path :=
  s.executable.elim [] (fun dir ↦ (lookups dir packagesDirectory).roots)

theorem programRoots_distinct : s.programRoots.Pairwise (fun p q ↦ ¬ p ≈ q) := by
  rw [programRoots]
  cases s.executable with
  | none => exact .nil
  | some dir => exact (lookups dir packagesDirectory).distinct

/-- The extra roots that are neither lookup directories of the program nor defaults, once each, in
the order and spelling of their last occurrence. -/
def ownExtraRoots : List Path :=
  (lasts s.extraRoots).filter (fun p ↦ ∀ q ∈ s.programRoots ++ s.defaults, ¬ q ≈ p)

def ownProgramRoots : List Path := s.programRoots.filter (fun p ↦ ∀ q ∈ s.defaults, ¬ q ≈ p)

theorem mem_ownExtraRoots_iff : p ∈ s.ownExtraRoots ↔
    p ∈ lasts s.extraRoots ∧ ∀ q ∈ s.programRoots ++ s.defaults, ¬ q ≈ p := by
  rw [ownExtraRoots, List.mem_filter, decide_eq_true_iff]

theorem mem_ownProgramRoots_iff :
    p ∈ s.ownProgramRoots ↔ p ∈ s.programRoots ∧ ∀ q ∈ s.defaults, ¬ q ≈ p := by
  rw [ownProgramRoots, List.mem_filter, decide_eq_true_iff]

theorem roots_ofSurroundings : (ofSurroundings s).roots =
    s.ownExtraRoots ++ (s.ownProgramRoots ++ firsts s.defaults) := by
  have hhost : s.host = s.extraRoots ++ s.programRoots := rfl
  rw [ofSurroundings, merge_roots, hostOnly, hhost, lasts_append,
    lasts_eq_self s.programRoots_distinct, List.filter_append, List.filter_filter,
    List.append_assoc, ownExtraRoots, ownProgramRoots]
  simp [or_imp, forall_and, and_comm]

theorem exists_ownExtraRoots {p : Path} (hp : p ∈ s.extraRoots)
    (hown : ∀ q ∈ s.programRoots ++ s.defaults, ¬ q ≈ p) : ∃ p' ∈ s.ownExtraRoots, p' ≈ p := by
  obtain ⟨p', hp', he⟩ := exists_mem_lasts hp
  refine ⟨p', (mem_ownExtraRoots_iff s).2 ⟨hp', fun q hq hqp ↦ ?_⟩, he⟩
  exact hown q hq (Setoid.trans hqp he)

theorem not_default_of_mem {r : Path} (hr : r ∈ s.ownExtraRoots ++ s.ownProgramRoots) :
    ∀ q ∈ s.defaults, ¬ q ≈ r := by
  intro q hq
  rcases List.mem_append.1 hr with hr | hr
  · exact ((mem_ownExtraRoots_iff s).1 hr).2 q (List.mem_append_right _ hq)
  · exact ((mem_ownProgramRoots_iff s).1 hr).2 q hq

theorem filter_roots_ofSurroundings :
    (ofSurroundings s).roots.filter (fun r ↦ ∀ q ∈ s.defaults, ¬ q ≈ r) =
      s.ownExtraRoots ++ s.ownProgramRoots := by
  have hhost : (s.ownExtraRoots ++ s.ownProgramRoots).filter
      (fun r ↦ ∀ q ∈ s.defaults, ¬ q ≈ r) = s.ownExtraRoots ++ s.ownProgramRoots :=
    List.filter_eq_self.2 fun r hr ↦ decide_eq_true (s.not_default_of_mem hr)
  have hdefaults : (firsts s.defaults).filter (fun r ↦ ∀ q ∈ s.defaults, ¬ q ≈ r) = [] :=
    List.filter_eq_nil_iff.2 fun r hr h ↦
      of_decide_eq_true h r (mem_of_mem_firsts hr) (Setoid.refl r)
  rw [roots_ofSurroundings, ← List.append_assoc, List.filter_append, hhost, hdefaults,
    List.append_nil]

/-- How far the extra roots have priority. -/
structure ExtraRootsLead (roots : List Path) : Prop where
  before_others : ∀ p ∈ s.extraRoots, (∀ q ∈ s.programRoots ++ s.defaults, ¬ q ≈ p) →
    StandsBefore roots p (fun r ↦ ∀ e ∈ s.extraRoots, ¬ e ≈ r)
  before_defaults : ∀ p ∈ s.extraRoots, (∀ q ∈ s.defaults, ¬ q ≈ p) →
    StandsBefore roots p (fun r ↦ ∃ q ∈ s.defaults, q ≈ r)
  in_order : roots.filter (fun r ↦ ∀ q ∈ s.defaults, ¬ q ≈ r) =
    (lasts s.extraRoots).filter (fun p ↦ ∀ q ∈ s.programRoots ++ s.defaults, ¬ q ≈ p) ++
      s.programRoots.filter (fun p ↦ ∀ q ∈ s.defaults, ¬ q ≈ p)

/-- Extra roots come first, in the order of their last occurrence, save those that the search path
would have without them. One that is a lookup directory of the program takes the place of that,
still before all defaults. -/
theorem extraRoots_lead : s.ExtraRootsLead (ofSurroundings s).roots where
  before_others p hp hown := by
    refine standsBefore_of_mem_append s.roots_ofSurroundings (s.exists_ownExtraRoots hp hown) ?_
    intro r hr hkind
    have hr' := mem_of_mem_lasts ((mem_ownExtraRoots_iff s).1 hr).1
    exact hkind r hr' (Setoid.refl r)
  before_defaults p hp hdefault := by
    have hroots := s.roots_ofSurroundings
    rw [← List.append_assoc] at hroots
    refine standsBefore_of_mem_append hroots ?_ ?_
    · by_cases hprogram : ∃ q ∈ s.programRoots, q ≈ p
      · obtain ⟨q, hq, he⟩ := hprogram
        have hown : q ∈ s.ownProgramRoots := (mem_ownProgramRoots_iff s).2
          ⟨hq, fun d hd hdq ↦ hdefault d hd (Setoid.trans hdq he)⟩
        exact ⟨q, List.mem_append_right _ hown, he⟩
      · obtain ⟨p', hp', he⟩ := s.exists_ownExtraRoots hp fun q hq he ↦
          (List.mem_append.1 hq).elim (fun h ↦ hprogram ⟨q, h, he⟩) (fun h ↦ hdefault q h he)
        exact ⟨p', List.mem_append_left _ hp', he⟩
    · intro r hr ⟨q, hq, he⟩
      exact s.not_default_of_mem hr q hq he
  in_order := s.filter_roots_ofSurroundings

/-- All extra roots that are no defaults come first, in the order of their first occurrence. -/
def ExtraRootsFirst : Prop :=
  let roots := (ofSurroundings s).roots
  (∀ p ∈ s.extraRoots, (∀ q ∈ s.defaults, ¬ q ≈ p) →
    StandsBefore roots p (fun r ↦ ∀ e ∈ s.extraRoots, ¬ e ≈ r)) ∧
  (roots.filter (fun r ↦ (∃ e ∈ s.extraRoots, e ≈ r) ∧ ∀ q ∈ s.defaults, ¬ q ≈ r)).map
      Path.components =
    ((firsts s.extraRoots).filter (fun p ↦ ∀ q ∈ s.defaults, ¬ q ≈ p)).map Path.components

instance : Decidable s.ExtraRootsFirst := inferInstanceAs (Decidable (_ ∧ _))

/-- One extra root is repeated; another is a lookup directory of the program. -/
theorem extraRootsFirst_fails :
    ¬ ExtraRootsFirst ⟨some "a:b:a", some (.ofString "/x"), none, some (.ofString "/u")⟩ ∧
      ¬ ExtraRootsFirst
        ⟨some "/packages:m", some (.ofString "/x"), none, some (.ofString "/u")⟩ := by
  decide +kernel

end Surroundings

end GrammarPackages.SearchPath
