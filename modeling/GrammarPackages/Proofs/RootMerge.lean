import Mathlib.Data.List.Pairwise
import GrammarPackages.SearchPath

namespace GrammarPackages

namespace SearchPath

theorem eq_of_equiv {s : SearchPath} {p q : Path} (hp : p ∈ s.roots) (hq : q ∈ s.roots)
    (h : p ≈ q) : p = q := by
  have hsymm : Std.Symm (fun p q : Path ↦ ¬ p ≈ q) := ⟨fun _ _ hn he ↦ hn (Setoid.symm he)⟩
  by_contra hne
  exact s.distinct.forall hp hq hne h

theorem mem_of_mem_firsts {p : Path} {l : List Path} (h : p ∈ firsts l) : p ∈ l := by
  induction l with
  | nil => exact h
  | cons q l ih =>
    rcases List.mem_cons.1 h with rfl | h
    · exact List.mem_cons_self
    · exact List.mem_cons_of_mem q (ih (List.mem_filter.1 h).1)

theorem exists_mem_firsts {p : Path} {l : List Path} (h : p ∈ l) : ∃ q ∈ firsts l, q ≈ p := by
  induction l with
  | nil => cases h
  | cons a l ih =>
    rcases List.mem_cons.1 h with rfl | h
    · exact ⟨p, List.mem_cons_self, Setoid.refl p⟩
    · obtain ⟨q, hq, hqp⟩ := ih h
      by_cases ha : a ≈ q
      · exact ⟨a, List.mem_cons_self, Setoid.trans ha hqp⟩
      · have hfilter : q ∈ (firsts l).filter (fun q ↦ ¬ a ≈ q) :=
          List.mem_filter.2 ⟨hq, by simpa using ha⟩
        exact ⟨q, List.mem_cons_of_mem a hfilter, hqp⟩

theorem firsts_eq_self {l : List Path} (h : l.Pairwise (fun p q ↦ ¬ p ≈ q)) : firsts l = l := by
  induction h with
  | nil => rfl
  | @cons p l hp _ ih =>
    rw [firsts, ih]
    refine congrArg (p :: ·) (List.filter_eq_self.2 fun q hq ↦ ?_)
    simpa using hp q hq

/-- A test that goes by the path, not by its spelling, stops no sooner among the first
spellings. -/
theorem mem_takeWhile_of_mem_firsts {p : Path} {l : List Path} {f : Path → Bool}
    (hf : ∀ a b : Path, a ≈ b → f a = f b) (h : p ∈ (firsts l).takeWhile f) :
    p ∈ l.takeWhile f := by
  have hdrop : ∀ (a : Path) (m : List Path), f a = true →
      p ∈ (m.filter (fun q ↦ ¬ a ≈ q)).takeWhile f → p ∈ m.takeWhile f := by
    intro a m ha
    induction m with
    | nil => exact id
    | cons q m ih =>
      intro hp
      by_cases hq : a ≈ q
      · rw [List.filter_cons_of_neg (by simpa using hq)] at hp
        rw [List.takeWhile_cons_of_pos ((hf a q hq).symm.trans ha)]
        exact List.mem_cons_of_mem q (ih hp)
      · rw [List.filter_cons_of_pos (by simpa using hq)] at hp
        by_cases hfq : f q = true
        · rw [List.takeWhile_cons_of_pos hfq] at hp ⊢
          exact (List.mem_cons.1 hp).elim (fun he ↦ he ▸ List.mem_cons_self)
            (fun hm ↦ List.mem_cons_of_mem q (ih hm))
        · rw [List.takeWhile_cons_of_neg hfq] at hp
          cases hp
  induction l with
  | nil => exact h
  | cons a l ih =>
    by_cases ha : f a = true
    · rw [firsts, List.takeWhile_cons_of_pos ha] at h
      rw [List.takeWhile_cons_of_pos ha]
      exact (List.mem_cons.1 h).elim (fun he ↦ he ▸ List.mem_cons_self)
        (fun hm ↦ List.mem_cons_of_mem a (ih (hdrop a _ ha hm)))
    · rw [firsts, List.takeWhile_cons_of_neg ha] at h
      cases h

/-- Of each class of equal paths, the last one. -/
def lasts : List Path → List Path
  | [] => []
  | p :: l => if ∃ q ∈ l, q ≈ p then lasts l else p :: lasts l

theorem mem_of_mem_lasts {p : Path} {l : List Path} (h : p ∈ lasts l) : p ∈ l := by
  induction l with
  | nil => exact h
  | cons a l ih =>
    rw [lasts] at h
    split at h
    · exact List.mem_cons_of_mem a (ih h)
    · rcases List.mem_cons.1 h with rfl | h
      · exact List.mem_cons_self
      · exact List.mem_cons_of_mem a (ih h)

theorem exists_mem_lasts {p : Path} {l : List Path} (h : p ∈ l) : ∃ q ∈ lasts l, q ≈ p := by
  induction l generalizing p with
  | nil => cases h
  | cons a l ih =>
    by_cases hrep : ∃ q ∈ l, q ≈ a
    · rw [lasts, if_pos hrep]
      rcases List.mem_cons.1 h with rfl | h
      · obtain ⟨q, hq, hqp⟩ := hrep
        obtain ⟨q', hq', hqq⟩ := ih hq
        exact ⟨q', hq', Setoid.trans hqq hqp⟩
      · exact ih h
    · rw [lasts, if_neg hrep]
      rcases List.mem_cons.1 h with rfl | h
      · exact ⟨p, List.mem_cons_self, Setoid.refl p⟩
      · obtain ⟨q, hq, hqp⟩ := ih h
        exact ⟨q, List.mem_cons_of_mem a hq, hqp⟩

/-- The host roots that are no defaults, once each, in the order and spelling of their last
occurrence. -/
def hostOnly (defaults host : List Path) : List Path :=
  (lasts host).filter (fun p ↦ ∀ q ∈ defaults, ¬ q ≈ p)

theorem mem_hostOnly_iff {p : Path} {defaults host : List Path} :
    p ∈ hostOnly defaults host ↔ p ∈ lasts host ∧ ∀ q ∈ defaults, ¬ q ≈ p := by
  simp [hostOnly]

theorem exists_mem_hostOnly_append_firsts_iff {p : Path} {defaults host : List Path} :
    (∃ q ∈ hostOnly defaults host ++ firsts defaults, q ≈ p) ↔
      ∃ q ∈ host ++ defaults, q ≈ p := by
  constructor
  · intro ⟨q, hq, hqp⟩
    rcases List.mem_append.1 hq with hq | hq
    · exact ⟨q, List.mem_append_left _ (mem_of_mem_lasts (mem_hostOnly_iff.1 hq).1), hqp⟩
    · exact ⟨q, List.mem_append_right _ (mem_of_mem_firsts hq), hqp⟩
  · intro ⟨q, hq, hqp⟩
    by_cases hd : ∃ d ∈ defaults, d ≈ p
    · obtain ⟨d, hd, hdp⟩ := hd
      obtain ⟨d', hd', hdd⟩ := exists_mem_firsts hd
      exact ⟨d', List.mem_append_right _ hd', Setoid.trans hdd hdp⟩
    · have hhost : q ∈ host := by
        rcases List.mem_append.1 hq with hq | hq
        · exact hq
        · exact absurd ⟨q, hq, hqp⟩ hd
      obtain ⟨q', hq', hqq⟩ := exists_mem_lasts hhost
      have hqp' : q' ≈ p := Setoid.trans hqq hqp
      have hnew : ∀ d ∈ defaults, ¬ d ≈ q' := fun d hmem he ↦
        hd ⟨d, hmem, Setoid.trans he hqp'⟩
      exact ⟨q', List.mem_append_left _ (mem_hostOnly_iff.2 ⟨hq', hnew⟩), hqp'⟩

theorem cons_roots (p : Path) (s : SearchPath) :
    (cons p s).roots = if p ∈ s then s.roots else p :: s.roots := by
  unfold cons
  split <;> rfl

theorem hostOnly_cons_of_mem {p : Path} {defaults host : List Path}
    (h : ∃ q ∈ host ++ defaults, q ≈ p) :
    hostOnly defaults (p :: host) = hostOnly defaults host := by
  unfold hostOnly
  by_cases hrep : ∃ q ∈ host, q ≈ p
  · rw [lasts, if_pos hrep]
  · obtain ⟨q, hq, hqp⟩ := h
    have hd : ¬ ∀ q ∈ defaults, ¬ q ≈ p := by
      rcases List.mem_append.1 hq with hq | hq
      · exact absurd ⟨q, hq, hqp⟩ hrep
      · exact fun hnew ↦ hnew q hq hqp
    rw [lasts, if_neg hrep, List.filter_cons_of_neg (by simpa using hd)]

theorem hostOnly_cons_of_not_mem {p : Path} {defaults host : List Path}
    (h : ¬ ∃ q ∈ host ++ defaults, q ≈ p) :
    hostOnly defaults (p :: host) = p :: hostOnly defaults host := by
  unfold hostOnly
  have hrep : ¬ ∃ q ∈ host, q ≈ p := fun ⟨q, hq, hqp⟩ ↦
    h ⟨q, List.mem_append_left _ hq, hqp⟩
  have hd : ∀ q ∈ defaults, ¬ q ≈ p := fun q hq hqp ↦
    h ⟨q, List.mem_append_right _ hq, hqp⟩
  rw [lasts, if_neg hrep, List.filter_cons_of_pos (by simpa using hd)]

/-- A merge is the host roots that are no defaults, then the defaults as they are. -/
theorem merge_roots (defaults host : List Path) :
    (merge defaults host).roots = hostOnly defaults host ++ firsts defaults := by
  induction host with
  | nil => rfl
  | cons p host ih =>
    have hmem : p ∈ merge defaults host ↔ ∃ q ∈ host ++ defaults, q ≈ p := by
      rw [mem_iff, ih, exists_mem_hostOnly_append_firsts_iff]
    change (cons p (merge defaults host)).roots = _
    by_cases h : ∃ q ∈ host ++ defaults, q ≈ p
    · rw [cons_roots, if_pos (hmem.2 h), ih, hostOnly_cons_of_mem h]
    · rw [cons_roots, if_neg (mt hmem.1 h), ih, hostOnly_cons_of_not_mem h, List.cons_append]

end SearchPath

end GrammarPackages
