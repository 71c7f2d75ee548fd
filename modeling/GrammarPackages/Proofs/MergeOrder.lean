import GrammarPackages.Proofs.RootMerge

namespace GrammarPackages.SearchPath

variable {p q : Path} {l defaults host front : List Path} {i j : Nat}

theorem place_unique {s : SearchPath} (hi : s.roots[i]? = some p) (hj : s.roots[j]? = some q)
    (h : p ≈ q) : i = j := by
  obtain ⟨hlt, rfl⟩ := List.getElem?_eq_some_iff.1 hi
  obtain ⟨hlt', rfl⟩ := List.getElem?_eq_some_iff.1 hj
  have hdistinct := List.pairwise_iff_getElem.1 s.distinct
  rcases Nat.lt_trichotomy i j with hij | hij | hij
  · exact absurd h (hdistinct i j hlt hlt' hij)
  · exact hij
  · exact absurd (Setoid.symm h) (hdistinct j i hlt' hlt hij)

/-- The path stands at this place, and no later one equals it. -/
structure LastAt (l : List Path) (i : Nat) (p : Path) : Prop where
  here : l[i]? = some p
  last : ∀ q ∈ l.drop (i + 1), ¬ q ≈ p

theorem lastAt_zero : LastAt (q :: l) 0 p ↔ q = p ∧ ∀ r ∈ l, ¬ r ≈ p := by
  constructor
  · intro h
    exact ⟨Option.some.inj h.here, h.last⟩
  · rintro ⟨rfl, hlast⟩
    exact ⟨rfl, hlast⟩

theorem lastAt_succ : LastAt (q :: l) (i + 1) p ↔ LastAt l i p :=
  ⟨fun h ↦ ⟨h.here, h.last⟩, fun h ↦ ⟨h.here, h.last⟩⟩

/-- In `front` stands, in order, what `host` has at the places where a path that is no default
occurs last. -/
def TakesLast (defaults host front : List Path) : Prop :=
  ∃ places : List Nat, places.Pairwise (· < ·) ∧
    (∀ i, i ∈ places ↔ ∃ p, LastAt host i p ∧ ∀ d ∈ defaults, ¬ d ≈ p) ∧
    front.map some = places.map (host[·]?)

theorem pairwise_shift {places : List Nat} (h : places.Pairwise (· < ·)) :
    (places.map (· + 1)).Pairwise (· < ·) := by
  rw [List.pairwise_map]
  exact h.imp fun hij ↦ Nat.succ_lt_succ hij

theorem takesLast_nil (defaults : List Path) : TakesLast defaults [] [] := by
  refine ⟨[], .nil, fun i ↦ ?_, rfl⟩
  constructor
  · intro h
    cases h
  · rintro ⟨p, hp, -⟩
    cases hp.here

theorem TakesLast.cons_of_mem (h : TakesLast defaults host front)
    (hp : ∃ q ∈ host ++ defaults, q ≈ p) : TakesLast defaults (p :: host) front := by
  obtain ⟨places, hsorted, hplaces, hfront⟩ := h
  refine ⟨places.map (· + 1), pairwise_shift hsorted, fun i ↦ ?_, ?_⟩
  · cases i with
    | zero =>
      constructor
      · intro hi
        obtain ⟨j, -, hj⟩ := List.mem_map.1 hi
        cases hj
      · rintro ⟨q, hq, hnew⟩
        obtain ⟨rfl, hlast⟩ := lastAt_zero.1 hq
        obtain ⟨r, hr, he⟩ := hp
        rcases List.mem_append.1 hr with hr | hr
        · exact absurd he (hlast r hr)
        · exact absurd he (hnew r hr)
    | succ i =>
      simp only [lastAt_succ, ← hplaces, List.mem_map, Nat.add_right_cancel_iff, exists_eq_right]
  · rw [hfront, List.map_map]
    rfl

theorem TakesLast.cons_of_not_mem (h : TakesLast defaults host front)
    (hp : ¬ ∃ q ∈ host ++ defaults, q ≈ p) : TakesLast defaults (p :: host) (p :: front) := by
  obtain ⟨places, hsorted, hplaces, hfront⟩ := h
  refine ⟨0 :: places.map (· + 1), ?_, fun i ↦ ?_, ?_⟩
  · refine List.pairwise_cons.2 ⟨fun i hi ↦ ?_, pairwise_shift hsorted⟩
    obtain ⟨j, -, rfl⟩ := List.mem_map.1 hi
    exact Nat.succ_pos j
  · cases i with
    | zero =>
      have hlast : LastAt (p :: host) 0 p := lastAt_zero.2 ⟨rfl, fun q hq he ↦
        hp ⟨q, List.mem_append_left _ hq, he⟩⟩
      have hnew : ∀ d ∈ defaults, ¬ d ≈ p := fun d hd he ↦
        hp ⟨d, List.mem_append_right _ hd, he⟩
      exact iff_of_true List.mem_cons_self ⟨p, hlast, hnew⟩
    | succ i =>
      simp only [lastAt_succ, ← hplaces, List.mem_cons, List.mem_map, Nat.add_right_cancel_iff,
        exists_eq_right, Nat.add_eq_zero_iff, Nat.one_ne_zero, and_false, false_or]
  · rw [List.map_cons, List.map_cons, hfront, List.map_map]
    rfl

theorem takesLast_hostOnly (defaults host : List Path) :
    TakesLast defaults host (hostOnly defaults host) := by
  induction host with
  | nil => exact takesLast_nil defaults
  | cons p host ih =>
    by_cases h : ∃ q ∈ host ++ defaults, q ≈ p
    · rw [hostOnly_cons_of_mem h]
      exact ih.cons_of_mem h
    · rw [hostOnly_cons_of_not_mem h]
      exact ih.cons_of_not_mem h

theorem exists_mem_hostOnly_iff (hp : p ∈ host) :
    (∃ q ∈ hostOnly defaults host, q ≈ p) ↔ ∀ d ∈ defaults, ¬ d ≈ p := by
  constructor
  · rintro ⟨q, hq, hqp⟩ d hd hdp
    exact (mem_hostOnly_iff.1 hq).2 d hd (Setoid.trans hdp (Setoid.symm hqp))
  · intro hnew
    obtain ⟨q, hq, hqp⟩ := exists_mem_lasts hp
    refine ⟨q, mem_hostOnly_iff.2 ⟨hq, fun d hd hdq ↦ ?_⟩, hqp⟩
    exact hnew d hd (Setoid.trans hdq hqp)

/-- How two lists of roots are merged: `front` is the host's part. -/
structure MergedInto (defaults host front roots : List Path) : Prop where
  roots_eq : roots = front ++ (ofList defaults).roots
  front_last : TakesLast defaults host front
  front_iff : ∀ p ∈ host, (∃ q ∈ front, q ≈ p) ↔ ∀ d ∈ defaults, ¬ d ≈ p
  shared_in_place : ∀ p ∈ host, ∀ k d, (ofList defaults).roots[k]? = some d → d ≈ p →
    ∀ i r, roots[i]? = some r → r ≈ p → i = front.length + k ∧ r = d
  distinct : roots.Pairwise (fun p q ↦ ¬ p ≈ q)
  exactly_one : ∀ p ∈ defaults ++ host, ∃! i : Nat, ∃ r, roots[i]? = some r ∧ r ≈ p

/-- Before the defaults, which stay as they are, come the host roots that are no defaults, each
where it occurs last. -/
theorem merge_keeps_defaults (defaults host : List Path) :
    MergedInto defaults host (hostOnly defaults host) (merge defaults host).roots where
  roots_eq := merge_roots defaults host
  front_last := takesLast_hostOnly defaults host
  front_iff _ hp := exists_mem_hostOnly_iff hp
  shared_in_place p hp k d hd hdp i r hr hrp := by
    have hplace : (merge defaults host).roots[(hostOnly defaults host).length + k]? = some d := by
      rw [merge_roots, List.getElem?_append_right (Nat.le_add_right _ _), Nat.add_sub_cancel_left]
      exact hd
    have hi := place_unique hr hplace (Setoid.trans hrp (Setoid.symm hdp))
    rw [hi, hplace] at hr
    exact ⟨hi, (Option.some.inj hr).symm⟩
  distinct := (merge defaults host).distinct
  exactly_one p hp := by
    have hmem : ∃ r ∈ (merge defaults host).roots, r ≈ p := by
      rw [merge_roots, exists_mem_hostOnly_append_firsts_iff]
      exact ⟨p, by simpa [or_comm] using hp, Setoid.refl p⟩
    obtain ⟨r, hr, hrp⟩ := hmem
    obtain ⟨i, hi⟩ := List.mem_iff_getElem?.1 hr
    refine ⟨i, ⟨r, hi, hrp⟩, fun j hj ↦ ?_⟩
    obtain ⟨r', hj, hrp'⟩ := hj
    exact place_unique hj hi (Setoid.trans hrp' (Setoid.symm hrp))

end GrammarPackages.SearchPath
