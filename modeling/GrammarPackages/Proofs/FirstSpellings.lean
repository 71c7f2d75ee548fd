import Mathlib.Data.List.Induction
import Mathlib.Data.List.Pairwise
import GrammarPackages.Proofs.MergeLayers

namespace GrammarPackages.SearchPath

variable {p q : Path} {l : List Path} {i : Nat} {kept kept' : List (Path × Nat)}

/-- The path stands at this place, and no earlier one equals it. -/
structure FirstAt (l : List Path) (i : Nat) (p : Path) : Prop where
  here : l[i]? = some p
  first : ∀ q ∈ l.take i, ¬ q ≈ p

/-- Some paths of a list with their places, no two equal as paths, and of each class of equal
paths the first one. By spellings alone `[b, a]` could be taken from `[a, b, a]` too. -/
structure KeepsFirsts (l : List Path) (kept : List (Path × Nat)) : Prop where
  sublist : kept.Sublist l.zipIdx
  distinct : kept.Pairwise (fun a b ↦ ¬ a.1 ≈ b.1)
  first_mem : ∀ i p, FirstAt l i p → (p, i) ∈ kept

section Places

theorem exists_firstAt (h : l[i]? = some p) : ∃ j ≤ i, ∃ q, FirstAt l j q ∧ q ≈ p := by
  induction i using Nat.strongRecOn generalizing p with
  | _ i ih =>
    by_cases hearlier : ∃ q ∈ l.take i, q ≈ p
    · obtain ⟨q, hq, hqp⟩ := hearlier
      obtain ⟨k, hk⟩ := List.mem_iff_getElem?.1 hq
      rw [List.getElem?_take] at hk
      split at hk
      · next hki =>
        obtain ⟨j, hj, r, hr, hrq⟩ := ih k hki hk
        exact ⟨j, Nat.le_trans hj (Nat.le_of_lt hki), r, hr, Setoid.trans hrq hqp⟩
      · cases hk
    · exact ⟨i, Nat.le_refl i, p, ⟨h, fun q hq hqp ↦ hearlier ⟨q, hq, hqp⟩⟩, Setoid.refl p⟩

theorem pairwise_zipIdx (l : List Path) : l.zipIdx.Pairwise (fun a b ↦ a.2 < b.2) := by
  rw [← List.pairwise_map, List.zipIdx_map_snd]
  exact List.pairwise_lt_range'

theorem KeepsFirsts.pairwise (h : KeepsFirsts l kept) : kept.Pairwise (fun a b ↦ a.2 < b.2) :=
  (pairwise_zipIdx l).sublist h.sublist

theorem KeepsFirsts.mem_iff (h : KeepsFirsts l kept) : (p, i) ∈ kept ↔ FirstAt l i p := by
  refine ⟨fun hp ↦ ?_, h.first_mem i p⟩
  have hhere : l[i]? = some p := List.mk_mem_zipIdx_iff_getElem?.1 (h.sublist.subset hp)
  obtain ⟨j, hj, q, hq, hqp⟩ := exists_firstAt hhere
  -- the first of its class is kept too, and so it is the same entry
  have hsymm : Std.Symm (fun a b : Path × Nat ↦ ¬ a.1 ≈ b.1) :=
    ⟨fun _ _ hn he ↦ hn (Setoid.symm he)⟩
  have heq : (q, j) = (p, i) := by
    by_contra hne
    exact h.distinct.forall (h.first_mem j q hq) hp hne hqp
  obtain ⟨rfl, rfl⟩ := Prod.mk.inj heq
  exact hq

theorem KeepsFirsts.unique (h : KeepsFirsts l kept) (h' : KeepsFirsts l kept') : kept = kept' := by
  have hnodup : ∀ {m : List (Path × Nat)}, m.Pairwise (fun a b ↦ a.2 < b.2) → m.Nodup :=
    fun hm ↦ hm.imp fun hlt he ↦ Nat.ne_of_lt hlt (congrArg Prod.snd he)
  have hperm : kept.Perm kept' := by
    rw [List.perm_ext_iff_of_nodup (hnodup h.pairwise) (hnodup h'.pairwise)]
    rintro ⟨p, i⟩
    rw [h.mem_iff, h'.mem_iff]
  exact hperm.eq_of_pairwise (fun _ _ _ _ hlt hgt ↦ absurd hlt (Nat.lt_asymm hgt))
    h.pairwise h'.pairwise

end Places

section OneByOne

/-- Puts a root at the end, unless it is there already. -/
def concatNew (roots : List Path) (p : Path) : List Path :=
  if ∃ q ∈ roots, q ≈ p then roots else roots ++ [p]

theorem exists_mem_firsts_iff : (∃ q ∈ firsts l, q ≈ p) ↔ ∃ q ∈ l, q ≈ p := by
  constructor
  · rintro ⟨q, hq, hqp⟩
    exact ⟨q, mem_of_mem_firsts hq, hqp⟩
  · rintro ⟨q, hq, hqp⟩
    obtain ⟨r, hr, hrq⟩ := exists_mem_firsts hq
    exact ⟨r, hr, Setoid.trans hrq hqp⟩

theorem concatNew_firsts_of_mem (h : ∃ q ∈ l, q ≈ p) : concatNew (firsts l) p = firsts l :=
  if_pos (exists_mem_firsts_iff.2 h)

theorem concatNew_firsts_of_not_mem (h : ¬ ∃ q ∈ l, q ≈ p) :
    concatNew (firsts l) p = firsts l ++ [p] :=
  if_neg (mt exists_mem_firsts_iff.1 h)

theorem firsts_concat (l : List Path) (p : Path) :
    firsts (l ++ [p]) = concatNew (firsts l) p := by
  induction l with
  | nil => rfl
  | cons a l ih =>
    rw [List.cons_append, firsts, ih]
    by_cases hl : ∃ q ∈ l, q ≈ p
    · obtain ⟨q, hq, hqp⟩ := hl
      rw [concatNew_firsts_of_mem ⟨q, hq, hqp⟩,
        concatNew_firsts_of_mem ⟨q, List.mem_cons_of_mem a hq, hqp⟩, firsts]
    · rw [concatNew_firsts_of_not_mem hl, List.filter_append]
      by_cases ha : a ≈ p
      · rw [concatNew_firsts_of_mem ⟨a, List.mem_cons_self, ha⟩, firsts,
          List.filter_cons_of_neg (by simpa using ha), List.filter_nil, List.append_nil]
      · have hal : ¬ ∃ q ∈ a :: l, q ≈ p := by
          rintro ⟨q, hq, hqp⟩
          rcases List.mem_cons.1 hq with rfl | hq
          · exact ha hqp
          · exact hl ⟨q, hq, hqp⟩
        rw [concatNew_firsts_of_not_mem hal, firsts,
          List.filter_cons_of_pos (by simpa using ha), List.filter_nil, List.cons_append]

/-- The first of each class are those that are new when the list is gone through. -/
theorem firsts_eq_foldl (l : List Path) : firsts l = l.foldl concatNew [] := by
  induction l using List.reverseRecOn with
  | nil => rfl
  | append_singleton l p ih =>
    rw [firsts_concat, List.foldl_append, ih, List.foldl_cons, List.foldl_nil]

theorem FirstAt.of_concat (h : FirstAt (l ++ [p]) i q) :
    FirstAt l i q ∨ i = l.length ∧ q = p ∧ ∀ r ∈ l, ¬ r ≈ p := by
  obtain ⟨hhere, hfirst⟩ := h
  by_cases hi : i < l.length
  · rw [List.getElem?_append_left hi] at hhere
    rw [List.take_append_of_le_length (Nat.le_of_lt hi)] at hfirst
    exact .inl ⟨hhere, hfirst⟩
  · rw [List.getElem?_append_right (Nat.le_of_not_lt hi), List.getElem?_singleton] at hhere
    split at hhere
    · next hzero =>
      obtain rfl : i = l.length := by omega
      rw [List.take_left] at hfirst
      obtain rfl := Option.some.inj hhere
      exact .inr ⟨rfl, rfl, hfirst⟩
    · cases hhere

theorem KeepsFirsts.concat_of_mem (h : KeepsFirsts l kept) (hp : ∃ q ∈ l, q ≈ p) :
    KeepsFirsts (l ++ [p]) kept where
  sublist := by
    rw [List.zipIdx_append]
    exact h.sublist.trans (List.sublist_append_left _ _)
  distinct := h.distinct
  first_mem i q hq := by
    rcases hq.of_concat with hq | ⟨-, -, hnew⟩
    · exact h.first_mem i q hq
    · obtain ⟨r, hr, hrp⟩ := hp
      exact absurd hrp (hnew r hr)

theorem KeepsFirsts.concat_of_not_mem (h : KeepsFirsts l kept) (hp : ¬ ∃ q ∈ l, q ≈ p) :
    KeepsFirsts (l ++ [p]) (kept ++ [(p, l.length)]) where
  sublist := by
    rw [List.zipIdx_append, Nat.zero_add]
    exact h.sublist.append_right _
  distinct := by
    rw [List.pairwise_append]
    refine ⟨h.distinct, List.pairwise_singleton _ _, fun a ha b hb ↦ ?_⟩
    rw [List.mem_singleton.1 hb]
    have hal : a.1 ∈ l := List.fst_mem_of_mem_zipIdx (h.sublist.subset ha)
    exact fun he ↦ hp ⟨a.1, hal, he⟩
  first_mem i q hq := by
    rcases hq.of_concat with hq | ⟨rfl, rfl, -⟩
    · exact List.mem_append_left _ (h.first_mem i q hq)
    · exact List.mem_append_right _ (List.mem_singleton_self _)

theorem keepsFirsts_nil : KeepsFirsts [] [] where
  sublist := .slnil
  distinct := .nil
  first_mem i p hp := by
    have hhere := hp.here
    cases hhere

theorem exists_keepsFirsts (l : List Path) :
    ∃ kept, KeepsFirsts l kept ∧ kept.map Prod.fst = firsts l := by
  induction l using List.reverseRecOn with
  | nil => exact ⟨[], keepsFirsts_nil, rfl⟩
  | append_singleton l p ih =>
    obtain ⟨kept, hkept, hmap⟩ := ih
    rw [firsts_concat]
    by_cases hp : ∃ q ∈ l, q ≈ p
    · rw [concatNew_firsts_of_mem hp]
      exact ⟨kept, hkept.concat_of_mem hp, hmap⟩
    · rw [concatNew_firsts_of_not_mem hp]
      refine ⟨kept ++ [(p, l.length)], hkept.concat_of_not_mem hp, ?_⟩
      rw [List.map_append, hmap, List.map_singleton]

end OneByOne

/-- Its roots make the same search path again, spellings included. -/
def Settled (s : SearchPath) : Prop := ofList s.roots = s

/-- A search path made of a list has the first of each class of equal paths, nothing else, and is
so determined; none that is made in any way has anything left to drop. -/
theorem ofList_keeps_firsts (l : List Path) :
    (∀ roots, (∃ kept, KeepsFirsts l kept ∧ kept.map Prod.fst = roots) ↔
      roots = (ofList l).roots) ∧
    (ofList l).roots = l.foldl concatNew [] ∧
    Settled (ofList l) ∧
    (∀ defaults host, Settled (merge defaults host)) ∧
    (∀ start name, Settled (lookups start name)) ∧
    Settled ∅ ∧
    ∀ s, Settled (ofSurroundings s) := by
  refine ⟨fun roots ↦ ?_, firsts_eq_foldl l, ofList_roots _, fun _ _ ↦ ofList_roots _,
    fun _ _ ↦ ofList_roots _, ofList_roots _, fun _ ↦ ofList_roots _⟩
  obtain ⟨kept, hkept, hmap⟩ := exists_keepsFirsts l
  constructor
  · rintro ⟨kept', hkept', rfl⟩
    rw [hkept'.unique hkept, hmap, ofList]
  · rintro rfl
    exact ⟨kept, hkept, hmap⟩

end GrammarPackages.SearchPath
