import Mathlib.Data.Finset.Card
import GrammarPackages.Registry

namespace GrammarPackages.Registry

variable {γ : Type}

theorem lookup_cons_eq_ite (fileType : String) (e : String × Language γ)
    (rest : List (String × Language γ)) :
    (e :: rest).lookup fileType = if fileType = e.1 then some e.2 else rest.lookup fileType := by
  obtain ⟨k, m⟩ := e
  by_cases h : fileType = k
  · simp [h]
  · have hb : (fileType == k) = false := beq_eq_false_iff_ne.2 h
    simp only [List.lookup_cons, hb, h, if_false]

theorem lookup_assign (key fileType : String) (l : Language γ)
    (entries : List (String × Language γ)) :
    (assign key l entries).lookup fileType =
      if fileType = key then some l else entries.lookup fileType := by
  induction entries with
  | nil => simp only [assign, lookup_cons_eq_ite]
  | cons e rest ih =>
    by_cases hk : e.1 = key
    · simp only [assign, hk, if_true, lookup_cons_eq_ite]
      split <;> rfl
    · simp only [assign, hk, if_false, lookup_cons_eq_ite, ih]
      by_cases h : fileType = e.1
      · have hne : fileType ≠ key := fun he ↦ hk (h.symm.trans he)
        simp [h, hk]
      · simp [h]

@[simp]
theorem get?_empty (fileType : String) : (∅ : Registry γ).get? fileType = none := rfl

@[simp]
theorem get?_insert (r : Registry γ) (key fileType : String) (l : Language γ) :
    (r.insert key l).get? fileType = if fileType = key then some l else r.get? fileType :=
  lookup_assign key fileType l r.entries

theorem lookup_isSome_iff (entries : List (String × Language γ)) (fileType : String) :
    (entries.lookup fileType).isSome ↔ fileType ∈ entries.map Prod.fst := by
  induction entries with
  | nil => simp
  | cons e rest ih =>
    rw [lookup_cons_eq_ite, List.map_cons, List.mem_cons, ← ih]
    by_cases h : fileType = e.1 <;> simp [h]

theorem lookup_eq_some_iff {entries : List (String × Language γ)}
    (distinct : (entries.map Prod.fst).Nodup) {fileType : String} {l : Language γ} :
    entries.lookup fileType = some l ↔ (fileType, l) ∈ entries := by
  induction entries with
  | nil => simp
  | cons e rest ih =>
    obtain ⟨absent, hrest⟩ := List.nodup_cons.1 distinct
    rw [lookup_cons_eq_ite, List.mem_cons, Prod.ext_iff]
    by_cases h : fileType = e.1
    · have hl : (fileType, l) ∉ rest := fun hmem ↦
        absent (List.mem_map.2 ⟨(fileType, l), hmem, h⟩)
      simp [h ▸ hl, h, eq_comm]
    · simp [h, ih hrest]

theorem mem_iff_isSome {r : Registry γ} {fileType : String} :
    fileType ∈ r ↔ (r.get? fileType).isSome :=
  (lookup_isSome_iff r.entries fileType).symm

@[simp]
theorem mem_insert_iff {r : Registry γ} {key fileType : String} {l : Language γ} :
    fileType ∈ r.insert key l ↔ fileType = key ∨ fileType ∈ r := by
  rw [mem_iff_isSome, mem_iff_isSome, get?_insert]
  split
  · next h => simp [h]
  · next h => simp [h]

theorem mem_toList_iff {r : Registry γ} {fileType : String} {l : Language γ} :
    (fileType, l) ∈ r.toList ↔ r.get? fileType = some l :=
  (lookup_eq_some_iff r.distinct).symm

theorem isEmpty_iff {r : Registry γ} : r.isEmpty ↔ ∀ fileType, r.get? fileType = none := by
  obtain ⟨entries, distinct⟩ := r
  cases entries with
  | nil => simp [isEmpty, get?]
  | cons e rest =>
    simp only [isEmpty, List.isEmpty_cons, Bool.false_eq_true, false_iff, not_forall]
    exact ⟨e.1, by simp [get?, lookup_cons_eq_ite]⟩

/-- Every way to look at the registry shows one and the same map. -/
structure Shows (r : Registry γ) (map : String → Option (Language γ)) : Prop where
  get? : ∀ fileType, r.get? fileType = map fileType
  mem : ∀ fileType, fileType ∈ r ↔ (map fileType).isSome
  isEmpty : r.isEmpty ↔ ∀ fileType, map fileType = none
  fileTypes : ∀ fileType, fileType ∈ r.fileTypes ↔ (map fileType).isSome
  fileTypes_nodup : r.fileTypes.Nodup
  size : ∀ keys : Finset String, (∀ fileType, fileType ∈ keys ↔ (map fileType).isSome) →
    r.size = keys.card
  toList : ∀ fileType l, (fileType, l) ∈ r.toList ↔ map fileType = some l
  toList_nodup : (r.toList.map Prod.fst).Nodup
  sorted : r.sorted.Perm r.toList

theorem size_eq_card {r : Registry γ} {keys : Finset String}
    (h : ∀ fileType, fileType ∈ keys ↔ (r.get? fileType).isSome) : r.size = keys.card := by
  have hkeys : keys = r.fileTypes.toFinset := by
    ext fileType
    rw [h, ← mem_iff_isSome, mem_iff, List.mem_toFinset]
  rw [hkeys, List.toFinset_card_of_nodup (show r.fileTypes.Nodup from r.distinct)]
  exact (List.length_map Prod.fst).symm

theorem shows_get? (r : Registry γ) : r.Shows r.get? where
  get? _ := rfl
  mem _ := mem_iff_isSome
  isEmpty := isEmpty_iff
  fileTypes _ := mem_iff_isSome
  fileTypes_nodup := r.distinct
  size _ := size_eq_card
  toList _ _ := mem_toList_iff
  toList_nodup := r.distinct
  sorted := List.mergeSort_perm _ _

end GrammarPackages.Registry
