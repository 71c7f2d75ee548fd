import Mathlib.Data.Finset.Range
import GrammarPackages.Grammar.StandIn
import GrammarPackages.Proofs.LastDeclaration

namespace GrammarPackages

namespace Registry

variable {γ : Type}

/-- The handles in the registry, copies of one counted once. -/
def places (r : Registry γ) : Finset Nat :=
  (r.toList.map (fun e ↦ e.2.grammar.place)).toFinset

theorem mem_places_iff {r : Registry γ} {place : Nat} :
    place ∈ r.places ↔ ∃ fileType l, r.get? fileType = some l ∧ l.grammar.place = place := by
  simp only [places, List.mem_toFinset, List.mem_map, Prod.exists, mem_toList_iff]

end Registry

namespace Package

open Manifest (Declaration)

variable {σ γ : Type} {files : FileView} {loader : Grammar.Loader σ γ} {roots : List Path}
variable {package a b fileType : String} {ds : List Declaration} {state : σ} {r : Registry γ}
variable {i j : Nat} {l m : Language γ}

theorem LastDeclares.unique (hi : LastDeclares fileType ds i) (hj : LastDeclares fileType ds j) :
    i = j := by
  obtain ⟨⟨d, hd, hmem⟩, hlast⟩ := hi
  obtain ⟨⟨d', hd', hmem'⟩, hlast'⟩ := hj
  rcases Nat.lt_trichotomy i j with h | h | h
  · exact absurd hmem' (hlast j d' h hd')
  · exact h
  · exact absurd hmem (hlast' i d h hd)

theorem forall_mem_drop_iff {f : Declaration → Prop} :
    (∀ d ∈ ds.drop (i + 1), f d) ↔ ∀ j d, i < j → ds[j]? = some d → f d := by
  constructor
  · intro h j d hij hd
    apply h
    obtain ⟨k, rfl⟩ := Nat.exists_eq_add_of_lt hij
    rw [List.mem_iff_getElem?]
    exact ⟨k, by rw [List.getElem?_drop, Nat.add_right_comm, hd]⟩
  · intro h d hd
    obtain ⟨k, hk⟩ := List.mem_iff_getElem?.1 hd
    rw [List.getElem?_drop] at hk
    exact h _ d (by omega) hk

theorem exists_lastDeclares_at_iff :
    (∃ t ∈ ds[i]?.elim [] Declaration.fileTypes, ∀ e ∈ ds.drop (i + 1), t ∉ e.fileTypes) ↔
      ∃ t, LastDeclares t ds i := by
  simp only [forall_mem_drop_iff, LastDeclares]
  cases ds[i]? <;> simp

instance (ds : List Declaration) (i : Nat) : Decidable (∃ t, LastDeclares t ds i) :=
  decidable_of_iff _ exists_lastDeclares_at_iff

/-- The declarations that are the last of some file type. -/
def lastDeclarers (ds : List Declaration) : Finset Nat :=
  (Finset.range ds.length).filter (fun i ↦ ∃ t, LastDeclares t ds i)

theorem mem_lastDeclarers_iff : i ∈ lastDeclarers ds ↔ ∃ t, LastDeclares t ds i := by
  rw [lastDeclarers, Finset.mem_filter, Finset.mem_range]
  refine and_iff_right_of_imp fun h ↦ ?_
  obtain ⟨t, ⟨d, hd, -⟩, -⟩ := h
  exact (List.getElem?_eq_some_iff.1 hd).1

/-- The handle under a file type is that of the type's last declaration. -/
theorem lastDeclares_place
    (h : (buildFrom files loader roots package ds 0 ∅ state).outcome = .ok r)
    (hl : r.get? fileType = some l) : LastDeclares fileType ds l.grammar.place := by
  rcases (get?_of_buildFrom h fileType l).1 hl with ⟨i, g, hi, -, rfl⟩ | ⟨-, hempty⟩
  · simpa [Language.ofHandle] using hi
  · simp at hempty

theorem exists_get?_of_lastDeclares
    (h : (buildFrom files loader roots package ds 0 ∅ state).outcome = .ok r)
    (hi : LastDeclares fileType ds i) :
    ∃ l, r.get? fileType = some l ∧ l.grammar.place = i := by
  have hmem : fileType ∈ r := (mem_of_buildFrom h fileType).2 (exists_lastDeclares_iff.1 ⟨i, hi⟩)
  obtain ⟨l, hl⟩ := Option.isSome_iff_exists.1 (Registry.mem_iff_isSome.1 hmem)
  exact ⟨l, hl, (lastDeclares_place h hl).unique hi⟩

theorem places_of_buildFrom
    (h : (buildFrom files loader roots package ds 0 ∅ state).outcome = .ok r) :
    r.places = lastDeclarers ds := by
  ext i
  rw [Registry.mem_places_iff, mem_lastDeclarers_iff]
  constructor
  · rintro ⟨t, l, hl, rfl⟩
    exact ⟨t, lastDeclares_place h hl⟩
  · rintro ⟨t, ht⟩
    obtain ⟨l, hl, hplace⟩ := exists_get?_of_lastDeclares h ht
    exact ⟨t, l, hl, hplace⟩

theorem grammar_eq_of_sharesWith
    (h : (buildFrom files loader roots package ds 0 ∅ state).outcome = .ok r)
    (hl : r.get? a = some l) (hm : r.get? b = some m) (hshare : l.SharesWith m) :
    l.grammar = m.grammar := by
  rcases (get?_of_buildFrom h a l).1 hl with ⟨i, g, -, hg, rfl⟩ | ⟨-, hempty⟩
  · rcases (get?_of_buildFrom h b m).1 hm with ⟨j, g', -, hg', rfl⟩ | ⟨-, hempty⟩
    · have hij : i = j := by simpa [Language.SharesWith, Language.ofHandle] using hshare
      subst hij
      rw [hg] at hg'
      obtain rfl : g = g' := by simpa using hg'
      rfl
    · simp at hempty
  · simp at hempty

/-- Which file types share a grammar: those with the same last declaration. -/
structure SharesByDeclaration (ds : List Declaration) (r : Registry γ) : Prop where
  shares_iff : ∀ a b l m, r.get? a = some l → r.get? b = some m →
    (l.SharesWith m ↔ ∃ i, LastDeclares a ds i ∧ LastDeclares b ds i)
  /-- Whatever library they come to, and whatever the loader answers. -/
  apart : ∀ a b l m i j, r.get? a = some l → r.get? b = some m → LastDeclares a ds i →
    LastDeclares b ds j → i ≠ j → ¬ l.SharesWith m
  same_grammar : ∀ a b l m, r.get? a = some l → r.get? b = some m → l.SharesWith m →
    l.grammar = m.grammar
  card_places : r.places.card = (lastDeclarers ds).card

theorem sharesByDeclaration_of_buildFrom
    (h : (buildFrom files loader roots package ds 0 ∅ state).outcome = .ok r) :
    SharesByDeclaration ds r where
  shares_iff a b l m hl hm := by
    have ha := lastDeclares_place h hl
    have hb := lastDeclares_place h hm
    constructor
    · intro hshare
      exact ⟨l.grammar.place, ha, hshare ▸ hb⟩
    · rintro ⟨i, hai, hbi⟩
      exact (ha.unique hai).trans (hb.unique hbi).symm
  apart a b l m i j hl hm hi hj hne hshare := by
    have hil := (lastDeclares_place h hl).unique hi
    have hjm := (lastDeclares_place h hm).unique hj
    exact hne (hil.symm.trans (hshare.trans hjm))
  same_grammar a b l m hl hm hshare := grammar_eq_of_sharesWith h hl hm hshare
  card_places := congrArg Finset.card (places_of_buildFrom h)

/-- In a registry that was built, file types share a grammar just when one declaration is the last
of both, and there are as many grammars as there are such declarations. -/
theorem build_shares_by_declaration (files : FileView) (loader : Grammar.Loader σ γ)
    (roots : List Path) (directory : Path) (package : String) (state : σ) (r : Registry γ)
    (h : (build files loader roots directory package state).outcome = .ok r) :
    ∃ ds, Manifest.read files directory = .ok ds ∧ SharesByDeclaration ds r := by
  cases hd : Manifest.read files directory with
  | error defect =>
    rw [build_of_rejected hd] at h
    cases h
  | ok ds =>
    rw [build_of_read hd] at h
    exact ⟨ds, rfl, sharesByDeclaration_of_buildFrom h⟩

def rivalManifest : String :=
  "\x7b\"tree-sitter\":[[\"s\",[\"a\",\"b\"],\"g\",[],[],\"\",null,null]," ++
    "[\"s\",[\"b\",\"c\"],\"./g\",[],[],\"\",null,null]]\x7d"

/-- A package with two declarations of one library. -/
def rivalPackage : FileView :=
  .plain [(.ofString "/p/g", some ""), (.ofString "/p/package.json", some rivalManifest)]

def rivalDeclarations : List Declaration :=
  [⟨"s", ["a", "b"], "g", [], [], "", none, none⟩,
    ⟨"s", ["b", "c"], "./g", [], [], "", none, none⟩]

theorem read_rivalPackage :
    Manifest.read rivalPackage (.ofString "/p") = .ok rivalDeclarations := by
  have hparse : (Manifest.parse rivalManifest).toOption = some rivalDeclarations := by
    decide +kernel
  exact Manifest.read_plain (by decide +kernel) hparse

theorem build_shares_by_declaration_of_rivals :
    let run := build rivalPackage Grammar.StandIn.unread [.ofString "/p"] (.ofString "/p") "p" ()
    ∃ r, run.outcome = .ok r ∧
      (∃ ds, Manifest.read rivalPackage (.ofString "/p") = .ok ds ∧ SharesByDeclaration ds r) ∧
      ∃ l m, r.get? "a" = some l ∧ r.get? "b" = some m ∧
        l.grammar.value = m.grammar.value ∧ ¬ l.SharesWith m := by
  intro run
  let call : String × Path := ("g", .ofString "/p/g")
  let g : Grammar.StandIn := ⟨"g", none⟩
  have hfirst : callFor rivalPackage [.ofString "/p"]
      ⟨"s", ["a", "b"], "g", [], [], "", none, none⟩ = some call := by decide +kernel
  have hsecond : callFor rivalPackage [.ofString "/p"]
      ⟨"s", ["b", "c"], "./g", [], [], "", none, none⟩ = some call := by decide +kernel
  have hall : AllLoad rivalPackage Grammar.StandIn.unread [.ofString "/p"] ()
      rivalDeclarations :=
    allLoad_cons.2 ⟨call, g, hfirst, rfl, allLoad_cons.2 ⟨call, g, hsecond, rfl,
      fun j hj ↦ absurd hj (Nat.not_lt_zero j)⟩⟩
  obtain ⟨r, hr⟩ := (buildFrom_of_allLoad hall "p" 0 ∅).1
  have hrun : run.outcome = .ok r := by rw [← hr, ← build_of_read read_rivalPackage]
  obtain ⟨ds, hds, hshares⟩ := build_shares_by_declaration _ _ _ _ _ _ r hrun
  have hlast : LastDeclares "a" rivalDeclarations 0 :=
    lastDeclares_zero.2 ⟨by decide, by decide⟩
  have hlast' : LastDeclares "b" rivalDeclarations 1 :=
    (lastDeclares_succ 0).2 (lastDeclares_zero.2 ⟨by decide, by decide⟩)
  have ha : r.get? "a" = some (.ofHandle ⟨0, g⟩) := by
    refine (get?_of_buildFrom hr "a" _).2 (.inl ⟨0, g, hlast, ?_, rfl⟩)
    rw [rivalDeclarations, grammarAt_zero, grammarAfter_nil_of_call hfirst]
    rfl
  have hb : r.get? "b" = some (.ofHandle ⟨1, g⟩) := by
    refine (get?_of_buildFrom hr "b" _).2 (.inl ⟨1, g, hlast', ?_, rfl⟩)
    rw [rivalDeclarations, grammarAt_succ hfirst, grammarAt_zero, grammarAfter_nil_of_call hsecond]
    rfl
  refine ⟨r, hrun, ⟨ds, hds, hshares⟩, _, _, ha, hb, rfl, ?_⟩
  obtain rfl : rivalDeclarations = ds := Except.ok.inj (read_rivalPackage.symm.trans hds)
  exact hshares.apart "a" "b" _ _ 0 1 ha hb hlast hlast' Nat.zero_ne_one

end Package

end GrammarPackages
