import GrammarPackages.Proofs.LoadOutcome
import GrammarPackages.Proofs.PlainView

namespace GrammarPackages.Package

open Manifest (Declaration)

variable {σ γ : Type}

def LastDeclares (fileType : String) (ds : List Declaration) (i : Nat) : Prop :=
  (∃ d, ds[i]? = some d ∧ fileType ∈ d.fileTypes) ∧
    ∀ j d, i < j → ds[j]? = some d → fileType ∉ d.fileTypes

section Last

variable {fileType : String} {d : Declaration} {ds : List Declaration}

theorem not_lastDeclares_nil (i : Nat) : ¬ LastDeclares fileType [] i := by
  intro ⟨⟨d, hd, _⟩, _⟩
  simp at hd

theorem lastDeclares_zero :
    LastDeclares fileType (d :: ds) 0 ↔
      fileType ∈ d.fileTypes ∧ ∀ e ∈ ds, fileType ∉ e.fileTypes := by
  constructor
  · intro ⟨⟨e, he, hmem⟩, hlast⟩
    obtain rfl : d = e := by simpa using he
    refine ⟨hmem, fun e he ↦ ?_⟩
    obtain ⟨j, hj⟩ := List.mem_iff_getElem?.1 he
    exact hlast (j + 1) e (Nat.succ_pos j) hj
  · intro ⟨hmem, hlast⟩
    refine ⟨⟨d, rfl, hmem⟩, fun j e hj he ↦ ?_⟩
    cases j with
    | zero => exact absurd hj (Nat.lt_irrefl 0)
    | succ j => exact hlast e (List.mem_of_getElem? he)

theorem lastDeclares_succ (i : Nat) :
    LastDeclares fileType (d :: ds) (i + 1) ↔ LastDeclares fileType ds i := by
  constructor
  · intro ⟨hmem, hlast⟩
    exact ⟨hmem, fun j e hj he ↦ hlast (j + 1) e (Nat.succ_lt_succ hj) he⟩
  · intro ⟨hmem, hlast⟩
    refine ⟨hmem, fun j e hj he ↦ ?_⟩
    cases j with
    | zero => exact absurd hj (Nat.not_lt_zero _)
    | succ j => exact hlast j e (Nat.lt_of_succ_lt_succ hj) he

theorem exists_lastDeclares_iff :
    (∃ i, LastDeclares fileType ds i) ↔ ∃ d ∈ ds, fileType ∈ d.fileTypes := by
  constructor
  · intro ⟨i, ⟨d, hd, hmem⟩, _⟩
    exact ⟨d, List.mem_of_getElem? hd, hmem⟩
  · induction ds with
    | nil => simp
    | cons d ds ih =>
      intro h
      by_cases hrest : ∃ e ∈ ds, fileType ∈ e.fileTypes
      · obtain ⟨i, hi⟩ := ih hrest
        exact ⟨i + 1, (lastDeclares_succ i).2 hi⟩
      · push Not at hrest
        obtain ⟨e, he, hmem⟩ := h
        rcases List.mem_cons.1 he with rfl | he
        · exact ⟨0, lastDeclares_zero.2 ⟨hmem, hrest⟩⟩
        · exact absurd hmem (hrest e he)

end Last

section Build

variable {files : FileView} {loader : Grammar.Loader σ γ} {roots : List Path}
variable {ds : List Declaration} {state : σ}

/-- What a build leaves under a file type: the grammar of the last declaration of that type, or
what was there before if none declares it. -/
theorem get?_of_buildFrom {package : String} {place : Nat} {r built : Registry γ}
    (h : (buildFrom files loader roots package ds place r state).outcome = .ok built)
    (fileType : String) (l : Language γ) :
    built.get? fileType = some l ↔
      (∃ i g, LastDeclares fileType ds i ∧
        grammarAt files loader roots state ds i = some (.ok g) ∧
        l = .ofHandle ⟨place + i, g⟩) ∨
      ((∀ d ∈ ds, fileType ∉ d.fileTypes) ∧ r.get? fileType = some l) := by
  induction ds generalizing place r state with
  | nil =>
    obtain rfl : r = built := Except.ok.inj h
    simp [not_lastDeclares_nil]
  | cons d ds ih =>
    obtain ⟨c, g, hc, hl, -⟩ := allLoad_cons.1 ((buildFrom_ok_iff package place r).1 ⟨_, h⟩)
    rw [buildFrom_cons_of_grammar hc hl, Run.after_outcome] at h
    rw [ih h, get?_register]
    constructor
    · intro h'
      rcases h' with ⟨i, g', hi, hg, rfl⟩ | ⟨hnone, hr⟩
      · refine .inl ⟨i + 1, g', (lastDeclares_succ i).2 hi, ?_, ?_⟩
        · rw [grammarAt_succ hc, hg]
        · rw [Nat.add_right_comm, Nat.add_assoc]
      · by_cases hd : fileType ∈ d.fileTypes
        · rw [if_pos hd] at hr
          refine .inl ⟨0, g, lastDeclares_zero.2 ⟨hd, hnone⟩, ?_, (Option.some.inj hr).symm⟩
          rw [grammarAt_zero, grammarAfter_nil_of_call hc, hl]
        · rw [if_neg hd] at hr
          exact .inr ⟨List.forall_mem_cons.2 ⟨hd, hnone⟩, hr⟩
    · intro h'
      rcases h' with ⟨i, g', hi, hg, rfl⟩ | ⟨hnone, hr⟩
      · cases i with
        | zero =>
          obtain ⟨hd, hnone⟩ := lastDeclares_zero.1 hi
          rw [grammarAt_zero, grammarAfter_nil_of_call hc, hl] at hg
          obtain rfl : g = g' := by simpa using hg
          exact .inr ⟨hnone, by rw [if_pos hd, Nat.add_zero]⟩
        | succ i =>
          refine .inl ⟨i, g', (lastDeclares_succ i).1 hi, ?_, ?_⟩
          · rwa [grammarAt_succ hc] at hg
          · rw [Nat.add_right_comm, Nat.add_assoc]
      · obtain ⟨hd, hnone⟩ := List.forall_mem_cons.1 hnone
        exact .inr ⟨hnone, by rw [if_neg hd, hr]⟩

theorem filterMap_callFor {calls : List (String × Path)}
    (h : calls.map some = ds.map (callFor files roots)) :
    ds.filterMap (callFor files roots) = calls := by
  have hmap := congrArg (List.filterMap id) h
  simpa [List.filterMap_map] using hmap.symm

theorem call_of_grammarAt {calls : List (String × Path)} {i : Nat} {g : γ}
    (h : calls.map some = ds.map (callFor files roots))
    (hg : grammarAt files loader roots state ds i = some (.ok g)) :
    ∃ d library, ds[i]? = some d ∧ Grammar.resolve files roots d.path = .ok library ∧
      calls[i]? = some (Grammar.nameOf library, library) ∧
      loader.answerAfter state (calls.take i) (Grammar.nameOf library, library) = .ok g := by
  obtain ⟨d, hd, hafter⟩ := Option.map_eq_some_iff.1 hg
  have htake : (calls.take i).map some = (ds.take i).map (callFor files roots) := by
    rw [List.map_take, h, List.map_take]
  unfold grammarAfter at hafter
  rw [filterMap_callFor htake] at hafter
  cases hc : callFor files roots d with
  | none => simp [hc] at hafter
  | some c =>
    obtain ⟨name, library⟩ := c
    obtain ⟨hr, rfl⟩ : _ ∧ name = Grammar.nameOf library := callFor_eq_some_iff.1 hc
    have hi := congrArg (·[i]?) h
    simp only [List.getElem?_map, hd, Option.map_some, hc] at hi
    refine ⟨d, library, hd, hr, by simpa using hi, ?_⟩
    simpa only [hc] using hafter

end Build

/-- The registry shows what the last declaration of each file type has brought, where these are
the calls that were made of the loader. -/
structure ShowsLastDeclarations (files : FileView) (loader : Grammar.Loader σ γ)
    (roots : List Path) (state : σ) (ds : List Declaration) (calls : List (String × Path))
    (r : Registry γ) : Prop where
  mem_iff : ∀ fileType, fileType ∈ r ↔ ∃ d ∈ ds, fileType ∈ d.fileTypes
  size_eq : r.size = (ds.flatMap Declaration.fileTypes).toFinset.card
  /-- The grammar is what the loader answered to the call for that declaration. -/
  grammar : ∀ fileType l, r.get? fileType = some l →
    ∃ i d library, LastDeclares fileType ds i ∧ ds[i]? = some d ∧
      Grammar.resolve files roots d.path = .ok library ∧
      calls[i]? = some (Grammar.nameOf library, library) ∧
      loader.answerAfter state (calls.take i) (Grammar.nameOf library, library) =
        .ok l.grammar.value
  scopeMappings_eq : ∀ fileType l, r.get? fileType = some l → l.scopeMappings = none
  shows : r.Shows r.get?

theorem mem_of_buildFrom {files : FileView} {loader : Grammar.Loader σ γ} {roots : List Path}
    {package : String} {ds : List Declaration} {state : σ} {r : Registry γ}
    (h : (buildFrom files loader roots package ds 0 ∅ state).outcome = .ok r)
    (fileType : String) : fileType ∈ r ↔ ∃ d ∈ ds, fileType ∈ d.fileTypes := by
  rw [Registry.mem_iff_isSome, Option.isSome_iff_exists, ← exists_lastDeclares_iff]
  constructor
  · intro ⟨l, hl⟩
    rcases (get?_of_buildFrom h fileType l).1 hl with ⟨i, g, hi, -⟩ | ⟨-, hempty⟩
    · exact ⟨i, hi⟩
    · simp at hempty
  · intro ⟨i, hi⟩
    obtain ⟨d, hd, -⟩ := hi.1
    obtain ⟨hlt, -⟩ := List.getElem?_eq_some_iff.1 hd
    obtain ⟨g, hg⟩ := (buildFrom_ok_iff package 0 ∅).1 ⟨r, h⟩ i hlt
    exact ⟨_, (get?_of_buildFrom h fileType _).2 (.inl ⟨i, g, hi, hg, rfl⟩)⟩

theorem showsLastDeclarations_of_buildFrom {files : FileView} {loader : Grammar.Loader σ γ}
    {roots : List Path} {package : String} {ds : List Declaration} {state : σ} {r : Registry γ}
    (h : (buildFrom files loader roots package ds 0 ∅ state).outcome = .ok r) :
    ShowsLastDeclarations files loader roots state ds
      (buildFrom files loader roots package ds 0 ∅ state).calls r where
  mem_iff := mem_of_buildFrom h
  size_eq := by
    refine Registry.size_eq_card (fun fileType ↦ ?_)
    rw [← Registry.mem_iff_isSome, mem_of_buildFrom h, List.mem_toFinset, List.mem_flatMap]
  grammar fileType l hl := by
    have hcalls := (buildFrom_of_allLoad ((buildFrom_ok_iff package 0 ∅).1 ⟨r, h⟩) package 0 ∅).2
    rcases (get?_of_buildFrom h fileType l).1 hl with ⟨i, g, hi, hg, rfl⟩ | ⟨-, hempty⟩
    · obtain ⟨d, library, hd, hr, hcall, hanswer⟩ := call_of_grammarAt hcalls hg
      exact ⟨i, d, library, hi, hd, hr, hcall, hanswer⟩
    · simp at hempty
  scopeMappings_eq fileType l hl := by
    rcases (get?_of_buildFrom h fileType l).1 hl with ⟨i, g, -, -, rfl⟩ | ⟨-, hempty⟩
    · rfl
    · simp at hempty
  shows := r.shows_get?

/-- A registry that was built shows the last declaration of each file type. Of a manifest, the
file types and paths, in order, are all that a build depends on. -/
theorem build_shows_last_declarations (files : FileView) (loader : Grammar.Loader σ γ)
    (roots : List Path) (state : σ) :
    (∀ directory package r,
      (build files loader roots directory package state).outcome = .ok r →
        ∃ ds, Manifest.read files directory = .ok ds ∧
          ShowsLastDeclarations files loader roots state ds
            (build files loader roots directory package state).calls r) ∧
    (∀ files' directory directory' package package' ds ds',
      files'.kind = files.kind →
      Manifest.read files directory = .ok ds →
      Manifest.read files' directory' = .ok ds' →
      ds.map (fun d ↦ (d.fileTypes, d.path)) = ds'.map (fun d ↦ (d.fileTypes, d.path)) →
        let run := build files loader roots directory package state
        let run' := build files' loader roots directory' package' state
        run'.outcome = run.outcome ∧ run'.calls = run.calls ∧ run'.state = run.state) := by
  constructor
  · intro directory package r hr
    cases hd : Manifest.read files directory with
    | error defect => simp [build_of_rejected hd] at hr
    | ok ds =>
      rw [build_of_read hd] at hr ⊢
      exact ⟨ds, rfl, showsLastDeclarations_of_buildFrom hr⟩
  · intro files' directory directory' package package' ds ds' hkind hd hd' h
    dsimp only
    rw [build_of_read hd, build_of_read hd']
    have hcall : callFor files' roots = callFor files roots := callFor_of_kind hkind roots
    refine buildFrom_congr package package' 0 ∅ ?_
    rw [hcall]
    have hmap := congrArg (List.map fun e : List String × String ↦ (e.1, e.2,
      (Grammar.resolve files roots e.2).toOption.map fun library ↦
        (Grammar.nameOf library, library))) h
    rw [List.map_map, List.map_map] at hmap
    exact hmap

/-- Answers each call with the number of calls before it. -/
def countingLoader : Grammar.Loader Nat Nat where
  load n _ _ := ⟨.ok n, [], n + 1⟩

def bareManifest : String :=
  "\x7b\"tree-sitter\":[[\"s\",[\"a\",\"b\"],\"g\",[],[],\"\",null,null]," ++
    "[\"s\",[\"b\"],\"h\",[],[],\"\",null,null]]\x7d"

def queryManifest : String :=
  "\x7b\"tree-sitter\":[[\"x\",[\"a\",\"b\"],\"g\",\"q\",[],\"\",null,null]," ++
    "[\"y\",[\"b\"],\"h\",[],[],\"\",null,\"r\"]]\x7d"

/-- Two packages whose manifests agree on file types and paths only. -/
def twinPackages : FileView := .plain [
  (.ofString "/r/g", some ""), (.ofString "/r/h.so", some ""),
  (.ofString "/p/package.json", some bareManifest),
  (.ofString "/q/package.json", some queryManifest)]

def bareDeclarations : List Declaration :=
  [⟨"s", ["a", "b"], "g", [], [], "", none, none⟩, ⟨"s", ["b"], "h", [], [], "", none, none⟩]

def queryDeclarations : List Declaration :=
  [⟨"x", ["a", "b"], "g", ["q"], [], "", none, none⟩,
    ⟨"y", ["b"], "h", [], [], "", none, some "r"⟩]

theorem read_twinPackages :
    Manifest.read twinPackages (.ofString "/p") = .ok bareDeclarations ∧
      Manifest.read twinPackages (.ofString "/q") = .ok queryDeclarations := by
  have hp : (Manifest.parse bareManifest).toOption = some bareDeclarations := by decide +kernel
  have hq : (Manifest.parse queryManifest).toOption = some queryDeclarations := by
    decide +kernel
  exact ⟨Manifest.read_plain (by decide +kernel) hp, Manifest.read_plain (by decide +kernel) hq⟩

theorem build_shows_last_declarations_of_twins :
    let run := build twinPackages countingLoader [.ofString "/r"] (.ofString "/p") "p" 0
    let run' := build twinPackages countingLoader [.ofString "/r"] (.ofString "/q") "q" 0
    (∃ r, run.outcome = .ok r ∧ ∃ ds, Manifest.read twinPackages (.ofString "/p") = .ok ds ∧
      ShowsLastDeclarations twinPackages countingLoader [.ofString "/r"] 0 ds run.calls r) ∧
    run'.outcome = run.outcome ∧ run'.calls = run.calls ∧ run'.state = run.state := by
  have h := build_shows_last_declarations twinPackages countingLoader [.ofString "/r"] 0
  obtain ⟨hp, hq⟩ := read_twinPackages
  have hall : AllLoad twinPackages countingLoader [.ofString "/r"] 0 bareDeclarations :=
    allLoad_cons.2 ⟨("g", .ofString "/r/g"), 0, by decide +kernel, rfl,
      allLoad_cons.2 ⟨("h", .ofString "/r/h.so"), 1, by decide +kernel, rfl,
        fun j hj ↦ absurd hj (Nat.not_lt_zero j)⟩⟩
  obtain ⟨r, hr⟩ := (buildFrom_of_allLoad hall "p" 0 ∅).1
  rw [← build_of_read hp] at hr
  exact ⟨⟨r, hr, h.1 _ "p" r hr⟩, h.2 twinPackages _ _ "p" "q" _ _ rfl hp hq rfl⟩

end GrammarPackages.Package
