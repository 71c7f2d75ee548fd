import GrammarPackages.Proofs.BuildRun

namespace GrammarPackages.Package

open Manifest (Declaration)

variable {σ γ : Type}

/-- The package is found and its manifest lists these declarations. -/
def Declares (files : FileView) (roots : List Path) (package : String)
    (ds : List Declaration) : Prop :=
  ∃ directory, (locate files roots package).1 = some directory ∧
    Manifest.read files directory = .ok ds

section Stages

variable {files : FileView} {loader : Grammar.Loader σ γ} {roots : List Path} {package : String}
variable {state : σ} {directory : Path} {ds : List Declaration}

theorem located_rejected_or_declares (files : FileView) (roots : List Path) (package : String) :
    (locate files roots package).1 = none ∨
      (∃ directory defect, (locate files roots package).1 = some directory ∧
        Manifest.read files directory = .error defect) ∨
      ∃ ds, Declares files roots package ds := by
  cases hl : (locate files roots package).1 with
  | none => exact .inl rfl
  | some directory =>
    cases hd : Manifest.read files directory with
    | error defect => exact .inr (.inl ⟨directory, defect, rfl, hd⟩)
    | ok ds => exact .inr (.inr ⟨ds, directory, hl, hd⟩)

theorem load_of_absent (hl : (locate files roots package).1 = none) :
    load files loader roots package state =
      ⟨.error (.notFound package), (locate files roots package).2.map .report, state⟩ := by
  simp only [load, hl]

theorem build_of_rejected {defect : Manifest.Defect}
    (hd : Manifest.read files directory = .error defect) :
    build files loader roots directory package state =
      ⟨.error (.invalid package defect),
        [Event.manifestRejected package defect.message].map .report, state⟩ := by
  simp only [build, hd, rejection]

theorem build_of_read (hd : Manifest.read files directory = .ok ds) :
    build files loader roots directory package state =
      buildFrom files loader roots package ds 0 ∅ state := by
  simp only [build, hd]

theorem load_of_located (hl : (locate files roots package).1 = some directory) :
    load files loader roots package state =
      (build files loader roots directory package state).after
        ((locate files roots package).2.map .report) := by
  simp only [load, hl]

theorem Declares.load_eq (h : Declares files roots package ds) :
    load files loader roots package state =
      (buildFrom files loader roots package ds 0 ∅ state).after
        ((locate files roots package).2.map .report) := by
  obtain ⟨directory, hl, hd⟩ := h
  rw [load_of_located hl, build_of_read hd]

theorem load_notFound_iff (p : String) :
    (load files loader roots package state).outcome = .error (.notFound p) ↔
      p = package ∧ (locate files roots package).1 = none := by
  rcases located_rejected_or_declares files roots package with
    hl | ⟨directory, defect, hl, hd⟩ | ⟨ds, h⟩
  · simp [load_of_absent hl, hl, eq_comm]
  · simp [load_of_located hl, build_of_rejected hd, hl]
  · obtain ⟨directory, hl, -⟩ := id h
    rw [h.load_eq, Run.after_outcome]
    rcases buildFrom_ends files loader roots package ds 0 ∅ state with ⟨f, he⟩ | ⟨r, he⟩ <;>
      simp [he, hl]

theorem load_invalid_iff (p : String) (defect : Manifest.Defect) :
    (load files loader roots package state).outcome = .error (.invalid p defect) ↔
      p = package ∧ ∃ directory, (locate files roots package).1 = some directory ∧
        Manifest.read files directory = .error defect := by
  rcases located_rejected_or_declares files roots package with
    hl | ⟨directory, defect', hl, hd⟩ | ⟨ds, h⟩
  · simp [load_of_absent hl, hl]
  · simp [load_of_located hl, build_of_rejected hd, hl, hd, eq_comm]
  · obtain ⟨directory, hl, hd⟩ := id h
    rw [h.load_eq, Run.after_outcome]
    rcases buildFrom_ends files loader roots package ds 0 ∅ state with ⟨f, he⟩ | ⟨r, he⟩ <;>
      simp [he, hl, hd]

theorem load_grammar_iff (f : Grammar.Fault) :
    (load files loader roots package state).outcome = .error (.grammar f) ↔
      ∃ ds i, Declares files roots package ds ∧ FailsAt files loader roots state ds i f := by
  constructor
  · intro hf
    rcases located_rejected_or_declares files roots package with
      hl | ⟨directory, defect, hl, hd⟩ | ⟨ds, h⟩
    · simp [load_of_absent hl] at hf
    · simp [load_of_located hl, build_of_rejected hd] at hf
    · rw [h.load_eq, Run.after_outcome, buildFrom_grammar_iff] at hf
      obtain ⟨i, hi⟩ := hf
      exact ⟨ds, i, h, hi⟩
  · intro ⟨ds, i, h, hi⟩
    rw [h.load_eq, Run.after_outcome, buildFrom_grammar_iff]
    exact ⟨i, hi⟩

theorem load_ok_iff :
    (∃ r, (load files loader roots package state).outcome = .ok r) ↔
      ∃ ds, Declares files roots package ds ∧ AllLoad files loader roots state ds := by
  constructor
  · intro ⟨r, hr⟩
    rcases located_rejected_or_declares files roots package with
      hl | ⟨directory, defect, hl, hd⟩ | ⟨ds, h⟩
    · simp [load_of_absent hl] at hr
    · simp [load_of_located hl, build_of_rejected hd] at hr
    · rw [h.load_eq, Run.after_outcome] at hr
      exact ⟨ds, h, (buildFrom_ok_iff package 0 ∅).1 ⟨r, hr⟩⟩
  · intro ⟨ds, h, hall⟩
    rw [h.load_eq, Run.after_outcome]
    exact (buildFrom_ok_iff package 0 ∅).2 hall

theorem load_calls_of_undeclared (h : ∀ ds, ¬ Declares files roots package ds) :
    (load files loader roots package state).calls = [] := by
  rcases located_rejected_or_declares files roots package with
    hl | ⟨directory, defect, hl, hd⟩ | ⟨ds, hds⟩
  · rw [load_of_absent hl, Run.calls_of_reports]
  · rw [load_of_located hl, build_of_rejected hd, Run.after_reports_calls, Run.calls_of_reports]
  · exact absurd hds (h ds)

theorem load_state :
    (load files loader roots package state).state =
      loader.stateAfter state (load files loader roots package state).calls := by
  rcases located_rejected_or_declares files roots package with
    hl | ⟨directory, defect, hl, hd⟩ | ⟨ds, h⟩
  · rw [load_of_absent hl, Run.calls_of_reports]
    rfl
  · rw [load_of_located hl, build_of_rejected hd, Run.after_reports_calls, Run.calls_of_reports]
    rfl
  · rw [h.load_eq, Run.after_reports_calls, Run.after_state, buildFrom_state]

/-- What the manifest of the package reads as, if the package is found. -/
def manifest? (files : FileView) (roots : List Path) (package : String) :
    Option (Except Manifest.Defect (List Declaration)) :=
  (locate files roots package).1.map (Manifest.read files)

theorem declares_iff :
    Declares files roots package ds ↔ manifest? files roots package = some (.ok ds) := by
  rw [manifest?, Option.map_eq_some_iff]
  rfl

/-- Roots under which the same manifest is found, and builds from it match, are as good as each
other. -/
theorem load_matches {roots' : List Path}
    (hmanifest : manifest? files roots' package = manifest? files roots package)
    (hbuild : ∀ ds, Declares files roots package ds →
      (buildFrom files loader roots package ds 0 ∅ state).Matches
        (buildFrom files loader roots' package ds 0 ∅ state)) :
    (load files loader roots package state).Matches
      (load files loader roots' package state) := by
  rcases located_rejected_or_declares files roots package with
    hl | ⟨directory, defect, hl, hd⟩ | ⟨ds, h⟩
  · have hl' : (locate files roots' package).1 = none := by
      rw [← Option.map_eq_none_iff (f := Manifest.read files)]
      rw [manifest?, manifest?, hl] at hmanifest
      exact hmanifest
    rw [load_of_absent hl, load_of_absent hl', Run.Matches, Run.calls_of_reports,
      Run.calls_of_reports]
    exact ⟨rfl, rfl, rfl⟩
  · obtain ⟨directory', hl', hd'⟩ : ∃ directory', (locate files roots' package).1 =
        some directory' ∧ Manifest.read files directory' = .error defect := by
      rw [← Option.map_eq_some_iff]
      rw [manifest?, manifest?, hl, Option.map_some, hd] at hmanifest
      exact hmanifest
    rw [load_of_located hl, load_of_located hl', build_of_rejected hd, build_of_rejected hd']
    exact Run.Matches.after_reports ⟨rfl, rfl, rfl⟩ _ _
  · have h' : Declares files roots' package ds := by
      rw [declares_iff, hmanifest, ← declares_iff]
      exact h
    rw [h.load_eq, h'.load_eq]
    exact (hbuild ds h).after_reports _ _

/-- What stands behind the first declaration that fails is neither resolved nor loaded: it may be
anything, and resolve to anything. -/
theorem load_unmoved_behind_fault {i : Nat} {f : Grammar.Fault}
    (h : Declares files roots package ds) (hi : FailsAt files loader roots state ds i f)
    {files' : FileView} {ds' : List Declaration} (h' : Declares files' roots package ds')
    (htake : ds'.take (i + 1) = ds.take (i + 1))
    (hresolve : ∀ d ∈ ds.take (i + 1),
      Grammar.resolve files' roots d.path = Grammar.resolve files roots d.path) :
    let run := load files loader roots package state
    let run' := load files' loader roots package state
    run'.outcome = run.outcome ∧ run'.calls = run.calls ∧ run'.state = run.state := by
  have hcalls : ∀ d ∈ ds.take (i + 1), callFor files' roots d = callFor files roots d := by
    intro d hd
    simp only [callFor, hresolve d hd]
  have hi' : FailsAt files' loader roots state ds' i f := hi.congr htake hcalls
  dsimp only
  rw [h.load_eq, h'.load_eq]
  simp only [Run.after_outcome, Run.after_state, Run.after_reports_calls]
  rw [← buildFrom_take hi (Nat.lt_succ_self i), ← buildFrom_take hi' (Nat.lt_succ_self i), htake]
  refine buildFrom_congr package package 0 ∅ (List.map_congr_left fun d hd ↦ ?_)
  rw [hcalls d hd]

end Stages

/-- How a load ends and what it asks of the loader, told by what fails first. -/
structure EndsAtFirstFault (files : FileView) (loader : Grammar.Loader σ γ) (roots : List Path)
    (package : String) (state : σ) (run : Run σ (Registry γ)) : Prop where
  notFound_iff : ∀ p, run.outcome = .error (.notFound p) ↔
    p = package ∧ (locate files roots package).1 = none
  invalid_iff : ∀ p defect, run.outcome = .error (.invalid p defect) ↔
    p = package ∧ ∃ directory, (locate files roots package).1 = some directory ∧
      Manifest.read files directory = .error defect
  grammar_iff : ∀ f, run.outcome = .error (.grammar f) ↔
    ∃ ds i, Declares files roots package ds ∧ FailsAt files loader roots state ds i f
  ok_iff : (∃ r, run.outcome = .ok r) ↔
    ∃ ds, Declares files roots package ds ∧ AllLoad files loader roots state ds
  calls_of_undeclared : (∀ ds, ¬ Declares files roots package ds) → run.calls = []
  calls_of_failsAt : ∀ ds i f, Declares files roots package ds →
    FailsAt files loader roots state ds i f →
      ∃ d before, ds[i]? = some d ∧ before.map some = (ds.take i).map (callFor files roots) ∧
        run.calls = before ++ (callFor files roots d).toList
  calls_of_allLoad : ∀ ds, Declares files roots package ds →
    AllLoad files loader roots state ds → run.calls.map some = ds.map (callFor files roots)
  state_eq : run.state = loader.stateAfter state run.calls
  /-- Declarations behind the first fault, and where they would resolve, do not matter. -/
  unmoved_behind_fault : ∀ ds i f, Declares files roots package ds →
    FailsAt files loader roots state ds i f → ∀ files' ds', Declares files' roots package ds' →
      ds'.take (i + 1) = ds.take (i + 1) →
      (∀ d ∈ ds.take (i + 1),
        Grammar.resolve files' roots d.path = Grammar.resolve files roots d.path) →
      let run' := load files' loader roots package state
      run'.outcome = run.outcome ∧ run'.calls = run.calls ∧ run'.state = run.state

/-- A load fails for the first thing that is wrong: no package, no usable manifest, then the
first declaration that does not resolve or that the loader refuses, with the loader's own
fault. -/
theorem load_ends_at_first_fault (files : FileView) (loader : Grammar.Loader σ γ)
    (roots : List Path) (package : String) (state : σ) :
    EndsAtFirstFault files loader roots package state
      (load files loader roots package state) where
  notFound_iff := load_notFound_iff
  invalid_iff := load_invalid_iff
  grammar_iff := load_grammar_iff
  ok_iff := load_ok_iff
  calls_of_undeclared := load_calls_of_undeclared
  calls_of_failsAt ds i f h hi := by
    rw [h.load_eq, Run.after_reports_calls]
    exact (buildFrom_of_failsAt hi package 0 ∅).2
  calls_of_allLoad ds h hall := by
    rw [h.load_eq, Run.after_reports_calls]
    exact (buildFrom_of_allLoad hall package 0 ∅).2
  state_eq := load_state
  unmoved_behind_fault _ _ _ h hi _ _ h' htake hresolve :=
    load_unmoved_behind_fault h hi h' htake hresolve

end GrammarPackages.Package
