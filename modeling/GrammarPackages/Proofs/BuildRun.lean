import GrammarPackages.Proofs.FirstFault
import GrammarPackages.Proofs.RegistryViews

namespace GrammarPackages.Package

open Manifest (Declaration)

variable {σ γ α : Type}

namespace Run

@[simp]
theorem after_outcome (steps : List Step) (r : Run σ α) : (r.after steps).outcome = r.outcome :=
  rfl

@[simp]
theorem after_state (steps : List Step) (r : Run σ α) : (r.after steps).state = r.state := rfl

theorem after_calls (steps : List Step) (r : Run σ α) :
    (r.after steps).calls = (Run.mk r.outcome steps r.state).calls ++ r.calls :=
  List.filterMap_append

theorem calls_of_reports (outcome : Except Fault α) (events : List Event) (state : σ) :
    (Run.mk outcome (events.map .report) state).calls = [] := by
  simp [calls, List.filterMap_map]

@[simp]
theorem after_reports_calls (events : List Event) (r : Run σ α) :
    (r.after (events.map .report)).calls = r.calls := by
  rw [after_calls, calls_of_reports, List.nil_append]

@[simp]
theorem after_call_calls (name : String) (library : Path) (reports events : List Event)
    (r : Run σ α) :
    (r.after (.call name library reports :: events.map .report)).calls =
      (name, library) :: r.calls := by
  rw [after_calls]
  exact congrArg ((name, library) :: · ++ r.calls) (calls_of_reports r.outcome events r.state)

/-- The same outcome, the same calls of the loader, and the same state in the end. -/
def Matches (r r' : Run σ α) : Prop :=
  r'.outcome = r.outcome ∧ r'.calls = r.calls ∧ r'.state = r.state

theorem Matches.after_reports {r r' : Run σ α} (h : r.Matches r') (events events' : List Event) :
    (r.after (events.map .report)).Matches (r'.after (events'.map .report)) := by
  rw [Matches, after_reports_calls, after_reports_calls]
  exact h

theorem Matches.after_call {r r' : Run σ α} (h : r.Matches r') (name : String) (library : Path)
    (reports events events' : List Event) :
    (r.after (.call name library reports :: events.map .report)).Matches
      (r'.after (.call name library reports :: events'.map .report)) := by
  obtain ⟨houtcome, hcalls, hstate⟩ := h
  refine ⟨houtcome, ?_, hstate⟩
  rw [after_call_calls, after_call_calls, hcalls]

end Run

theorem register_fst (package scope : String) (l : Language γ) (fileTypes : List String)
    (r : Registry γ) :
    (register package scope l fileTypes r).1 = fileTypes.foldl (fun r t ↦ r.insert t l) r := by
  induction fileTypes generalizing r with
  | nil => rfl
  | cons t rest ih => exact ih (r.insert t l)

theorem get?_register (package scope : String) (l : Language γ) (fileTypes : List String)
    (r : Registry γ) (fileType : String) :
    (register package scope l fileTypes r).1.get? fileType =
      if fileType ∈ fileTypes then some l else r.get? fileType := by
  induction fileTypes generalizing r with
  | nil => simp [register]
  | cons t rest ih =>
    refine (ih (r.insert t l)).trans ?_
    by_cases hrest : fileType ∈ rest
    · simp [hrest]
    · simp [hrest]

section Step

variable {files : FileView} {loader : Grammar.Loader σ γ} {roots : List Path} {package : String}
variable {d : Declaration} {ds : List Declaration} {c : String × Path} {state : σ}
variable {place : Nat} {r : Registry γ}

theorem buildFrom_cons_of_unresolved (hc : callFor files roots d = none) :
    buildFrom files loader roots package (d :: ds) place r state =
      ⟨.error (.grammar (.notFound d.path)), [], state⟩ := by
  simp only [buildFrom, callFor_eq_none_iff.1 hc]

theorem buildFrom_cons_of_fault {f : Grammar.Fault} (hc : callFor files roots d = some c)
    (hl : (loader.load state c.1 c.2).result = .error f) :
    buildFrom files loader roots package (d :: ds) place r state =
      ⟨.error (.grammar f), [.call c.1 c.2 (loader.load state c.1 c.2).events],
        (loader.load state c.1 c.2).state⟩ := by
  obtain ⟨hr, hn⟩ := callFor_eq_some_iff.1 hc
  simp only [buildFrom, hr, ← hn, hl]

theorem buildFrom_cons_of_grammar {g : γ} (hc : callFor files roots d = some c)
    (hl : (loader.load state c.1 c.2).result = .ok g) :
    buildFrom files loader roots package (d :: ds) place r state =
      let registered := register package d.scope (.ofHandle ⟨place, g⟩) d.fileTypes r
      (buildFrom files loader roots package ds (place + 1) registered.1
        (loader.load state c.1 c.2).state).after
          (.call c.1 c.2 (loader.load state c.1 c.2).events :: registered.2.map .report) := by
  obtain ⟨hr, hn⟩ := callFor_eq_some_iff.1 hc
  simp only [buildFrom, hr, ← hn, hl]

end Step

section Whole

variable {files : FileView} {loader : Grammar.Loader σ γ} {roots : List Path}
variable {ds : List Declaration} {state : σ}

/-- A build ends at the first declaration that fails. The loader has been called for each one
before it, and for itself if its path resolved. -/
theorem buildFrom_of_failsAt {i : Nat} {f : Grammar.Fault}
    (h : FailsAt files loader roots state ds i f) (package : String) (place : Nat)
    (r : Registry γ) :
    (buildFrom files loader roots package ds place r state).outcome = .error (.grammar f) ∧
      ∃ d before, ds[i]? = some d ∧
        before.map some = (ds.take i).map (callFor files roots) ∧
        (buildFrom files loader roots package ds place r state).calls =
          before ++ (callFor files roots d).toList := by
  induction ds generalizing i place r state with
  | nil => exact absurd h.lt (Nat.not_lt_zero i)
  | cons d ds ih =>
    cases i with
    | zero =>
      have hd := failsAt_zero.1 h
      cases hc : callFor files roots d with
      | none =>
        obtain rfl : Grammar.Fault.notFound d.path = f := by simpa [grammarAfter, hc] using hd
        rw [buildFrom_cons_of_unresolved hc]
        exact ⟨rfl, d, [], rfl, rfl, by simp [hc, Run.calls]⟩
      | some c =>
        rw [grammarAfter_nil_of_call hc] at hd
        rw [buildFrom_cons_of_fault hc hd]
        exact ⟨rfl, d, [], rfl, rfl, by simp [hc, Run.calls]⟩
    | succ i =>
      obtain ⟨c, g, hc, hl, hrest⟩ := failsAt_succ.1 h
      rw [buildFrom_cons_of_grammar hc hl]
      obtain ⟨houtcome, e, before, he, hbefore, hcalls⟩ := ih hrest (place + 1)
        (register package d.scope (.ofHandle ⟨place, g⟩) d.fileTypes r).1
      refine ⟨houtcome, e, c :: before, he, ?_, ?_⟩
      · simp only [List.map_cons, List.take_succ_cons, hbefore, hc]
      · rw [Run.after_call_calls, hcalls, List.cons_append]

theorem buildFrom_of_allLoad (h : AllLoad files loader roots state ds) (package : String)
    (place : Nat) (r : Registry γ) :
    (∃ built, (buildFrom files loader roots package ds place r state).outcome = .ok built) ∧
      (buildFrom files loader roots package ds place r state).calls.map some =
        ds.map (callFor files roots) := by
  induction ds generalizing place r state with
  | nil => exact ⟨⟨r, rfl⟩, rfl⟩
  | cons d ds ih =>
    obtain ⟨c, g, hc, hl, hrest⟩ := allLoad_cons.1 h
    rw [buildFrom_cons_of_grammar hc hl]
    obtain ⟨houtcome, hcalls⟩ := ih hrest (place + 1)
      (register package d.scope (.ofHandle ⟨place, g⟩) d.fileTypes r).1
    refine ⟨houtcome, ?_⟩
    rw [Run.after_call_calls, List.map_cons, hcalls, List.map_cons, hc]

theorem buildFrom_ok_iff (package : String) (place : Nat) (r : Registry γ) :
    (∃ built, (buildFrom files loader roots package ds place r state).outcome = .ok built) ↔
      AllLoad files loader roots state ds := by
  refine ⟨fun ⟨built, hbuilt⟩ ↦ ?_, fun h ↦ (buildFrom_of_allLoad h package place r).1⟩
  rcases allLoad_or_failsAt files loader roots state ds with h | ⟨i, f, h⟩
  · exact h
  · exact absurd (hbuilt.symm.trans (buildFrom_of_failsAt h package place r).1) (by simp)

theorem buildFrom_grammar_iff (package : String) (place : Nat) (r : Registry γ)
    (f : Grammar.Fault) :
    (buildFrom files loader roots package ds place r state).outcome = .error (.grammar f) ↔
      ∃ i, FailsAt files loader roots state ds i f := by
  refine ⟨fun hf ↦ ?_, fun ⟨i, h⟩ ↦ (buildFrom_of_failsAt h package place r).1⟩
  rcases allLoad_or_failsAt files loader roots state ds with h | ⟨i, f', h⟩
  · obtain ⟨built, hbuilt⟩ := (buildFrom_of_allLoad h package place r).1
    exact absurd (hf.symm.trans hbuilt) (by simp)
  · have hff := hf.symm.trans (buildFrom_of_failsAt h package place r).1
    obtain rfl : f = f' := by simpa using hff
    exact ⟨i, h⟩

theorem buildFrom_ends (files : FileView) (loader : Grammar.Loader σ γ) (roots : List Path)
    (package : String) (ds : List Declaration) (place : Nat) (r : Registry γ) (state : σ) :
    (∃ f, (buildFrom files loader roots package ds place r state).outcome =
        .error (.grammar f)) ∨
      ∃ built, (buildFrom files loader roots package ds place r state).outcome = .ok built := by
  rcases allLoad_or_failsAt files loader roots state ds with h | ⟨i, f, h⟩
  · exact .inr (buildFrom_of_allLoad h package place r).1
  · exact .inl ⟨f, (buildFrom_of_failsAt h package place r).1⟩

theorem buildFrom_state (package : String) (place : Nat) (r : Registry γ) :
    (buildFrom files loader roots package ds place r state).state =
      loader.stateAfter state
        (buildFrom files loader roots package ds place r state).calls := by
  induction ds generalizing place r state with
  | nil => rfl
  | cons d ds ih =>
    cases hc : callFor files roots d with
    | none =>
      rw [buildFrom_cons_of_unresolved hc]
      rfl
    | some c =>
      cases hl : (loader.load state c.1 c.2).result with
      | error f =>
        rw [buildFrom_cons_of_fault hc hl]
        rfl
      | ok g =>
        rw [buildFrom_cons_of_grammar hc hl, Run.after_call_calls, Run.after_state, ih]
        rfl

/-- The loader is called for one declaration after the other, up to the last that is reached. -/
theorem buildFrom_calls_prefix (package : String) (place : Nat) (r : Registry γ) :
    (buildFrom files loader roots package ds place r state).calls.map some <+:
      ds.map (callFor files roots) := by
  induction ds generalizing place r state with
  | nil => exact List.prefix_rfl
  | cons d ds ih =>
    cases hc : callFor files roots d with
    | none =>
      rw [buildFrom_cons_of_unresolved hc]
      exact List.nil_prefix
    | some c =>
      rw [List.map_cons, hc]
      cases hl : (loader.load state c.1 c.2).result with
      | error f =>
        rw [buildFrom_cons_of_fault hc hl]
        exact List.prefix_cons_inj (some c) |>.2 List.nil_prefix
      | ok g =>
        rw [buildFrom_cons_of_grammar hc hl, Run.after_call_calls, List.map_cons]
        exact (List.prefix_cons_inj (some c)).2 (ih _ _)

theorem buildFrom_take {i n : Nat} {f : Grammar.Fault}
    (h : FailsAt files loader roots state ds i f) (hi : i < n) (package : String) (place : Nat)
    (r : Registry γ) :
    buildFrom files loader roots package (ds.take n) place r state =
      buildFrom files loader roots package ds place r state := by
  induction ds generalizing i n place r state with
  | nil => rw [List.take_nil]
  | cons d ds ih =>
    obtain ⟨n, rfl⟩ : ∃ m, n = m + 1 := ⟨n - 1, by omega⟩
    rw [List.take_succ_cons]
    cases i with
    | zero =>
      have hd := failsAt_zero.1 h
      cases hc : callFor files roots d with
      | none => rw [buildFrom_cons_of_unresolved hc, buildFrom_cons_of_unresolved hc]
      | some c =>
        rw [grammarAfter_nil_of_call hc] at hd
        rw [buildFrom_cons_of_fault hc hd, buildFrom_cons_of_fault hc hd]
    | succ i =>
      obtain ⟨c, g, hc, hl, hrest⟩ := failsAt_succ.1 h
      rw [buildFrom_cons_of_grammar hc hl, buildFrom_cons_of_grammar hc hl]
      simp only [ih hrest (Nat.lt_of_succ_lt_succ hi)]

/-- Of a declaration, its file types, its path and where that resolves are all that a build
depends on. -/
theorem buildFrom_congr {files' : FileView} {roots' : List Path} {ds' : List Declaration}
    (package package' : String) (place : Nat) (r : Registry γ)
    (h : ds.map (fun d ↦ (d.fileTypes, d.path, callFor files roots d)) =
      ds'.map (fun d ↦ (d.fileTypes, d.path, callFor files' roots' d))) :
    (buildFrom files loader roots package ds place r state).Matches
      (buildFrom files' loader roots' package' ds' place r state) := by
  induction ds generalizing ds' place r state with
  | nil =>
    obtain rfl : ds' = [] := by simpa using h.symm
    exact ⟨rfl, rfl, rfl⟩
  | cons d ds ih =>
    obtain ⟨d', rest, rfl⟩ : ∃ d' rest, ds' = d' :: rest := by
      cases ds' with
      | nil => simp at h
      | cons d' rest => exact ⟨d', rest, rfl⟩
    rw [List.map_cons, List.map_cons, List.cons.injEq, Prod.mk.injEq, Prod.mk.injEq] at h
    obtain ⟨⟨htypes, hpath, hcall⟩, hrest⟩ := h
    cases hc : callFor files roots d with
    | none =>
      rw [buildFrom_cons_of_unresolved hc, buildFrom_cons_of_unresolved (hcall ▸ hc), hpath]
      exact ⟨rfl, rfl, rfl⟩
    | some c =>
      have hc' : callFor files' roots' d' = some c := hcall ▸ hc
      cases hl : (loader.load state c.1 c.2).result with
      | error f =>
        rw [buildFrom_cons_of_fault hc hl, buildFrom_cons_of_fault hc' hl]
        exact ⟨rfl, rfl, rfl⟩
      | ok g =>
        rw [buildFrom_cons_of_grammar hc hl, buildFrom_cons_of_grammar hc' hl]
        dsimp only
        rw [register_fst, register_fst, ← htypes]
        exact (ih (place + 1) _ hrest).after_call c.1 c.2 _ _ _

end Whole

end GrammarPackages.Package
