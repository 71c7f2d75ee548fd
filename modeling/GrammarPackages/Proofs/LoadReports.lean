import Mathlib.Data.Finset.Card
import GrammarPackages.Proofs.BuildRun
import GrammarPackages.Proofs.LastDeclaration
import GrammarPackages.Proofs.LoadOutcome
import GrammarPackages.Proofs.PackageNames
import GrammarPackages.Proofs.PackageSearch
import GrammarPackages.Proofs.RegistryViews

namespace GrammarPackages

namespace Event

def directory? : Event → Option Path
  | packageLocated _ directory => some directory
  | _ => none

def cause? : Event → Option String
  | manifestRejected _ cause => some cause
  | _ => none

def replaced? : Event → Option Bool
  | grammarRegistered _ _ _ replaced => some replaced
  | _ => none

def languages? : Event → Option Nat
  | registryBuilt _ languages => some languages
  | _ => none

/-- Tells what has come of a stage of a load. -/
def IsMilestone : Event → Prop
  | packageLocated .. | manifestRejected .. | registryBuilt .. => True
  | _ => False

end Event

namespace Package

open Manifest (Declaration)

variable {σ γ α : Type}

namespace Run

theorem reports_of_reports (outcome : Except Fault α) (events : List Event) (state : σ) :
    (Run.mk outcome (events.map .report) state).reports = events := by
  simp [reports, List.filterMap_map]

@[simp]
theorem after_reports_reports (events : List Event) (r : Run σ α) :
    (r.after (events.map .report)).reports = events ++ r.reports := by
  rw [reports, after, List.filterMap_append]
  exact congrArg (· ++ r.reports) (reports_of_reports r.outcome events r.state)

@[simp]
theorem after_call_reports (name : String) (library : Path) (reports events : List Event)
    (r : Run σ α) :
    (r.after (.call name library reports :: events.map .report)).reports = events ++ r.reports :=
  after_reports_reports events r

end Run

/-- The file types of the declarations, each with the scope it is declared for, in the order in
which they are registered. -/
def registered (ds : List Declaration) : List (String × String) :=
  ds.flatMap (fun d ↦ d.fileTypes.map (fun t ↦ (t, d.scope)))

/-- One report for each file type. It replaces another if it is among `seen`, or has come up
earlier in the list. -/
def registrations (package : String) (seen : List String) (l : List (String × String)) :
    List Event :=
  l.mapIdx (fun i e ↦
    .grammarRegistered package e.1 e.2 (e.1 ∈ seen ++ (l.take i).map Prod.fst))

section Registrations

variable {package scope : String} {seen : List String} {l m : List (String × String)}
variable {r : Registry γ} {g : Language γ} {ts : List String} {e : String × String}

theorem registrations_cons :
    registrations package seen (e :: l) =
      .grammarRegistered package e.1 e.2 (e.1 ∈ seen) ::
        registrations package (seen ++ [e.1]) l := by
  simp [registrations, List.mapIdx_cons]

theorem registrations_append :
    registrations package seen (l ++ m) =
      registrations package seen l ++ registrations package (seen ++ l.map Prod.fst) m := by
  induction l generalizing seen with
  | nil => simp [registrations]
  | cons e l ih =>
    rw [List.cons_append, registrations_cons, registrations_cons, ih, List.map_cons,
      List.append_assoc]
    rfl

theorem register_snd (h : ∀ t, t ∈ r ↔ t ∈ seen) :
    (register package scope g ts r).2 =
      registrations package seen (ts.map (fun t ↦ (t, scope))) := by
  -- `seen` lists what the registry holds; both grow by `t`
  induction ts generalizing r seen with
  | nil => rfl
  | cons t ts ih =>
    have hnext : ∀ u, u ∈ r.insert t g ↔ u ∈ seen ++ [t] := by
      intro u
      rw [Registry.mem_insert_iff, h, List.mem_append, List.mem_singleton, or_comm]
    rw [List.map_cons, registrations_cons, register, ih hnext]
    simp only [h]

theorem mem_register_iff (h : ∀ t, t ∈ r ↔ t ∈ seen) (t : String) :
    t ∈ (register package scope g ts r).1 ↔
      t ∈ seen ++ (ts.map (fun t ↦ (t, scope))).map Prod.fst := by
  rw [Registry.mem_iff_isSome, get?_register, List.mem_append, List.map_map, ← h,
    Registry.mem_iff_isSome]
  simp only [Function.comp_def, List.map_id']
  split
  · next ht => simp [ht]
  · next ht => simp [ht]

/-- As many registrations are new as there are file types. -/
theorem count_registrations (package : String) (l : List (String × String)) :
    ((registrations package [] l).filterMap Event.replaced?).count false =
      (l.map Prod.fst).toFinset.card := by
  induction l using List.reverseRecOn with
  | nil => rfl
  | append_singleton l e ih =>
    have hlast : registrations package [] (l ++ [e]) = registrations package [] l ++
        [.grammarRegistered package e.1 e.2 (e.1 ∈ l.map Prod.fst)] := by
      rw [registrations_append, List.nil_append, registrations_cons]
      rfl
    have hinsert : ((l ++ [e]).map Prod.fst).toFinset = insert e.1 (l.map Prod.fst).toFinset := by
      ext t
      simp
    rw [hlast, List.filterMap_append, List.count_append, ih, hinsert]
    by_cases he : e.1 ∈ l.map Prod.fst
    · rw [Finset.insert_eq_of_mem (List.mem_toFinset.2 he), decide_eq_true he]
      rfl
    · rw [Finset.card_insert_of_notMem (mt List.mem_toFinset.1 he), decide_eq_false he]
      rfl

end Registrations

section Build

variable {files : FileView} {loader : Grammar.Loader σ γ} {roots : List Path} {state : σ}
variable {ds : List Declaration} {seen : List String} {r : Registry γ}

theorem registered_cons (d : Declaration) (ds : List Declaration) :
    registered (d :: ds) = d.fileTypes.map (fun t ↦ (t, d.scope)) ++ registered ds :=
  List.flatMap_cons

theorem map_fst_registered (ds : List Declaration) :
    (registered ds).map Prod.fst = ds.flatMap Declaration.fileTypes := by
  simp [registered, List.map_flatMap, Function.comp_def]

/-- A build that fails has reported what the declarations before the fault registered. -/
theorem buildFrom_reports_of_failsAt {n : Nat} {f : Grammar.Fault}
    (h : FailsAt files loader roots state ds n f) (hr : ∀ t, t ∈ r ↔ t ∈ seen)
    (package : String) (place : Nat) :
    (buildFrom files loader roots package ds place r state).reports =
      registrations package seen (registered (ds.take n)) := by
  -- a fault in the first declaration comes before any of its file types is registered
  induction ds generalizing n place r seen state with
  | nil => exact absurd h.lt (Nat.not_lt_zero n)
  | cons d ds ih =>
    cases n with
    | zero =>
      have hd := failsAt_zero.1 h
      cases hc : callFor files roots d with
      | none =>
        rw [buildFrom_cons_of_unresolved hc]
        rfl
      | some c =>
        rw [grammarAfter_nil_of_call hc] at hd
        rw [buildFrom_cons_of_fault hc hd]
        rfl
    | succ n =>
      obtain ⟨c, g, hc, hl, hrest⟩ := failsAt_succ.1 h
      rw [buildFrom_cons_of_grammar hc hl, Run.after_call_reports, register_snd hr,
        ih hrest (mem_register_iff hr), List.take_succ_cons, registered_cons,
        registrations_append]

theorem buildFrom_reports_of_ok {built : Registry γ} {package : String} {place : Nat}
    (h : (buildFrom files loader roots package ds place r state).outcome = .ok built)
    (hr : ∀ t, t ∈ r ↔ t ∈ seen) :
    (buildFrom files loader roots package ds place r state).reports =
      registrations package seen (registered ds) ++ [.registryBuilt package built.size] := by
  induction ds generalizing place r seen state with
  | nil =>
    obtain rfl : r = built := Except.ok.inj h
    rfl
  | cons d ds ih =>
    obtain ⟨c, g, hc, hl, -⟩ := allLoad_cons.1 ((buildFrom_ok_iff package place r).1 ⟨_, h⟩)
    rw [buildFrom_cons_of_grammar hc hl] at h ⊢
    rw [Run.after_call_reports, register_snd hr, ih h (mem_register_iff hr), registered_cons,
      registrations_append, List.append_assoc]

end Build

/-- What is reported until the package is found below the root at this place. -/
def findings (package : String) (roots : List Path) (i : Nat) (root : Path) : List Event :=
  probes package (roots.take (i + 1)) ++ [.packageLocated package (root / .ofString package)]

/-- The ways a load can go: what comes of it, and all that it reports. -/
inductive Recorded (files : FileView) (loader : Grammar.Loader σ γ) (roots : List Path)
    (package : String) (state : σ) : Except Fault (Registry γ) → List Event → Prop
  | misnamed (hname : ¬ IsName (.ofString package)) :
      Recorded files loader roots package state (.error (.notFound package))
        [.nameRejected package]
  | absent (hname : IsName (.ofString package))
      (h : ∀ root ∈ roots, ¬ files.Exists (root / .ofString package)) :
      Recorded files loader roots package state (.error (.notFound package))
        (probes package roots)
  | rejected {i : Nat} {root : Path} {defect : Manifest.Defect}
      (hname : IsName (.ofString package)) (hfound : FoundAt files package roots i root)
      (hd : Manifest.read files (root / .ofString package) = .error defect) :
      Recorded files loader roots package state (.error (.invalid package defect))
        (findings package roots i root ++ [.manifestRejected package defect.message])
  | failed {i n : Nat} {root : Path} {ds : List Declaration} {f : Grammar.Fault}
      (hname : IsName (.ofString package)) (hfound : FoundAt files package roots i root)
      (hd : Manifest.read files (root / .ofString package) = .ok ds)
      (hf : FailsAt files loader roots state ds n f) :
      Recorded files loader roots package state (.error (.grammar f))
        (findings package roots i root ++ registrations package [] (registered (ds.take n)))
  | built {i : Nat} {root : Path} {ds : List Declaration} {r : Registry γ}
      (hname : IsName (.ofString package)) (hfound : FoundAt files package roots i root)
      (hd : Manifest.read files (root / .ofString package) = .ok ds)
      (hall : AllLoad files loader roots state ds)
      (hsize : r.size = (ds.flatMap Declaration.fileTypes).toFinset.card) :
      Recorded files loader roots package state (.ok r)
        (findings package roots i root ++ (registrations package [] (registered ds) ++
          [.registryBuilt package r.size]))

section Load

variable {files : FileView} {loader : Grammar.Loader σ γ} {roots : List Path} {package : String}
variable {state : σ} {outcome : Except Fault (Registry γ)} {events : List Event}

theorem mem_empty_iff (t : String) : t ∈ (∅ : Registry γ) ↔ t ∈ ([] : List String) := by
  rw [Registry.mem_iff_isSome, Registry.get?_empty]
  simp

theorem locate_eq_findings (hname : IsName (.ofString package)) {i : Nat} {root : Path}
    (hfound : FoundAt files package roots i root) :
    locate files roots package =
      (some (root / .ofString package), findings package roots i root) := by
  obtain ⟨c, hc⟩ := isName_iff.1 hname
  exact locate_of_foundAt hc hfound

theorem locate_eq_probes (hname : IsName (.ofString package))
    (h : ∀ root ∈ roots, ¬ files.Exists (root / .ofString package)) :
    locate files roots package = (none, probes package roots) := by
  rw [locate_of_isName hname, probe_of_absent h]

theorem load_of_locate_eq_none (h : locate files roots package = (none, events)) :
    load files loader roots package state =
      ⟨.error (.notFound package), events.map .report, state⟩ := by
  have hl : (locate files roots package).1 = none := by rw [h]
  rw [load_of_absent hl, h]

theorem load_of_locate_eq_some {directory : Path}
    (h : locate files roots package = (some directory, events)) :
    load files loader roots package state =
      (build files loader roots directory package state).after (events.map .report) := by
  have hl : (locate files roots package).1 = some directory := by rw [h]
  rw [load_of_located hl, h]

theorem load_recorded_of_foundAt (hname : IsName (.ofString package)) {i : Nat} {root : Path}
    (hfound : FoundAt files package roots i root) (loader : Grammar.Loader σ γ) (state : σ) :
    Recorded files loader roots package state (load files loader roots package state).outcome
      (load files loader roots package state).reports := by
  rw [load_of_locate_eq_some (locate_eq_findings hname hfound), Run.after_reports_reports,
    Run.after_outcome]
  cases hd : Manifest.read files (root / .ofString package) with
  | error defect =>
    rw [build_of_rejected hd, Run.reports_of_reports]
    exact .rejected hname hfound hd
  | ok ds =>
    rw [build_of_read hd]
    rcases allLoad_or_failsAt files loader roots state ds with hall | ⟨n, f, hf⟩
    · obtain ⟨r, hr⟩ := (buildFrom_of_allLoad hall package 0 ∅).1
      rw [hr, buildFrom_reports_of_ok hr mem_empty_iff]
      exact .built hname hfound hd hall (showsLastDeclarations_of_buildFrom hr).size_eq
    · rw [(buildFrom_of_failsAt hf package 0 ∅).1,
        buildFrom_reports_of_failsAt hf mem_empty_iff package 0]
      exact .failed hname hfound hd hf

theorem load_recorded (files : FileView) (loader : Grammar.Loader σ γ) (roots : List Path)
    (package : String) (state : σ) :
    Recorded files loader roots package state (load files loader roots package state).outcome
      (load files loader roots package state).reports := by
  by_cases hname : IsName (.ofString package)
  · rcases exists_foundAt_or_absent files package roots with ⟨i, root, hfound⟩ | habsent
    · exact load_recorded_of_foundAt hname hfound loader state
    · rw [load_of_locate_eq_none (locate_eq_probes hname habsent), Run.reports_of_reports]
      exact .absent hname habsent
  · rw [load_of_locate_eq_none (if_neg hname), Run.reports_of_reports]
    exact .misnamed hname

section Observed

variable {β : Type} {observe : Event → Option β}

theorem filterMap_probes (h : ∀ p candidate, observe (.rootProbed p candidate) = none)
    (package : String) (roots : List Path) : (probes package roots).filterMap observe = [] := by
  rw [probes, List.filterMap_map, List.filterMap_eq_nil_iff]
  intro root _
  exact h package _

theorem filterMap_findings (h : ∀ p candidate, observe (.rootProbed p candidate) = none)
    (package : String) (roots : List Path) (i : Nat) (root : Path) :
    (findings package roots i root).filterMap observe =
      [.packageLocated package (root / .ofString package)].filterMap observe := by
  rw [findings, List.filterMap_append, filterMap_probes h, List.nil_append]

theorem filterMap_registrations
    (h : ∀ p t scope replaced, observe (.grammarRegistered p t scope replaced) = none)
    (package : String) (seen : List String) (l : List (String × String)) :
    (registrations package seen l).filterMap observe = [] := by
  rw [List.filterMap_eq_nil_iff]
  intro e he
  obtain ⟨i, hi, rfl⟩ := List.mem_mapIdx.1 he
  apply h

end Observed

/-- What is said of an outcome when it is reached. -/
def closing (package : String) : Except Fault (Registry γ) → List Event
  | .ok r => [.registryBuilt package r.size]
  | .error (.invalid package defect) => [.manifestRejected package defect.message]
  | .error _ => []

/-- Of the milestones there are the directory, if one is found, and the end. -/
theorem Recorded.milestones (h : Recorded files loader roots package state outcome events)
    {β : Type} {observe : Event → Option β} (hobserve : ∀ e, ¬ e.IsMilestone → observe e = none) :
    events.filterMap observe =
      ((locate files roots package).1.toList.map (Event.packageLocated package) ++
        closing package outcome).filterMap observe := by
  have hprobes := filterMap_probes (fun p c ↦ hobserve (.rootProbed p c) id) package roots
  have hfindings := filterMap_findings (fun p c ↦ hobserve (.rootProbed p c) id) package roots
  have hregistrations := filterMap_registrations
    (fun p t scope replaced ↦ hobserve (.grammarRegistered p t scope replaced) id) package []
  cases h with
  | misnamed hname =>
    rw [locate, if_neg hname, List.filterMap_cons_none (hobserve _ id)]
    rfl
  | absent hname habsent =>
    rw [locate_eq_probes hname habsent, hprobes]
    rfl
  | rejected hname hfound hd =>
    rw [locate_eq_findings hname hfound, List.filterMap_append, hfindings, List.filterMap_append]
    rfl
  | failed hname hfound hd hf =>
    rw [locate_eq_findings hname hfound, List.filterMap_append, hfindings, hregistrations,
      List.filterMap_append]
    rfl
  | built hname hfound hd hall hsize =>
    rw [locate_eq_findings hname hfound, List.filterMap_append, hfindings, List.filterMap_append,
      hregistrations, List.filterMap_append]
    rfl

theorem Recorded.directories (h : Recorded files loader roots package state outcome events) :
    events.filterMap Event.directory? = (locate files roots package).1.toList := by
  have hobserve : ∀ e : Event, ¬ e.IsMilestone → e.directory? = none := by
    intro e he
    cases e with
    | packageLocated package directory => exact absurd trivial he
    | _ => rfl
  have hclosing : (closing package outcome).filterMap Event.directory? = [] := by
    cases outcome with
    | ok r => rfl
    | error f => cases f <;> rfl
  rw [h.milestones hobserve, List.filterMap_append, hclosing, List.append_nil]
  cases (locate files roots package).1 <;> rfl

/-- The text behind an outcome that blames the manifest. -/
def manifestCause? : Except Fault α → Option String
  | .error (.invalid package defect) => (Fault.invalid package defect).causes.head?
  | _ => none

theorem Recorded.causes (h : Recorded files loader roots package state outcome events) :
    events.filterMap Event.cause? = (manifestCause? outcome).toList := by
  have hobserve : ∀ e : Event, ¬ e.IsMilestone → e.cause? = none := by
    intro e he
    cases e with
    | manifestRejected package cause => exact absurd trivial he
    | _ => rfl
  have hlocated (found : Option Path) :
      (found.toList.map (Event.packageLocated package)).filterMap Event.cause? = [] := by
    cases found <;> rfl
  rw [h.milestones hobserve, List.filterMap_append, hlocated]
  cases outcome with
  | ok r => rfl
  | error f => cases f <;> rfl

theorem Recorded.sizes (h : Recorded files loader roots package state outcome events) :
    events.filterMap Event.languages? = (outcome.toOption.map Registry.size).toList := by
  have hobserve : ∀ e : Event, ¬ e.IsMilestone → e.languages? = none := by
    intro e he
    cases e with
    | registryBuilt package languages => exact absurd trivial he
    | _ => rfl
  have hlocated (found : Option Path) :
      (found.toList.map (Event.packageLocated package)).filterMap Event.languages? = [] := by
    cases found <;> rfl
  rw [h.milestones hobserve, List.filterMap_append, hlocated]
  cases outcome with
  | ok r => rfl
  | error f => cases f <;> rfl

theorem Recorded.getLast?_eq {r : Registry γ}
    (h : Recorded files loader roots package state (.ok r) events) :
    events.getLast? = some (.registryBuilt package r.size) := by
  cases h with
  | built hname hfound hd hall hsize => rw [← List.append_assoc, List.getLast?_concat]

/-- The registrations that replace none are as many as the languages. -/
theorem Recorded.count_new {r : Registry γ}
    (h : Recorded files loader roots package state (.ok r) events) :
    (events.filterMap Event.replaced?).count false = r.size := by
  cases h with
  | built hname hfound hd hall hsize =>
    rw [List.filterMap_append, filterMap_findings (fun _ _ ↦ rfl), List.filterMap_append,
      List.count_append, List.count_append, count_registrations, map_fst_registered, ← hsize]
    exact Nat.zero_add _

/-- All that a load reports of itself. -/
structure ReportsInFull (files : FileView) (loader : Grammar.Loader σ γ) (roots : List Path)
    (package : String) (state : σ) (run : Run σ (Registry γ)) : Prop where
  recorded : Recorded files loader roots package state run.outcome run.reports
  located : run.reports.filterMap Event.directory? = (locate files roots package).1.toList
  rejected : run.reports.filterMap Event.cause? = (manifestCause? run.outcome).toList
  built : run.reports.filterMap Event.languages? =
    (run.outcome.toOption.map Registry.size).toList
  built_last : ∀ r, run.outcome = .ok r →
    run.reports.getLast? = some (.registryBuilt package r.size)
  count_new : ∀ r, run.outcome = .ok r →
    (run.reports.filterMap Event.replaced?).count false = r.size

/-- A load reports each root that it tries, what it finds there, each file type that it registers,
and how it ends if it finds a package; and nothing else. -/
theorem load_reports_in_full (files : FileView) (loader : Grammar.Loader σ γ)
    (roots : List Path) (package : String) (state : σ) :
    ReportsInFull files loader roots package state
      (load files loader roots package state) := by
  have h := load_recorded files loader roots package state
  refine ⟨h, h.directories, h.causes, h.sizes, ?_, ?_⟩
  · intro r hr
    rw [hr] at h
    exact h.getLast?_eq
  · intro r hr
    rw [hr] at h
    exact h.count_new

end Load

end Package

end GrammarPackages
