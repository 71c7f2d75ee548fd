import GrammarPackages.Proofs.CacheRun
import GrammarPackages.Proofs.FailedOpening
import GrammarPackages.Proofs.LoadOutcome
import GrammarPackages.Proofs.PlainView

namespace GrammarPackages

namespace Grammar.Cache

variable {σ τ γ : Type} {canonical : Path → Option Path} {openAt : Opener σ γ}
variable {c : Cache γ} {s : σ} {key : Path} {g : γ}

/-- A library that could not be opened cannot be opened right after that either. -/
def FailsAgain (openAt : Opener σ γ) : Prop :=
  ∀ s s' key name f, openAt s key name = (.error f, s') → (openAt s' key name).1 = .error f

theorem Steady.failsAgain (h : Steady openAt) : FailsAgain openAt := by
  intro s s' key name f hopen
  rw [h s' s, hopen]

theorem get?_stateAfter_of_kept (h : c.get? key = some g) (calls : List (String × Path)) :
    ((loader canonical openAt).stateAfter (c, s) calls).1.get? key = some g := by
  induction calls generalizing c s with
  | nil => exact h
  | cons call calls ih =>
    have hstep := get?_getOrLoad canonical openAt c s call.1 call.2 key
    rw [h, Option.some_or] at hstep
    exact ih hstep

theorem loader_load (canonical : Path → Option Path) (openAt : Opener σ γ) (c : Cache γ) (s : σ)
    (name : String) (path : Path) :
    (loader canonical openAt).load (c, s) name path = getOrLoad canonical openAt c s name path :=
  rfl

/-- A call ends with the grammar it answers kept, or else it opened the library in vain. -/
theorem getOrLoad_keeps_or_fails (canonical : Path → Option Path) (openAt : Opener σ γ)
    (c : Cache γ) (s : σ) (name : String) (path : Path) :
    let reply := (loader canonical openAt).load (c, s) name path
    (∃ g, reply.result = .ok g ∧ reply.state.1.get? (keyOf canonical path) = some g) ∨
      ∃ f s', c.get? (keyOf canonical path) = none ∧
        openAt s (keyOf canonical path) name = (.error f, s') := by
  dsimp only
  rw [loader_load]
  cases hkept : c.get? (keyOf canonical path) with
  | some g =>
    rw [getOrLoad_of_kept hkept]
    exact .inl ⟨g, rfl, hkept⟩
  | none =>
    cases hopen : openAt s (keyOf canonical path) name with
    | mk answer s' =>
      cases answer with
      | ok g =>
        rw [getOrLoad_of_opened hkept hopen]
        refine .inl ⟨g, rfl, ?_⟩
        rw [get?_insert, if_pos (Setoid.refl _)]
      | error f => exact .inr ⟨f, s', rfl, rfl⟩

end Grammar.Cache

theorem Library.Linker.failsAgain_openGrammar (files : FileView) :
    Grammar.Cache.FailsAgain (openGrammar files) := by
  intro l l' library name f hopen
  obtain ⟨hanswer, rfl⟩ := Prod.mk.inj hopen
  cases hload : (l.load files library name).1 with
  | ok g =>
    rw [hload] at hanswer
    cases hanswer
  | error f' =>
    rw [hload] at hanswer
    simp only [openGrammar, load_load hload]
    exact hanswer

namespace Package

open Grammar (Cache)
open Grammar.Cache (Opener Opening FailsAgain Steady watched keyOf)
open Manifest (Declaration)

variable {σ τ γ : Type}

/-- Another run came to the same, and left the cache as the first had left it. -/
structure Repeats (first : Run (Cache γ × σ) (Registry γ))
    (second : Run (Cache γ × τ) (Registry γ)) : Prop where
  outcome_eq : second.outcome = first.outcome
  calls_eq : second.calls = first.calls
  cache_eq : second.state.1 = first.state.1

/-- The other run may have tried once more what the first could not open, and opened no other
library. -/
structure Retraces (again : Opener τ γ) (t : τ) (first : Run (Cache γ × σ) (Registry γ))
    (second : Run (Cache γ × τ) (Registry γ)) : Prop extends Repeats first second where
  reopened : second.state.2 = t ∨ ∃ key name f,
    first.outcome = .error (.grammar f) ∧ again t key name = (.error f, second.state.2)

section Again

variable {files : FileView} {openAt : Opener σ γ} {again : Opener τ γ} {t : τ}
variable {roots : List Path} {package : String} {d : Declaration} {ds : List Declaration}
variable {call : String × Path} {place : Nat} {r : Registry γ} {state : Cache γ × σ} {c : Cache γ}
variable {s s' : σ} {key : Path} {g : γ} {f : Grammar.Fault}
variable {first : Run (Cache γ × σ) (Registry γ)} {second : Run (Cache γ × τ) (Registry γ)}

theorem Retraces.after_reports (h : Retraces again t first second) (events events' : List Event) :
    Retraces again t (first.after (events.map .report)) (second.after (events'.map .report)) where
  outcome_eq := h.outcome_eq
  calls_eq := by
    rw [Run.after_reports_calls, Run.after_reports_calls]
    exact h.calls_eq
  cache_eq := h.cache_eq
  reopened := h.reopened

theorem Retraces.after_call (h : Retraces again t first second) (name : String) (library : Path)
    (reports reports' events : List Event) :
    Retraces again t (first.after (.call name library reports :: events.map .report))
      (second.after (.call name library reports' :: events.map .report)) where
  outcome_eq := h.outcome_eq
  calls_eq := by rw [Run.after_call_calls, Run.after_call_calls, h.calls_eq]
  cache_eq := h.cache_eq
  reopened := h.reopened

theorem get?_buildFrom_of_kept (ds : List Declaration) (place : Nat) (r : Registry γ)
    (h : state.1.get? key = some g) :
    (buildFrom files (Cache.loader files.canonical openAt) roots package ds place r
      state).state.1.get? key = some g := by
  rw [buildFrom_state]
  exact Cache.get?_stateAfter_of_kept h _

theorem buildFrom_cons_of_kept (hc : callFor files roots d = some call)
    (hkept : c.get? (keyOf files.canonical call.2) = some g) :
    buildFrom files (Cache.loader files.canonical openAt) roots package (d :: ds) place r (c, s) =
      let registered := register package d.scope (.ofHandle ⟨place, g⟩) d.fileTypes r
      (buildFrom files (Cache.loader files.canonical openAt) roots package ds (place + 1)
        registered.1 (c, s)).after
          (.call call.1 call.2 [.grammarReused call.1 (keyOf files.canonical call.2)] ::
            registered.2.map .report) := by
  have hload := Cache.loader_load files.canonical openAt c s call.1 call.2
  rw [Cache.getOrLoad_of_kept hkept] at hload
  rw [buildFrom_cons_of_grammar hc (congrArg Grammar.Reply.result hload), hload]

theorem buildFrom_cons_of_refused (hc : callFor files roots d = some call)
    (habsent : c.get? (keyOf files.canonical call.2) = none)
    (hopen : openAt s (keyOf files.canonical call.2) call.1 = (.error f, s')) :
    buildFrom files (Cache.loader files.canonical openAt) roots package (d :: ds) place r (c, s) =
      ⟨.error (.grammar f), [.call call.1 call.2 []], (c, s')⟩ := by
  have hload := Cache.loader_load files.canonical openAt c s call.1 call.2
  rw [Cache.getOrLoad_of_fault habsent hopen] at hload
  rw [buildFrom_cons_of_fault hc (congrArg Grammar.Reply.result hload), hload]

theorem buildFrom_retraces
    (hfirst : buildFrom files (Cache.loader files.canonical openAt) roots package ds place r state =
      first)
    (hagain : ∀ s key name f, openAt s key name = (.error f, first.state.2) →
      (again t key name).1 = .error f) :
    Retraces again t first (buildFrom files (Cache.loader files.canonical again) roots package ds
      place r (first.state.1, t)) := by
  induction ds generalizing place r state first with
  | nil =>
    subst hfirst
    exact ⟨⟨rfl, rfl, rfl⟩, .inl rfl⟩
  | cons d ds ih =>
    cases hc : callFor files roots d with
    | none =>
      rw [buildFrom_cons_of_unresolved hc] at hfirst ⊢
      subst hfirst
      exact ⟨⟨rfl, rfl, rfl⟩, .inl rfl⟩
    | some call =>
      obtain ⟨c, s⟩ := state
      rcases Cache.getOrLoad_keeps_or_fails files.canonical openAt c s call.1 call.2 with
        ⟨g, hg, hkept⟩ | ⟨f, s', habsent, hopen⟩
      · -- the grammar is still kept when the first run ends, and answers the second one
        rw [buildFrom_cons_of_grammar hc hg] at hfirst
        subst hfirst
        dsimp only [Run.after_state]
        rw [buildFrom_cons_of_kept hc (get?_buildFrom_of_kept ds (place + 1) _ hkept)]
        exact (ih rfl hagain).after_call call.1 call.2 _ _ _
      · rw [buildFrom_cons_of_refused hc habsent hopen] at hfirst
        subst hfirst
        have hfault := hagain s _ _ f hopen
        have hreopen : again t (keyOf files.canonical call.2) call.1 =
            (.error f, (again t (keyOf files.canonical call.2) call.1).2) := Prod.ext hfault rfl
        rw [buildFrom_cons_of_refused hc habsent hreopen]
        exact ⟨⟨rfl, rfl, rfl⟩, .inr ⟨_, _, f, rfl, hreopen⟩⟩

theorem load_retraces
    (hfirst : load files (Cache.loader files.canonical openAt) roots package state = first)
    (hagain : ∀ s key name f, openAt s key name = (.error f, first.state.2) →
      (again t key name).1 = .error f) :
    Retraces again t first
      (load files (Cache.loader files.canonical again) roots package (first.state.1, t)) := by
  subst hfirst
  rcases located_rejected_or_declares files roots package with
    hl | ⟨directory, defect, hl, hd⟩ | ⟨ds, h⟩
  · rw [load_of_absent hl, load_of_absent hl]
    refine ⟨⟨rfl, ?_, rfl⟩, .inl rfl⟩
    rw [Run.calls_of_reports, Run.calls_of_reports]
  · rw [load_of_located hl, load_of_located hl, build_of_rejected hd, build_of_rejected hd]
    refine ⟨⟨rfl, ?_, rfl⟩, .inl rfl⟩
    rw [Run.after_reports_calls, Run.after_reports_calls]
    rfl
  · rw [h.load_eq, h.load_eq]
    rw [h.load_eq] at hagain
    exact (buildFrom_retraces rfl hagain).after_reports _ _

end Again

/-- The libraries that a load from this state opens. -/
def openings (files : FileView) (openAt : Opener σ γ) (roots : List Path) (package : String)
    (state : Cache γ × σ) : List (Opening γ) :=
  (load files (Cache.loader files.canonical (watched openAt)) roots package
    (state.1, [], state.2)).state.2.1

/-- From whatever has been loaded so far, a second load in a row repeats the first. It opens no
library with success: only the one that could not be opened is tried once more. -/
def RepeatsOnReload (files : FileView) (openAt : Opener σ γ) (roots : List Path)
    (package : String) : Prop :=
  ∀ state : Cache γ × σ,
    let loader := Cache.loader files.canonical openAt
    let first := load files loader roots package state
    Repeats first (load files loader roots package first.state) ∧
      (openings files openAt roots package first.state = [] ∨
        ∃ o f, openings files openAt roots package first.state = [o] ∧ o.result = .error f ∧
          first.outcome = .error (.grammar f))

theorem repeatsOnReload_of_failsAgain {openAt : Opener σ γ} (h : FailsAgain openAt)
    (files : FileView) (roots : List Path) (package : String) :
    RepeatsOnReload files openAt roots package := by
  intro state loader first
  have hsecond : Retraces openAt first.state.2 first
      (load files loader roots package first.state) :=
    load_retraces rfl fun s key name f hopen ↦ h s _ key name f hopen
  have hwatched : Retraces (watched openAt) ([], first.state.2) first
      (load files (Cache.loader files.canonical (watched openAt)) roots package
        (first.state.1, [], first.state.2)) :=
    load_retraces rfl fun s key name f hopen ↦ h s _ key name f hopen
  refine ⟨hsecond.toRepeats, ?_⟩
  rcases hwatched.reopened with hnone | ⟨key, name, f, hfirst, hone⟩
  · exact .inl (congrArg Prod.fst hnone)
  · obtain ⟨hresult, hstate⟩ := Prod.mk.inj hone
    exact .inr ⟨⟨key, name, _⟩, f, (congrArg Prod.fst hstate).symm, hresult, hfirst⟩

theorem load_again_repeats (files : FileView) (roots : List Path) (package : String) :
    RepeatsOnReload files (Library.Linker.openGrammar files) roots package ∧
      ∀ {σ γ : Type} {openAt : Opener σ γ}, Steady openAt →
        RepeatsOnReload files openAt roots package :=
  ⟨repeatsOnReload_of_failsAgain (Library.Linker.failsAgain_openGrammar files) files roots package,
    fun h ↦ repeatsOnReload_of_failsAgain h.failsAgain files roots package⟩

def pairManifest : String :=
  "\x7b\"tree-sitter\":[[\"s\",[\"t\"],\"a\",[],[],\"\",null,null]," ++
    "[\"s\",[\"u\"],\"c\",[],[],\"\",null,null]]\x7d"

/-- Two libraries, of which only `a` has a grammar of its name. -/
def halfLoadable : FileView := .plain [
  (.ofString "/r/p", none), (.ofString "/r/p/package.json", some pairManifest),
  (.ofString "/r/a", some ""), (.ofString "/r/c", some "")]

def pairDeclarations : List Declaration :=
  [⟨"s", ["t"], "a", [], [], "", none, none⟩, ⟨"s", ["u"], "c", [], [], "", none, none⟩]

theorem declares_halfLoadable :
    Declares halfLoadable [.ofString "/r"] "p" pairDeclarations := by
  have hparse : (Manifest.parse pairManifest).toOption = some pairDeclarations := by
    decide +kernel
  exact ⟨.ofString "/r/p", by decide +kernel, Manifest.read_plain (by decide +kernel) hparse⟩

/-- The first load stops at the second library, with the first one's grammar kept. -/
theorem load_again_repeats_of_halfLoadable :
    let loader := Cache.loader halfLoadable.canonical Cache.twoGrammars
    let first := load halfLoadable loader [.ofString "/r"] "p" (∅, ())
    (Steady Cache.twoGrammars ∧ first.state.1.get? (.ofString "/r/a") = some "a" ∧
      ∃ f, first.outcome = .error (.grammar f)) ∧
    RepeatsOnReload halfLoadable Cache.twoGrammars [.ofString "/r"] "p" := by
  intro loader first
  have hkept : first.state.1.get? (.ofString "/r/a") = some "a" := by
    dsimp only [first]
    rw [declares_halfLoadable.load_eq, Run.after_state]
    decide +kernel
  have hfails : FailsAt halfLoadable loader [.ofString "/r"] (∅, ()) pairDeclarations 1
      (.unloadable "/r/c") := by
    refine failsAt_succ.2 ⟨("a", .ofString "/r/a"), "a", by decide +kernel, rfl, ?_⟩
    have hcall : callFor halfLoadable [.ofString "/r"]
        ⟨"s", ["u"], "c", [], [], "", none, none⟩ = some ("c", .ofString "/r/c") := by
      decide +kernel
    exact failsAt_zero.2 ((grammarAfter_nil_of_call hcall).trans rfl)
  have hfault := (load_grammar_iff _).2 ⟨_, _, declares_halfLoadable, hfails⟩
  exact ⟨⟨Cache.twoGrammars_steady, hkept, _, hfault⟩,
    (load_again_repeats halfLoadable [.ofString "/r"] "p").2 Cache.twoGrammars_steady⟩

end Package

end GrammarPackages
