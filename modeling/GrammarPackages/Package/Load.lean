import GrammarPackages.Package.Locate
import GrammarPackages.Manifest.Decode
import GrammarPackages.Grammar.Loader
import GrammarPackages.Registry

namespace GrammarPackages.Package

/-- Why a package could not be loaded. -/
inductive Fault
  | notFound (package : String)
  | invalid (package : String) (defect : Manifest.Defect)
  | grammar (fault : Grammar.Fault)

namespace Fault

def message : Fault → String
  | notFound package => "could not find package: " ++ package
  | invalid package _ => "package " ++ package ++ " is not a valid language package"
  | grammar f => f.message

/-- The messages of what lies behind the fault, nearest first. -/
def causes : Fault → List String
  | notFound _ => []
  | invalid _ defect => defect.messages
  | grammar f => f.messages.tail

end Fault

/-- What happens in a run: reports, and calls of the loader with its own reports. -/
inductive Step
  | report (e : Event)
  | call (name : String) (library : Path) (reports : List Event)

/-- The outcome of a run, what happened in it, and the state it leaves the loader in. -/
structure Run (σ α : Type) where
  outcome : Except Fault α
  steps : List Step
  state : σ

namespace Run

variable {σ α : Type}

def after (steps : List Step) (r : Run σ α) : Run σ α := {r with steps := steps ++ r.steps}

/-- The calls of the loader, in order. -/
def calls (r : Run σ α) : List (String × Path) :=
  r.steps.filterMap (fun
    | .call name library _ => some (name, library)
    | .report _ => none)

/-- The reports of the run itself, without those of the loader. -/
def reports (r : Run σ α) : List Event :=
  r.steps.filterMap (fun
    | .report e => some e
    | .call .. => none)

/-- All reports in order. -/
def events (r : Run σ α) : List Event :=
  r.steps.flatMap (fun
    | .report e => [e]
    | .call _ _ reports => reports)

end Run

variable {σ γ : Type}

/-- Registers a language for each of the file types. -/
def register (package scope : String) (l : Language γ) :
    List String → Registry γ → Registry γ × List Event
  | [], r => (r, [])
  | t :: rest, r =>
    let later := register package scope l rest (r.insert t l)
    (later.1, .grammarRegistered package t scope (t ∈ r) :: later.2)

/-- Resolves, loads and registers the declared grammars in turn, up to the first one that
fails; `place` declarations came before. -/
def buildFrom (files : FileView) (loader : Grammar.Loader σ γ) (roots : List Path)
    (package : String) : List Manifest.Declaration → Nat → Registry γ → σ → Run σ (Registry γ)
  | [], _, r, state => ⟨.ok r, [.report (.registryBuilt package r.size)], state⟩
  | d :: rest, place, r, state =>
    match Grammar.resolve files roots d.path with
    | .error f => ⟨.error (.grammar f), [], state⟩
    | .ok library =>
      let name := Grammar.nameOf library
      let reply := loader.load state name library
      let call := Step.call name library reply.events
      match reply.result with
      | .error f => ⟨.error (.grammar f), [call], reply.state⟩
      | .ok g =>
        let registered := register package d.scope (.ofHandle ⟨place, g⟩) d.fileTypes r
        (buildFrom files loader roots package rest (place + 1) registered.1 reply.state).after
          (call :: registered.2.map .report)

/-- Reports a manifest that is refused. -/
def rejection {α : Type} (package : String) : Except Manifest.Defect α → List Event
  | .ok _ => []
  | .error defect => [.manifestRejected package defect.message]

/-- The registry of the package in this directory. -/
def build (files : FileView) (loader : Grammar.Loader σ γ) (roots : List Path)
    (directory : Path) (package : String) (state : σ) : Run σ (Registry γ) :=
  let manifest := Manifest.read files directory
  match manifest with
  | .error defect =>
    ⟨.error (.invalid package defect), (rejection package manifest).map .report, state⟩
  | .ok declarations => buildFrom files loader roots package declarations 0 ∅ state

/-- Finds the package below the roots and builds its registry. -/
def load (files : FileView) (loader : Grammar.Loader σ γ) (roots : List Path)
    (package : String) (state : σ) : Run σ (Registry γ) :=
  let located := locate files roots package
  let reports := located.2.map Step.report
  match located.1 with
  | none => ⟨.error (.notFound package), reports, state⟩
  | some directory => (build files loader roots directory package state).after reports

end GrammarPackages.Package
