import GrammarPackages.Grammar.Loader

namespace GrammarPackages.Grammar

/-- Grammars by the path of their library. -/
structure Cache (γ : Type) where
  entries : List (Path × γ)

namespace Cache

variable {σ γ : Type}

instance : EmptyCollection (Cache γ) := ⟨⟨[]⟩⟩

instance : Inhabited (Cache γ) := ⟨∅⟩

def get? (c : Cache γ) (key : Path) : Option γ :=
  (c.entries.find? (fun e ↦ e.1 ≈ key)).map Prod.snd

def insert (c : Cache γ) (key : Path) (g : γ) : Cache γ := ⟨(key, g) :: c.entries⟩

/-- The canonical path, or the path itself where there is none. -/
def keyOf (canonical : Path → Option Path) (path : Path) : Path := (canonical path).getD path

/-- A way to open the library at a path and take the grammar of a name from it. -/
abbrev Opener (σ γ : Type) := σ → Path → String → Except Fault γ × σ

/-- The grammar kept for the library, or else one that is opened, and kept if that
succeeds. -/
def getOrLoad (canonical : Path → Option Path) (openAt : Opener σ γ) (c : Cache γ) (state : σ)
    (name : String) (path : Path) : Reply (Cache γ × σ) γ :=
  let key := keyOf canonical path
  match c.get? key with
  | some g => ⟨.ok g, [.grammarReused name key], (c, state)⟩
  | none =>
    match openAt state key name with
    | (.ok g, state) => ⟨.ok g, [.grammarLoaded name key], (c.insert key g, state)⟩
    | (.error f, state) => ⟨.error f, [], (c, state)⟩

def loader (canonical : Path → Option Path) (openAt : Opener σ γ) : Loader (Cache γ × σ) γ where
  load state name path := getOrLoad canonical openAt state.1 state.2 name path

end Cache

end GrammarPackages.Grammar
