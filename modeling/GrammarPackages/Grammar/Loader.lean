import GrammarPackages.Grammar.Resolve
import GrammarPackages.Event

namespace GrammarPackages.Grammar

/-- What a loader answers, and the state it is left in. -/
structure Reply (σ γ : Type) where
  result : Except Fault γ
  events : List Event
  state : σ

/-- A way to get the grammar of a name from a library. It may keep a state. -/
structure Loader (σ γ : Type) where
  load : σ → String → Path → Reply σ γ

end GrammarPackages.Grammar
