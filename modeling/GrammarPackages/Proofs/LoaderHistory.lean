import GrammarPackages.Grammar.Loader

namespace GrammarPackages.Grammar.Loader

variable {σ γ : Type} (loader : Loader σ γ)

/-- The state that these calls, one after another, leave the loader in. -/
def stateAfter (state : σ) (calls : List (String × Path)) : σ :=
  calls.foldl (fun s c ↦ (loader.load s c.1 c.2).state) state

/-- The answer to a call that follows these. -/
def answerAfter (state : σ) (calls : List (String × Path)) (call : String × Path) :
    Except Fault γ :=
  (loader.load (loader.stateAfter state calls) call.1 call.2).result

@[simp]
theorem stateAfter_nil (state : σ) : loader.stateAfter state [] = state := rfl

@[simp]
theorem stateAfter_cons (state : σ) (c : String × Path) (calls : List (String × Path)) :
    loader.stateAfter state (c :: calls) =
      loader.stateAfter (loader.load state c.1 c.2).state calls := rfl

@[simp]
theorem answerAfter_nil (state : σ) (call : String × Path) :
    loader.answerAfter state [] call = (loader.load state call.1 call.2).result := rfl

@[simp]
theorem answerAfter_cons (state : σ) (c call : String × Path) (calls : List (String × Path)) :
    loader.answerAfter state (c :: calls) call =
      loader.answerAfter (loader.load state c.1 c.2).state calls call := rfl

end GrammarPackages.Grammar.Loader
