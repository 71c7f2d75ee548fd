import Mathlib.Data.List.Forall2
import GrammarPackages.Proofs.LibraryCandidates
import GrammarPackages.Proofs.PlainView

namespace GrammarPackages.Grammar

open FileTree

variable {files : FileView} {roots : List Path} {path : String} {library p : Path}
variable {l g : List Path}

end GrammarPackages.Grammar
