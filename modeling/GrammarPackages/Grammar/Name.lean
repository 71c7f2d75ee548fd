import GrammarPackages.Path.Basic

namespace GrammarPackages.Grammar

/-- What follows `lead`, or all of `s` when it begins otherwise. -/
def dropLead (lead s : List Char) : List Char := (lead.isPrefixOf? s).getD s

/-- Drops one leading `tree-sitter-` or `tree_sitter_`. -/
def dropFamily (s : List Char) : List Char :=
  match "tree-sitter-".toList.isPrefixOf? s with
  | some rest => rest
  | none => dropLead "tree_sitter_".toList s

/-- The name of the grammar in a library file, such as `javascript` for
`libtree-sitter-javascript.so`. -/
def nameOf (library : Path) : String :=
  .ofList (dropFamily (dropLead "lib".toList (library.fileStem?.getD [])))

def underscored (s : List Char) : List Char := s.map (fun c ↦ if c = '-' then '_' else c)

def extension : List Char := ".so".toList

/-- The file name of the library for a grammar. -/
def libraryName (name : List Char) : List Char :=
  "lib".toList ++ underscored name ++ extension

end GrammarPackages.Grammar
