import GrammarPackages.Grammar.Loader

namespace GrammarPackages.Grammar

/-- Stands in for a grammar that is not compiled. -/
structure StandIn where
  name : String
  body : Option String

namespace StandIn

/-- Takes any library that is there, unread. -/
def unread : Loader Unit StandIn where
  load _ name _ := ⟨.ok ⟨name, none⟩, [], ()⟩

/-- What follows `lead` in `s`. -/
def after? (lead s : String) : Option String := (lead.toList.isPrefixOf? s.toList).map .ofList

/-- The text of the library is the grammar. A text may also say that the grammar is
`broken`, or that another one is `absent`. -/
def ofText (name : String) (path : Path) (text : String) : Except Fault StandIn :=
  if (after? "broken" text).isSome then .error (.unloadable (path.toString ++ ": bad grammar"))
  else match after? "absent " text with
    | some missing => .error (.notFound missing)
    | none => .ok ⟨name, some text⟩

def textual (files : FileView) : Loader Unit StandIn where
  load _ name path :=
    ⟨((files.text path).mapError .unreadable).bind (ofText name path), [], ()⟩

end StandIn

end GrammarPackages.Grammar
