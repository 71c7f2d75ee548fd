namespace GrammarPackages.Json

inductive Value
  | null
  | bool (b : Bool)
  | integer (i : Int)
  | float (x : Float)
  | string (s : String)
  | array (items : List Value)
  | object (members : List (String × Value))
deriving Inhabited

/-- The value of a member. Of a repeated key the last one counts. -/
def member? (members : List (String × Value)) (key : String) : Option Value :=
  members.reverse.lookup key

end GrammarPackages.Json
