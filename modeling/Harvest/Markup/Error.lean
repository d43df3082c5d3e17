import Harvest.Xml.Error

/-!
Why a text yields no document.
-/

namespace Harvest.Markup

inductive Error
  | empty
  | malformed (problem : Xml.Problem)
  | unclosed (name : String)
  deriving DecidableEq, Repr

def Error.message : Error → String
  | .empty => "Empty markup input"
  | .malformed problem => "Malformed XML " ++ problem.message
  | .unclosed name => "Unclosed element <" ++ name ++ "> at end of input"

end Harvest.Markup
