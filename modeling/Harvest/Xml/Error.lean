import Harvest.Xml.Event

/-!
Why a text is not the XML that was asked for.
-/

namespace Harvest.Xml

inductive Problem
  | broken (failure : Failure)
  | attribute (fault : AttributeFault)
  | reference (fault : ReferenceFault)
  | strayEnd (name : String)
  deriving DecidableEq, Repr

def Problem.message : Problem → String
  | .broken failure => failure.message
  | .attribute fault => fault.message
  | .reference fault => fault.message
  | .strayEnd name => "stray end tag </" ++ name ++ ">"

end Harvest.Xml
