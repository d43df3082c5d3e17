/-!
Why a page could not be fetched.
-/

namespace Harvest.Fetch

inductive Error
  | invalidAddress (address reason : String)
  | status (code : Nat) (address : String)
  | transport (address reason : String)
  | client (reason : String)
  | decoding (address reason : String)
  deriving DecidableEq, Repr

def Error.message : Error → String
  | .invalidAddress address reason => "Invalid URL '" ++ address ++ "': " ++ reason
  | .status code address => "HTTP " ++ toString code ++ " from " ++ address
  | .transport address reason => "Transport error for " ++ address ++ ": " ++ reason
  | .client reason => "Invalid fetch configuration: " ++ reason
  | .decoding address reason => "Failed to decode body from " ++ address ++ ": " ++ reason

end Harvest.Fetch
