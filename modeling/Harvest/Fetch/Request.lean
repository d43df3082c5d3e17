import Harvest.Text.Blank

/-!
Requests for pages, and responses.
-/

namespace Harvest.Fetch

open Harvest.Text

inductive Method
  | get
  | post
  deriving DecidableEq, Repr

namespace Method

/-- The method of a name in any mixture of cases. -/
def ofName? (name : String) : Option Method :=
  match lowerAscii name with
  | "get" => some .get
  | "post" => some .post
  | _ => none

def name : Method → String
  | .get => "GET"
  | .post => "POST"

end Method

/-- A request for a page. Cookies are given as servers set them, with their attributes; the encoding
is the one to assume for the page. -/
structure Request where
  method : Method
  address : String
  query : List (String × String)
  form : List (String × String)
  cookies : List String
  encoding : Option String
  deriving DecidableEq, Repr

namespace Request

/-- The names and values of the cookies in one line, none if there are none. -/
def cookieHeader? (r : Request) : Option String :=
  let crumbs := r.cookies.map fun raw => trim (String.ofList (raw.toList.takeWhile (· != ';')))
  match crumbs.filter (!·.isEmpty) with
  | [] => none
  | crumbs => some (join "; " crumbs)

/-- The request in lines: method and address, then the parameters, then the form. -/
def describe (r : Request) : String :=
  let lines := (r.method.name ++ " " ++ r.address) ::
    (r.query.map (fun (name, value) => "param " ++ name ++ "=" ++ value) ++
      r.form.map (fun (name, value) => "form " ++ name ++ "=" ++ value))
  join "" (lines.map (· ++ "\n"))

end Request

def isSuccess (status : Nat) : Bool := 200 ≤ status && status < 300

/-- A response with the address that it finally came from and the cookies that it sets. -/
structure Response where
  status : Nat
  address : String
  body : String
  cookies : List String
  deriving DecidableEq, Repr

end Harvest.Fetch
