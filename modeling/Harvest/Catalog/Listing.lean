import Harvest.Text.Blank

/-!
Listing pages, on which a source shows the records that it has found.
-/

namespace Harvest.Catalog

open Harvest.Text

structure ListingRow where
  title : String
  authors : String
  year : String
  token : Option String
  deriving DecidableEq, Repr

def cell (role content : String) : String :=
  "<td class=\"" ++ role ++ "\">" ++ content ++ "</td>"

def ListingRow.html (r : ListingRow) : String :=
  let link := match r.token with
    | some token => "<a class=\"detail\" href=\"details?id=" ++ token ++ "\">more</a>"
    | none => ""
  "<tr>" ++ cell "title" r.title ++ cell "authors" r.authors ++ cell "year" r.year ++
    "<td>" ++ link ++ "</td></tr>"

def listingPage (rows : List ListingRow) (next : Option String) : String :=
  let link := match next with
    | some address => "<a class=\"next\" href=\"" ++ address ++ "\">next</a>"
    | none => ""
  "<html><body><table class=\"hits\">" ++ join "" (rows.map (·.html)) ++ "</table>" ++ link ++
    "</body></html>"

end Harvest.Catalog
