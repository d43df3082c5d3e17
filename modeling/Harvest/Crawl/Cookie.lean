import Harvest.Text.Blank

/-!
The cookies of a crawler, one for each name.
-/

namespace Harvest.Crawl

open Harvest.Text

/-- The name of a cookie: what stands before its first semicolon and equals sign. -/
def cookieName (cookie : String) : String :=
  trim (String.ofList (cookie.toList.takeWhile fun c => c != ';' && c != '='))

/-- Keeps a cookie, in place of the one with its name if there is one. -/
def keepCookie (kept : List String) (cookie : String) : List String :=
  match kept with
  | [] => [cookie]
  | k :: ks => if cookieName k = cookieName cookie then cookie :: ks else k :: keepCookie ks cookie

def keepCookies (kept cookies : List String) : List String := cookies.foldl keepCookie kept

end Harvest.Crawl
