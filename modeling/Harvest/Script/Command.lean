import Harvest.Cleaning
import Harvest.Fetch.Request
import Harvest.Rule.Tree

/-!
Scripts: rows of commands that fetch a page, turn it into a document and extract values from it.
-/

namespace Harvest.Script

open Harvest.Text

/-- A parameter of a request; its value is a text or a reference to a property. -/
structure Param where
  name : String
  value : String
  deriving DecidableEq, Repr

/-- A command that fetches a page. It counts on the pages from the first to the last one; without
an address the value at hand is the address. -/
structure FetchCommand where
  firstPage : Nat
  lastPage : Option Nat
  method : Fetch.Method
  address : Option String
  encoding : Option String
  params : List Param
  forms : List Param
  deriving DecidableEq, Repr

def FetchCommand.runsOn (c : FetchCommand) (page : Nat) : Bool :=
  c.firstPage ≤ page && c.lastPage.all (page ≤ ·)

inductive Command
  /-- Takes a property. -/
  | document (name : String)
  /-- Takes the text of a file. -/
  | load (file : String)
  | useCookies
  | fetch (command : FetchCommand)
  /-- Turns a text into a document. -/
  | clean (mode : CleanMode) (substitutions : List Substitution)
  /-- Puts the markup of a document on record. -/
  | structured
  /-- Extracts a value by rules. -/
  | parse (rules : List Rule)
  /-- Puts the value at hand on record. -/
  | save

namespace Command

def name : Command → String
  | .document _ => "document"
  | .load _ => "load"
  | .useCookies => "usecookies"
  | .fetch _ => "fetch"
  | .clean mode _ => mode.display
  | .structured => "structured"
  | .parse _ => "parse"
  | .save => "save"

/-- Whether the command puts a new value in the place of the one at hand. -/
def producesValue : Command → Bool
  | .useCookies => false
  | .structured => false
  | .save => false
  | _ => true

end Command

end Script

structure Script where
  commands : List Script.Command

end Harvest
