import Harvest.Html.Page
import Harvest.Markup.Error
import Harvest.Regex.Template
import Harvest.Xml.Document

/-!
Cleaning: a fetched text becomes a document.

The text is patched by substitutions first. What is left is read as HTML, where nothing is
malformed, or as XML, strictly or leniently.
-/

namespace Harvest

open Harvest.Markup Harvest.Text

inductive CleanMode
  | html
  | xml
  /-- Strict XML. -/
  | strict
  /-- HTML from the text as it is, without substitutions. -/
  | verbatim
  deriving DecidableEq, Repr, Inhabited

namespace CleanMode

def ofCommand? : String → Option CleanMode
  | "clean" => some .html
  | "cleanxml" => some .xml
  | "noclean" => some .strict
  | "cleanoriginal" => some .verbatim
  | _ => none

def display : CleanMode → String
  | .html => "clean"
  | .xml => "cleanXML"
  | .strict => "noclean"
  | .verbatim => "cleanOriginal"

def key : CleanMode → String
  | .html => "html"
  | .xml => "xml"
  | .strict => "strict"
  | .verbatim => "original"

def isXml : CleanMode → Bool
  | .xml => true
  | .strict => true
  | _ => false

end CleanMode

structure Substitution where
  pattern : Regex.Expression
  replacement : String

namespace Substitution

def ofText? (pattern replacement : String) : Option Substitution :=
  (Regex.Expression.ofText? pattern).map (⟨·, replacement⟩)

def apply (s : Substitution) (text : String) : String := s.pattern.replaceAll text s.replacement

end Substitution

/-- The text with the substitutions made one after the other; the verbatim mode makes none. -/
def patch (mode : CleanMode) (substitutions : List Substitution) (text : String) : String :=
  match mode with
  | .verbatim => text
  | _ => substitutions.foldl (fun text s => s.apply text) text

/-- The document of a text; a blank text has none. -/
def clean (mode : CleanMode) (substitutions : List Substitution) (text : String) :
    Except Markup.Error Document :=
  if isBlankText text then .error .empty
  else
    let patched := patch mode substitutions text
    match mode with
    | .html => .ok (Html.parse patched)
    | .verbatim => .ok (Html.parse patched)
    | .xml => Xml.parse false patched
    | .strict => Xml.parse true patched

end Harvest
