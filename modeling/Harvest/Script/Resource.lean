import Harvest.Text.Blank
import Harvest.Url.Percent

/-!
Files that scripts load: where they lie and what reading them yields.
-/

namespace Harvest.Script

open Harvest.Text

inductive FileProblem
  | missing
  | folder
  | notFolder
  | nameTooLong
  | zeroByte
  | notText
  deriving DecidableEq, Repr

def FileProblem.message : FileProblem → String
  | .missing => "No such file or directory (os error 2)"
  | .folder => "Is a directory (os error 21)"
  | .notFolder => "Not a directory (os error 20)"
  | .nameTooLong => "File name too long (os error 36)"
  | .zeroByte => "file name contained an unexpected NUL byte"
  | .notText => "stream did not contain valid UTF-8"

/-- The path of a file in a folder; an absolute path stands for itself. -/
def pathIn (folder : Option String) (file : String) : String :=
  match folder with
  | none => file
  | some folder =>
    if file.toList.head? == some '/' then file
    else if folder.isEmpty || folder.toList.getLast? == some '/' then folder ++ file
    else folder ++ "/" ++ file

/-- The parts of a path between its slashes, the empty ones included. -/
def pathParts (cs : List Char) : List (List Char) :=
  cs.foldr (fun c parts =>
    match c, parts with
    | '/', parts => [] :: parts
    | c, part :: rest => (c :: part) :: rest
    | c, [] => [[c]]) [[]]

/-- A folder with the files in it and below it: the parts of each file's path, and its bytes. -/
structure FileStore where
  root : String
  files : List (List (List Char) × List Nat)

namespace FileStore

def ofList (root : String) (named : List (String × List Nat)) : FileStore :=
  ⟨root, named.map fun (name, bytes) => (pathParts name.toList, bytes)⟩

def empty : FileStore := ⟨"", []⟩

variable (s : FileStore)

def content? (path : List (List Char)) : Option (List Nat) := s.files.lookup path

/-- Whether a path leads to a folder: the root or what lies on the way to a file. -/
def isFolder (path : List (List Char)) : Bool :=
  path.isEmpty || s.files.any fun f => path.isPrefixOf f.1 && path.length < f.1.length

/-- Follows the parts of a path from a place in the store. Above the root nothing is found. -/
def follow (place : List (List Char)) (parts : List (List Char)) : Except FileProblem (List Nat) :=
  match parts with
  | [] =>
    match s.content? place with
    | some bytes => .ok bytes
    | none => .error .folder
  | part :: rest =>
    if !s.isFolder place then .error .notFolder
    else if part.isEmpty || part == ['.'] then follow place rest
    else if part == ['.', '.'] then
      if place.isEmpty then .error (if rest.isEmpty then .folder else .missing)
      else follow place.dropLast rest
    else if 255 < byteSize part then .error .nameTooLong
    else
      let next := place ++ [part]
      if (s.content? next).isSome || s.isFolder next then follow next rest else .error .missing

def bytesAt (path : String) : Except FileProblem (List Nat) :=
  let cs := path.toList
  if cs.contains '\x00' then .error .zeroByte
  else if 4096 ≤ byteSize cs then .error .nameTooLong
  else if cs.isEmpty then .error .missing
  else if !s.root.isEmpty && (s.root.toList ++ ['/']).isPrefixOf cs then
    s.follow [] (pathParts (cs.drop (s.root.length + 1)))
  else if cs.all (· == '/') then .error .folder
  else .error .missing

def read (path : String) : Except FileProblem String := do
  let bytes ← s.bytesAt path
  match Url.textOfBytes? bytes with
  | some text => return String.ofList text
  | none => throw .notText

end FileStore

end Harvest.Script
