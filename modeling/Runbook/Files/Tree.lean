import Runbook.Files.Basic

/-! A directory tree of texts that paths are looked up in, as an operating system does.

The tree stands for the directory that the program runs in; outside of it there is next to nothing.
-/

set_option autoImplicit false

namespace Runbook.Files

/-- The texts, each with the names on the way to it. -/
structure Tree where
  files : List (List String × String) := []
  deriving DecidableEq, Repr

namespace Tree

def splitSlash : List Char → List (List Char)
  | [] => [[]]
  | c :: rest =>
    match splitSlash rest with
    | [] => []
    | first :: others => if c = '/' then [] :: first :: others else (c :: first) :: others

def parts (path : String) : List String :=
  (splitSlash path.toList).map String.ofList

def ofList (files : List (String × String)) : Tree :=
  ⟨files.map fun (path, text) =>
    ((parts path).filter fun part => !part.isEmpty && part != ".", text)⟩

def file? (tree : Tree) (place : List String) : Option String :=
  tree.files.lookup place

def hasDirectory (tree : Tree) (place : List String) : Bool :=
  tree.files.any fun entry => place.isPrefixOf entry.1 && place.length < entry.1.length

def staysPut (part : String) : Bool :=
  part.isEmpty || part == "."

def walk (tree : Tree) (place : List String) : List String → Except Fault String
  | [] => .error .isADirectory
  | part :: rest =>
    if staysPut part then tree.walk place rest
    else if part == ".." then
      if place.isEmpty then .error (if rest.all staysPut then .isADirectory else .missing)
      else tree.walk place.dropLast rest
    else if 255 < part.utf8ByteSize then .error .nameTooLong
    else
      match tree.file? (place ++ [part]) with
      | some text => if rest.isEmpty then .ok text else .error .notADirectory
      | none =>
        if tree.hasDirectory (place ++ [part]) then tree.walk (place ++ [part]) rest
        else .error .missing

def rootDirectories : List String :=
  ["bin", "dev", "etc", "home", "lib", "opt", "proc", "root", "run", "sbin", "sys", "tmp", "usr", "var"]

/-- What every system has outside of the tree: some directories, and the device that is always empty. -/
def readOutside (names : List String) : Except Fault String :=
  match names with
  | [] => .error .isADirectory
  | [name] => .error (if rootDirectories.contains name then .isADirectory else .missing)
  | ["dev", "null"] => .ok ""
  | _ => .error .missing

def read (tree : Tree) : Reader := fun path =>
  if path.toList.contains '\x00' then .error .nulCharacter
  else if path.isEmpty then .error .missing
  else if 4095 < path.utf8ByteSize then .error .nameTooLong
  else if path.startsWith "/" then readOutside ((parts path).filter fun part => !staysPut part)
  else tree.walk [] (parts path)

end Tree

end Runbook.Files
