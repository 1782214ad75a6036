import MnemonicCode.File.Access
import MnemonicCode.Text.Utf8
import MnemonicCode.Text.Words

/-!
# A tree of files

A file system that is given by a listing of files and directories under the
working directory. Directories on the way to a listed path are listed with it
(`Tree.passed`). Outside the working directory there are directories only, of which
no names are known.

A path is followed name by name from the working directory, or from the outside
if it begins with a slash. Empty names and `.` stay, `..` leads back, and
nothing follows a file.
-/

set_option autoImplicit false

namespace MnemonicCode.File

/-- What a listing has at a path. -/
inductive Node where
  | file (content : Octets)
  | directory

/-- A listing: names from the working directory on, and what is there. -/
abbrev Tree := List (List String × Node)

/-- Where the walk along a path has come to: the directory with these names from the working
directory on, a directory that is not under it, or a file. -/
inductive Place where
  | directory (names : List String)
  | outside
  | file (content : Octets)

/-- The longest name that the system takes, in octets. -/
def nameLimit : Nat := 255

/-- The longest path that the system takes, in octets. -/
def pathLimit : Nat := 4095

/-- The names in a path. -/
def namesOf (path : String) : List String :=
  (Text.pieces (· == '/') path.toList).map String.ofList

namespace Tree

/-- The names of a listed path, without those that stay and with those that lead
back carried out. -/
def normalized (names : List String) : List String :=
  names.foldl
    (fun before name =>
      if name = "" ∨ name = "." then before
      else if name = ".." then before.dropLast
      else before ++ [name])
    []

/-- The directories that the names lead through. All of them are there once the
path is listed, those that the path leaves again by `..` included. -/
def passed (names : List String) : List (List String) :=
  (List.range names.length).map fun count => normalized (names.take count)

/-- Adds a path and the directories on the way to a listing. -/
def insert (tree : Tree) (path : String) (node : Node) : Tree :=
  let names := namesOf path
  (normalized names, node) :: (passed names).map (·, Node.directory) ++ tree

/-- Whether the names are those of a listed directory or lead to a listed path. -/
def isDirectory (tree : Tree) (names : List String) : Bool :=
  tree.any fun entry =>
    names.isPrefixOf entry.1 &&
      (names.length < entry.1.length || (match entry.2 with
        | .directory => true
        | .file _ => false))

/-- The content of the file with the names, the one listed last if there are
several. -/
def content? (tree : Tree) (names : List String) : Option Octets :=
  tree.findSome? fun entry =>
    match entry.2 with
    | .file content => if entry.1 = names then some content else none
    | .directory => none

/-- The place after one more name. -/
def step (tree : Tree) (place : Place) (name : String) : Except Fault Place :=
  match place with
  | .file _ => .error .notDirectory
  | .outside =>
    if name = "" ∨ name = "." ∨ name = ".." then .ok .outside
    else if nameLimit < name.utf8ByteSize then .error .nameTooLong
    else .error .notFound
  | .directory names =>
    if name = "" ∨ name = "." then .ok place
    else if name = ".." then
      if names.isEmpty then .ok .outside else .ok (.directory names.dropLast)
    else if nameLimit < name.utf8ByteSize then .error .nameTooLong
    else
      let next := names ++ [name]
      match tree.content? next with
      | some content => .ok (.file content)
      | none =>
        if tree.isDirectory next then .ok (.directory next) else .error .notFound

/-- The place that a path leads to. -/
def walk (tree : Tree) (path : String) : Except Fault Place :=
  if path.toList.contains '\x00' then .error .nulInPath
  else if path.isEmpty then .error .notFound
  else if pathLimit < path.utf8ByteSize then .error .nameTooLong
  else
    let start : Place :=
      if path.toList.head? == some '/' then .outside else .directory []
    (namesOf path).foldlM tree.step start

/-- Whether a path leads to something. -/
def isPresent (tree : Tree) (path : String) : Bool := (tree.walk path).isOk

/-- The content of the file that a path leads to. -/
def read (tree : Tree) (path : String) : Except Fault Octets :=
  match tree.walk path with
  | .error fault => .error fault
  | .ok (.file content) => .ok content
  | .ok _ => .error .isDirectory

/-- Access to the files of the tree. -/
def access (tree : Tree) : Access Id where
  isPresent := tree.isPresent
  read := tree.read

end Tree

end MnemonicCode.File
