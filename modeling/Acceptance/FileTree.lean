/-!
# File trees

Directories and files, and what reading a path among them gives.

* `FileTree` is a file or a directory, `FileTree.walk` follows the parts of a path.
* `WorkingTree` is a tree with a working directory in it; `WorkingTree.read` reads a path, from the
  working directory or from the root.
* `FileError.message` is the text of a failure, with its number.
-/

namespace Acceptance

/-- The reasons for which a path cannot be read. A bad name holds the character that ends paths. -/
inductive FileError where
  | notFound
  | notDirectory
  | isDirectory
  | nameTooLong
  | badName
deriving DecidableEq, Repr

/-- The text of a failure. -/
def FileError.message : FileError → String
  | .notFound => "No such file or directory (os error 2)"
  | .notDirectory => "Not a directory (os error 20)"
  | .isDirectory => "Is a directory (os error 21)"
  | .nameTooLong => "File name too long (os error 36)"
  | .badName => "file name contained an unexpected NUL byte"

/-- A file or a directory. -/
inductive FileTree where
  | file (content : ByteArray)
  | directory (entries : List (String × FileTree))

namespace FileTree

/-- The most bytes that a path may have. -/
def pathLimit : Nat := 4095

/-- The most bytes that a part of a path may have. -/
def nameLimit : Nat := 255

/-- Follows the parts of a path from a place, which is given with the directories around it, the
innermost first. An empty part or a dot stays there, and two dots lead to the directory around it.
-/
def walk (place : FileTree) (around : List FileTree) : List String → Except FileError FileTree
  | [] => .ok place
  | part :: rest =>
    match place with
    | .file _ => .error .notDirectory
    | .directory entries =>
      if part = "" ∨ part = "." then walk place around rest
      else if part = ".." then walk (around.headD place) around.tail rest
      else if nameLimit < part.utf8ByteSize then .error .nameTooLong
      else
        match entries.lookup part with
        | some next => walk next (place :: around) rest
        | none => .error .notFound

/-- The entry for a file at a path, with the directories on the way to it. -/
def entryOf (content : ByteArray) (name : String) : List String → String × FileTree
  | [] => (name, .file content)
  | part :: rest => (name, .directory [entryOf content part rest])

end FileTree

/-- A tree with a working directory and the directories around it, the innermost first. -/
structure WorkingTree where
  root : FileTree
  around : List FileTree
  here : FileTree

namespace WorkingTree

/-- A system with the directories and files that are always there, and a working directory with some
entries. -/
def withEntries (entries : List (String × FileTree)) : WorkingTree :=
  let empty := FileTree.file .empty
  let here := FileTree.directory entries
  let temporary := FileTree.directory [("work", here)]
  let root := FileTree.directory
    [("tmp", temporary), ("dev", .directory [("null", empty)]), ("home", .directory []),
      ("etc", .directory [("passwd", empty), ("group", empty), ("hosts", empty)])]
  ⟨root, [temporary, root], here⟩

/-- A working directory without files. -/
def empty : WorkingTree := withEntries []

/-- A working directory with one file. Empty parts of the path and dots in it lead nowhere else. -/
def withFile (path : String) (content : ByteArray) : WorkingTree :=
  match (path.splitOn "/").filter fun part => part != "" && part != "." with
  | [] => empty
  | name :: rest => withEntries [FileTree.entryOf content name rest]

/-- Reads the file at a path. -/
def read (t : WorkingTree) (path : String) : Except FileError ByteArray :=
  if path.contains '\x00' then .error .badName
  else if path = "" then .error .notFound
  else if FileTree.pathLimit < path.utf8ByteSize then .error .nameTooLong
  else
    let parts := path.splitOn "/"
    let found := if path.startsWith "/" then t.root.walk [] parts else t.here.walk t.around parts
    match found with
    | .ok (.file content) => .ok content
    | .ok (.directory _) => .error .isDirectory
    | .error e => .error e

end WorkingTree

end Acceptance
