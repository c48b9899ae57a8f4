import Anem.Text.Basic

/-!
A tree of text files under a working directory, with the reasons for which a
file cannot be read or written. Directories are those that hold a file, and the
working directory itself. What lies outside of it is unknown: nothing can be
read there, and what is written there is not seen.
-/
namespace Anem

inductive Denial where
  | noSuchFile
  | notDirectory
  | isDirectory
  | nameTooLong
  /-- Any other reason, in the words of the system. -/
  | other (reason : Text)
deriving DecidableEq, Repr

def Denial.message : Denial → Text
  | noSuchFile => "No such file or directory (os error 2)".toList
  | notDirectory => "Not a directory (os error 20)".toList
  | isDirectory => "Is a directory (os error 21)".toList
  | nameTooLong => "File name too long (os error 36)".toList
  | other reason => reason

/-- Files by the components of their paths. -/
structure FileTree where
  files : List (List Text × Text)
deriving DecidableEq, Repr

namespace FileTree

/-- The bytes that a text takes in a path. -/
def byteSize (t : Text) : Nat :=
  t.foldr (fun c n => c.utf8Size + n) 0

/-- A directory of the tree, by its components, or one outside of it. -/
inductive Directory where
  | inside (components : List Text)
  | outside
deriving DecidableEq, Repr

def contents? (tree : FileTree) (file : List Text) : Option Text :=
  (tree.files.find? fun f => f.1 = file).map (·.2)

def isDirectory (tree : FileTree) (components : List Text) : Bool :=
  components.isEmpty || tree.files.any fun f =>
    components.isPrefixOf f.1 && components.length < f.1.length

/-- Goes from a directory to one named in it. -/
def enter (tree : FileTree) (d : Directory) (name : Text) : Except Denial Directory :=
  if name = ['.'] then .ok d
  else if name = ['.', '.'] then
    match d with
    | .inside (c :: cs) => .ok (.inside (c :: cs).dropLast)
    | _ => .ok .outside
  else if 255 < byteSize name then .error .nameTooLong
  else match d with
    | .inside cs =>
      if (tree.contents? (cs ++ [name])).isSome then .error .notDirectory
      else if tree.isDirectory (cs ++ [name]) then .ok (.inside (cs ++ [name]))
      else .error .noSuchFile
    | .outside => .error .noSuchFile

/-- Where a path leads. -/
inductive Location where
  | directory
  /-- A file that exists or can be created in an existing directory. -/
  | file (directory : Directory) (name : Text)
deriving DecidableEq, Repr

def locate (tree : FileTree) (path : Text) : Except Denial Location :=
  if path.isEmpty then .error .noSuchFile
  else if 4096 ≤ byteSize path then .error .nameTooLong
  else
    let start := if path.head? = some '/' then Directory.outside else .inside []
    let pieces := Text.splitAt '/' path
    let name := pieces.getLast?.getD []
    let steps := pieces.filter (! ·.isEmpty)
    if name = [] ∨ name = ['.'] ∨ name = ['.', '.'] then do
      let _ ← steps.foldlM tree.enter start
      return .directory
    else do
      let directory ← steps.dropLast.foldlM tree.enter start
      if 255 < byteSize name then throw .nameTooLong
      match directory with
      | .inside cs =>
        if tree.isDirectory (cs ++ [name]) then return .directory
        else return .file directory name
      | .outside => return .file directory name

def read (tree : FileTree) (path : Text) : Except Denial Text := do
  match ← tree.locate path with
  | .directory => throw .isDirectory
  | .file (.inside cs) name =>
    match tree.contents? (cs ++ [name]) with
    | some contents => return contents
    | none => throw .noSuchFile
  | .file .outside _ => throw .noSuchFile

def put (tree : FileTree) (file : List Text) (contents : Text) : FileTree :=
  ⟨(tree.files.filter fun f => f.1 ≠ file) ++ [(file, contents)]⟩

def write (tree : FileTree) (path contents : Text) : Except Denial FileTree := do
  match ← tree.locate path with
  | .directory => throw .isDirectory
  | .file (.inside cs) name => return tree.put (cs ++ [name]) contents
  | .file .outside _ => return tree

/-- The files that are not in an earlier tree with the same contents. -/
def changesSince (tree before : FileTree) : List (List Text × Text) :=
  tree.files.filter fun f => before.contents? f.1 ≠ some f.2

end FileTree

end Anem
