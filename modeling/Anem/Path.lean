import Anem.Text.Basic

/-!
Paths with components between slashes. The file name is the last component
that is not empty and not a dot; a path that ends in two dots has none. The
extension is what follows the last dot of the name, unless that dot is its
first character.
-/
namespace Anem.Path

/-- A reversed path without the slashes and single dots at its end. -/
def dropTail : Text → Text
  | '/' :: rest => dropTail rest
  | '.' :: '/' :: rest => dropTail rest
  | rest => rest

/-- The path up to its file name, and the file name. -/
def splitName? (path : Text) : Option (Text × Text) :=
  let back := dropTail path.reverse
  let name := (back.takeWhile (· != '/')).reverse
  if name = [] ∨ name = ['.'] ∨ name = ['.', '.'] then none
  else some ((back.dropWhile (· != '/')).reverse, name)

def splitExtension (name : Text) : Text × Option Text :=
  match name.reverse.dropWhile (· != '.') with
  | '.' :: c :: rest => ((c :: rest).reverse, some (name.reverse.takeWhile (· != '.')).reverse)
  | _ => (name, none)

def extension? (path : Text) : Option Text :=
  match splitName? path with
  | some (_, name) => (splitExtension name).2
  | none => none

def dropExtension (path : Text) : Text :=
  match splitName? path with
  | some (directory, name) => directory ++ (splitExtension name).1
  | none => path

/-- The path with another extension, or with none if that is empty. The old
extension is cut off the end of the path first; a path that has no file name
then is left as it is. -/
def withExtension (path extension : Text) : Text :=
  let front := match extension? path with
    | some old => path.take (path.length - old.length)
    | none => path
  if (splitName? front).isNone ∨ extension = [] then dropExtension front
  else dropExtension front ++ '.' :: extension

end Anem.Path
