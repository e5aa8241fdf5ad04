import EventRouter.Dict
import EventRouter.Inspection.Loading
import EventRouter.Text.Split

/-! A directory that holds files and nothing else, and where paths from it lead. -/

namespace EventRouter.Inspection

/-- The files of a directory, by name. -/
abbrev Directory := Dict String

namespace Directory

/-- The number of bytes that a name in a path may have. -/
def maxName : Nat := 255

/-- The number of bytes that a path may have. -/
def maxPath : Nat := 4095

/-- What is found outside the directory under a name: nothing that is known of. -/
def outside (name : String) : FileError :=
  if maxName < name.utf8ByteSize then .nameTooLong else .notFound

/-- Where the steps of a path lead from above the directory. -/
def walkAbove (moves : List String) : FileError :=
  match moves.dropWhile (· = "..") with
  | [] => .isDirectory
  | name :: _ => outside name

/-- Where the steps of a path lead from inside a directory. Steps that stay in place have been left
out; a path that ends with such a step cannot lead to a file. Nothing is known of what lies above
the directory but the way there. -/
def walk (files : Directory) (endsInPlace : Bool) : List String → Except FileError String
  | [] => .error .isDirectory
  | name :: rest =>
    if name = ".." then .error (walkAbove rest)
    else
      match files.get? name with
      | some content => if rest.isEmpty ∧ ¬ endsInPlace then .ok content else .error .notDirectory
      | none => .error (outside name)

/-- Reads the file at a path from a directory. -/
def read (files : Directory) (path : String) : Except FileError String :=
  let steps := (Text.split '/' path.toList).map String.ofList
  let moves := steps.filter fun step => step ≠ "" && step ≠ "."
  if path.toList.contains '\x00' then .error .invalidPath
  else if maxPath < path.utf8ByteSize then .error .nameTooLong
  else if path = "" then .error .notFound
  else if path.toList.head? = some '/' then .error (walkAbove moves)
  else files.walk (steps.getLast? = some "" ∨ steps.getLast? = some ".") moves

end Directory

end EventRouter.Inspection
