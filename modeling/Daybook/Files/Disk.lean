/-!
# Files

What a program can do with files, and paths as texts with slashes.
-/

namespace Daybook.Files

/-- Why a file could not be read: there is none, or it is no readable text. -/
inductive ReadFault where
  | missing
  | unreadable
deriving DecidableEq, Repr

/-- What can be done with files. Writing and making folders tell whether they succeeded. -/
structure Disk (m : Type → Type) where
  read : String → m (Except ReadFault String)
  write : String → String → m Bool
  makeFolders : String → m Bool

/-- A path inside a folder. An absolute path stays as it is. -/
def joinPath (folder path : String) : String :=
  if path.startsWith "/" then path
  else if folder.isEmpty || folder.endsWith "/" then folder ++ path
  else folder ++ "/" ++ path

/-- The names between the slashes of a path, in reverse behind those in `done`; `current` is the
name that has been begun, in reverse. -/
def splitFrom (done : List String) (current : List Char) : List Char → List String
  | [] => (String.ofList current.reverse :: done).reverse
  | c :: cs =>
    if c = '/' then splitFrom (String.ofList current.reverse :: done) [] cs
    else splitFrom done (c :: current) cs

/-- The names of a path that lead somewhere: neither empty ones nor single dots. -/
def pathNames (path : String) : List String :=
  (splitFrom [] [] path.toList).filter (fun name => name != "" && name != ".")

/-- Whether a path can only lead to a folder, as its end tells. -/
def endsInFolder (path : String) : Bool :=
  match (splitFrom [] [] path.toList).getLast? with
  | some name => name == "" || name == "." || name == ".."
  | none => true

/-- The folder that a path lies in, if it names something in a folder. -/
def parentPath? (path : String) : Option String :=
  let root := if path.startsWith "/" then "/" else ""
  let names := pathNames path
  match names.isEmpty, path.toList with
  | true, '.' :: _ => some ""
  | true, _ => none
  | false, _ => some (root ++ String.intercalate "/" names.dropLast)

end Daybook.Files
