import Daybook.Files.Disk

/-!
# File trees

Files and folders in memory, so that programs that use files can be run and reasoned about without
a disk. Every file and every folder has its place, the names that lead to it from the root.
-/

namespace Daybook.Files

/-- The names that lead to a file or folder from the root. -/
abbrev Place : Type :=
  List String

/-- Files with their contents, the folders besides the root, and the folder in which relative paths
begin. -/
structure Tree where
  files : List (Place × String)
  folders : List Place
  home : Place
deriving Repr

namespace Tree

/-- What can stand at a place. -/
inductive Entry where
  | file (content : String)
  | folder
deriving DecidableEq, Repr

/-- What stands at a place. -/
def entry? (t : Tree) (place : Place) : Option Entry :=
  match t.files.find? (·.1 == place) with
  | some file => some (.file file.2)
  | none => if place.isEmpty || t.folders.contains place then some .folder else none

/-- The tree of files at paths, with all folders that they lie in. -/
def ofFiles (home : Place) (files : List (String × String)) : Tree :=
  let placed := files.map (fun file => (home ++ pathNames file.1, file.2))
  let above (place : Place) : List Place :=
    (List.range (place.length - 1)).map (fun n => place.take (n + 1))
  ⟨placed, ((home :: placed.map (·.1)).flatMap above ++ [home]).eraseDups, home⟩

/-- The most bytes of a name. -/
def nameLimit : Nat :=
  255

/-- Whether a file or folder can have a name. -/
def isName (name : String) : Bool :=
  name.utf8ByteSize ≤ nameLimit && !name.toList.contains '\x00'

/-- Follows names from a place through folders. `make` says whether a missing folder is made; the
outcome is the place and the tree, or why there is no way. -/
def walk (make : Bool) (t : Tree) (place : Place) : List String → Except ReadFault (Place × Tree)
  | [] => .ok (place, t)
  | name :: names =>
    let next := if name == ".." then place.dropLast else place ++ [name]
    if !isName name then .error .unreadable
    else
      match t.entry? next with
      | some .folder => walk make t next names
      | some (.file _) => .error .unreadable
      | none =>
        if make then walk make { t with folders := next :: t.folders } next names
        else .error .missing

/-- Where the names of a path begin. -/
def start (t : Tree) (path : String) : Place :=
  if path.startsWith "/" then [] else t.home

/-- The place of a file, of which only the folders around it need to exist. -/
def locate (t : Tree) (path : String) : Except ReadFault Place := do
  let names := pathNames path
  if path.isEmpty then .error .missing
  match names.getLast? with
  | none => .ok (t.start path)
  | some name =>
    let (folder, _) ← walk false t (t.start path) names.dropLast
    if !isName name then .error .unreadable
    let place := if name == ".." then folder.dropLast else folder ++ [name]
    if endsInFolder path && t.entry? place != some .folder then
      .error (if (t.entry? place).isSome then .unreadable else .missing)
    .ok place

/-- The text of a file. -/
def read (t : Tree) (path : String) : Except ReadFault String := do
  let place ← t.locate path
  match t.entry? place with
  | some (.file content) => .ok content
  | some .folder => .error .unreadable
  | none => .error .missing

/-- A tree with a file written, if that can be done. -/
def write? (t : Tree) (path content : String) : Option Tree :=
  match t.locate path with
  | .error _ => none
  | .ok place =>
    match t.entry? place with
    | some .folder => none
    | _ => some { t with files := (place, content) :: t.files.filter (·.1 != place) }

/-- A tree with all folders of a path, as far as they can be made. -/
def makeFolders (t : Tree) (path : String) : Bool × Tree :=
  let step (state : Bool × Place × Tree) (name : String) : Bool × Place × Tree :=
    match state with
    | (false, place, t) => (false, place, t)
    | (true, place, t) =>
      match walk true t place [name] with
      | .ok (place, t) => (true, place, t)
      | .error _ => (false, place, t)
  let (made, _, t) := (pathNames path).foldl step (true, t.start path, t)
  (made, t)

end Tree

/-- Files in memory. -/
def Tree.disk : Disk (StateM Tree) where
  read path := fun t => (t.read path, t)
  write path content := fun t =>
    match t.write? path content with
    | some written => (true, written)
    | none => (false, t)
  makeFolders path := fun t => t.makeFolders path

end Daybook.Files
