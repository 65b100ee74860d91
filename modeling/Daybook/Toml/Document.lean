import Daybook.Toml.Value

/-!
# TOML documents

A document is a sequence of headers and bindings. What stands where is kept as one mark for each
path; inside a list of tables, paths lead to the last table of the list. No value and no table may
be defined twice.
-/

namespace Daybook.Toml

/-- A line of a document. -/
inductive Statement where
  | header (path : Path)
  | itemHeader (path : Path)
  | binding (key : Path) (value : Value)

/-- What stands at a path: a value, a list of tables, or a table. A table is implied as long as no
header names it; one that came about by a dotted key stays so. -/
inductive Mark where
  | value (v : Value)
  | tables
  | table (implied dotted : Bool)

/-- The marks of a document, each under its path. -/
structure Marks where
  entries : List (Path × Mark)

namespace Marks

/-- No marks. -/
def empty : Marks :=
  ⟨[]⟩

/-- The mark at a path. -/
def get? (m : Marks) (path : Path) : Option Mark :=
  (m.entries.find? (·.1 == path)).map (·.2)

/-- The marks with another one at a path. -/
def set (m : Marks) (path : Path) (mark : Mark) : Marks :=
  ⟨(path, mark) :: m.entries.filter (fun e => e.1 != path)⟩

/-- The marks without those below a path. -/
def clearBelow (m : Marks) (path : Path) : Marks :=
  ⟨m.entries.filter (fun e => e.1 == path || !path.isPrefixOf e.1)⟩

/-- Goes through tables one by one, from `base` on, and marks those that are not there yet. Dotted
keys may not go through a table that a header names. -/
def through (dotted : Bool) (base : Path) : List String → Marks → Option Marks
  | [], m => some m
  | name :: names, m =>
    let path := base ++ [name]
    match m.get? path with
    | none => through dotted path names (m.set path (.table true dotted))
    | some (.value _) => none
    | some .tables => through dotted path names m
    | some (.table implied _) =>
      if dotted && !implied then none else through dotted path names m

/-- Adds the table of a header. -/
def addHeader (m : Marks) (path : Path) : Option Marks := do
  let m ← m.through false [] path.dropLast
  match m.get? path with
  | none => some (m.set path (.table false false))
  | some (.table true false) => some (m.set path (.table false false))
  | some _ => none

/-- Adds a table to the list of tables of a header. -/
def addItemHeader (m : Marks) (path : Path) : Option Marks := do
  let m ← m.through false [] path.dropLast
  match m.get? path with
  | none => some ((m.set path .tables).clearBelow path)
  | some .tables => some (m.clearBelow path)
  | some _ => none

/-- Whether a dotted key may put a value into what stands at a path. -/
def takesDotted (m : Marks) (path : Path) : Bool :=
  match m.get? path with
  | some (.table _ dotted) => dotted
  | _ => false

/-- Adds a binding in the table at `base`. -/
def bind (m : Marks) (base key : Path) (v : Value) : Option Marks := do
  let front := key.dropLast
  let m ← m.through true base front
  if front.isEmpty || m.takesDotted (base ++ front) then
    match m.get? (base ++ key) with
    | none => some (m.set (base ++ key) (.value v))
    | some _ => none
  else none

/-- Takes in statements, the current table being the one at `base`. -/
def take (base : Path) : List Statement → Marks → Option Marks
  | [], m => some m
  | .header path :: rest, m => (m.addHeader path).bind (take path rest)
  | .itemHeader path :: rest, m => (m.addItemHeader path).bind (take path rest)
  | .binding key v :: rest, m => (m.bind base key v).bind (take base rest)

/-- The marks of statements, unless something is defined twice. -/
def ofStatements (statements : List Statement) : Option Marks :=
  take [] statements empty

end Marks

end Daybook.Toml
