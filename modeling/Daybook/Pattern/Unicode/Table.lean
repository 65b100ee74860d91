/-!
# Tables of character properties

A table gives the names of one property, or of one value of a property, and the code points that
have it. The code points are written as runs in base 36: how far a run lies behind the one before,
and, behind a point, how many code points it has beyond the first.
-/

namespace Daybook.Pattern.Unicode

/-- The names of a property or of a value of one, the long one first, and its written runs. -/
structure Table where
  names : List String
  runs : List String

/-- A digit in base 36. -/
def digitValue (c : Char) : Nat :=
  if c.isDigit then c.toNat - 48 else c.toNat - 87

/-- Reads the runs from `next` on: `gap` and `extra` are the numbers read so far of the run at
hand, and `inExtra` tells which of them the next digit belongs to. Gives the runs in reverse. -/
def readRuns (next gap extra : Nat) (inExtra : Bool) (done : List (Nat × Nat)) :
    List Char → List (Nat × Nat)
  | [] => (next + gap, next + gap + extra) :: done
  | ' ' :: cs =>
    readRuns (next + gap + extra + 1) 0 0 false ((next + gap, next + gap + extra) :: done) cs
  | '.' :: cs => readRuns next gap extra true done cs
  | c :: cs =>
    if inExtra then readRuns next gap (extra * 36 + digitValue c) true done cs
    else readRuns next (gap * 36 + digitValue c) extra false done cs

/-- The runs of a table, each by its first and last code point, in order. -/
def Table.ranges (t : Table) : List (Nat × Nat) :=
  (readRuns 0 0 0 false [] (String.intercalate " " t.runs).toList).reverse

/-- A name as it is compared: ASCII letters lowered, blanks, hyphens and underscores left out, and
a leading `is` left out unless the name is `isc`. Characters outside of ASCII do not count. -/
def normalName (name : String) : String :=
  let cs := name.toList
  let (isPart, rest) := match cs with
    | i :: s :: rest => if i.toLower == 'i' && s.toLower == 's' then (true, rest) else (false, cs)
    | _ => (false, cs)
  let kept := rest.filterMap (fun c =>
    if c == ' ' || c == '_' || c == '-' || 0x7F < c.toNat then none else some c.toLower)
  if isPart && kept == ['c'] then "isc" else String.ofList kept

/-- The table that has a name, where the name is given as it is compared. -/
def findTable? (tables : List Table) (normal : String) : Option Table :=
  tables.find? (fun t => t.names.any (fun name => normalName name == normal))

end Daybook.Pattern.Unicode
