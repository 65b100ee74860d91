import Daybook.Pattern.CharSet
import Daybook.Pattern.Unicode.Category
import Daybook.Pattern.Unicode.Folding
import Daybook.Pattern.Unicode.Property
import Daybook.Pattern.Unicode.Script

/-!
# Sets with a name

The sets that patterns know by name: digits, blanks and word characters, the bracketed ASCII
classes, and properties of Unicode: binary ones, general categories, scripts and script
extensions. The properties for the age of a character and for how clusters, words and sentences
break (`Age`, `gcb`, `wb`, `sb`) have no tables here, so a pattern that names one of them is
malformed. Also the closure of a set under a change of case.
-/

namespace Daybook.Pattern

open Unicode

/-- The set of a property's runs, without surrogates. -/
def CharSet.ofRuns (runs : List (Nat × Nat)) : CharSet :=
  CharSet.ofRanges runs

/-! ## Short classes -/

/-- Decimal digits of all scripts. -/
def digitSet : CharSet :=
  .ofRuns (categoryRanges "Nd")

/-- Blanks. -/
def spaceSet : CharSet :=
  .ofRanges [(0x09, 0x0D), (0x20, 0x20), (0x85, 0x85), (0xA0, 0xA0), (0x1680, 0x1680),
    (0x2000, 0x200A), (0x2028, 0x2029), (0x202F, 0x202F), (0x205F, 0x205F), (0x3000, 0x3000)]

/-- The runs of a binary property. -/
def propertyRuns (normal : String) : List (Nat × Nat) :=
  match findTable? binaryProperties normal with
  | some t => t.ranges
  | none => []

/-- Letters, marks, digits, connectors and joiners: the characters of words. -/
def wordSet : CharSet :=
  .ofRanges (propertyRuns "alphabetic" ++ ["Mn", "Mc", "Me", "Nd", "Pc"].flatMap categoryRanges ++
    propertyRuns "joincontrol")

/-- Letters of all scripts and signs that are used as such. -/
def alphabeticSet : CharSet :=
  .ofRuns (propertyRuns "alphabetic")

/-- Letters and numbers of all scripts. -/
def alphanumericSet : CharSet :=
  .ofRanges (propertyRuns "alphabetic" ++ ["Nd", "Nl", "No"].flatMap categoryRanges)

/-- The digits of ASCII. -/
def asciiDigitSet : CharSet :=
  ⟨[(0x30, 0x39)]⟩

/-- The blanks of ASCII. -/
def asciiSpaceSet : CharSet :=
  ⟨[(0x09, 0x0D), (0x20, 0x20)]⟩

/-- The word characters of ASCII. -/
def asciiWordSet : CharSet :=
  ⟨[(0x30, 0x39), (0x41, 0x5A), (0x5F, 0x5F), (0x61, 0x7A)]⟩

/-- The ASCII class that is written with a name between colons. -/
def asciiClass? (name : String) : Option CharSet :=
  match name with
  | "alnum" => some ⟨[(0x30, 0x39), (0x41, 0x5A), (0x61, 0x7A)]⟩
  | "alpha" => some ⟨[(0x41, 0x5A), (0x61, 0x7A)]⟩
  | "ascii" => some ⟨[(0x00, 0x7F)]⟩
  | "blank" => some ⟨[(0x09, 0x09), (0x20, 0x20)]⟩
  | "cntrl" => some ⟨[(0x00, 0x1F), (0x7F, 0x7F)]⟩
  | "digit" => some asciiDigitSet
  | "graph" => some ⟨[(0x21, 0x7E)]⟩
  | "lower" => some ⟨[(0x61, 0x7A)]⟩
  | "print" => some ⟨[(0x20, 0x7E)]⟩
  | "punct" => some ⟨[(0x21, 0x2F), (0x3A, 0x40), (0x5B, 0x60), (0x7B, 0x7E)]⟩
  | "space" => some asciiSpaceSet
  | "upper" => some ⟨[(0x41, 0x5A)]⟩
  | "word" => some asciiWordSet
  | "xdigit" => some ⟨[(0x30, 0x39), (0x41, 0x46), (0x61, 0x66)]⟩
  | _ => none

/-! ## Properties -/

/-- The set of the general category with a name, given as names are compared. -/
def categorySet? (normal : String) : Option CharSet :=
  match normal with
  | "any" => some .full
  | "assigned" => some (CharSet.ofRuns (categoryRanges "Cn")).complement
  | "ascii" => some ⟨[(0x00, 0x7F)]⟩
  | _ => (category? normal).map .ofRuns

/-- The set of the script with a name, given as names are compared. -/
def scriptSet? (normal : String) : Option CharSet :=
  (findTable? scripts normal).map (fun t => .ofRuns t.ranges)

/-- The set of the characters that a script uses, the script's name given as names are compared. -/
def scriptExtensionSet? (normal : String) : Option CharSet :=
  match findTable? scriptExtensions normal with
  | some t => some (.ofRuns t.ranges)
  | none => scriptSet? normal

/-- The set that a single name denotes: a binary property, else a category, else a script. Three
short names that could be both are categories. -/
def propertySet? (name : String) : Option CharSet :=
  let normal := normalName name
  let binary :=
    if normal == "cf" || normal == "sc" || normal == "lc" then none
    else findTable? binaryProperties normal
  match binary with
  | some t => some (.ofRuns t.ranges)
  | none =>
    match categorySet? normal with
    | some s => some s
    | none => scriptSet? normal

/-- The set of the characters for which a property has a value. There is none for properties without
tables, which are `Age`, `gcb`, `wb` and `sb`. -/
def propertyValueSet? (property value : String) : Option CharSet :=
  match normalName property with
  | "generalcategory" | "gc" => categorySet? (normalName value)
  | "script" | "sc" => scriptSet? (normalName value)
  | "scriptextensions" | "scx" => scriptExtensionSet? (normalName value)
  | _ => none

/-! ## Case -/

/-- All members of folding orbits but the least, each with the least of its orbit. -/
def foldingPairs : List (Nat × Nat) :=
  foldings.flatMap FoldingRun.members

/-- A set with every character that differs from one of its own in case alone. -/
def CharSet.foldCase (s : CharSet) : CharSet :=
  let touched := foldingPairs.filter (fun p => s.containsCode p.1 || s.containsCode p.2)
  let least := CharSet.ofRanges (touched.map (fun p => (p.2, p.2)))
  let all := foldingPairs.filter (fun p => least.containsCode p.2)
  CharSet.ofRanges (s.ranges ++ least.ranges ++ all.map (fun p => (p.1, p.1)))

/-- A set with every ASCII letter that differs from one of its own in case alone. -/
def CharSet.foldAsciiCase (s : CharSet) : CharSet :=
  let letters := (List.range 26).filter (fun i =>
    s.containsCode (0x41 + i) || s.containsCode (0x61 + i))
  CharSet.ofRanges (s.ranges ++
    letters.flatMap (fun i => [(0x41 + i, 0x41 + i), (0x61 + i, 0x61 + i)]))

end Daybook.Pattern
