import Daybook.Pattern.Unicode.Category
import Daybook.Pattern.Unicode.Property

/-!
# Quoted text

A text between double quotes with everything escaped that would not show: control characters,
blanks other than the space, unassigned code points, and marks that would join the quote before
them.
-/

namespace Daybook.Text

open Daybook.Pattern.Unicode

/-- Whether a code point lies in one of the runs. -/
def inRuns (n : Nat) (runs : List (Nat × Nat)) : Bool :=
  runs.any (fun r => r.1 ≤ n && n ≤ r.2)

/-- The categories whose characters do not show. -/
def hiddenCategories : List String :=
  ["Cc", "Cf", "Co", "Cn", "Zl", "Zp", "Zs"]

/-- Whether a character outside of ASCII is escaped: it does not show, or it joins the one before. -/
def isHidden (c : Char) : Bool :=
  hiddenCategories.any (fun short => inRuns c.toNat (categoryRanges short)) ||
    match findTable? binaryProperties "graphemeextend" with
    | some t => inRuns c.toNat t.ranges
    | none => false

/-- A code point in lower-case hexadecimal between braces. -/
def codePointEscape (c : Char) : List Char :=
  '\\' :: 'u' :: '{' :: Nat.toDigits 16 c.toNat ++ ['}']

/-- What stands for one character between the quotes. -/
def quotedChar (c : Char) : List Char :=
  match c with
  | '"' => ['\\', '"']
  | '\\' => ['\\', '\\']
  | '\x00' => ['\\', '0']
  | '\t' => ['\\', 't']
  | '\n' => ['\\', 'n']
  | '\r' => ['\\', 'r']
  | c =>
    if 0x20 ≤ c.toNat && c.toNat ≤ 0x7E then [c]
    else if isHidden c then codePointEscape c
    else [c]

/-- A text between quotes. -/
def quoted (s : String) : String :=
  "\"" ++ String.ofList (s.toList.flatMap quotedChar) ++ "\""

end Daybook.Text
