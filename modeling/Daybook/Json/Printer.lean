import Daybook.Json.Value

/-!
# JSON text

Values printed as JSON, on one line or indented. Texts are quoted with the short escapes where JSON
has them, other control characters as `\u00xx`; everything else stands for itself.
-/

namespace Daybook.Json

open Daybook.Number

/-- A digit of a hexadecimal number, in lower case. -/
def hexDigit (n : Nat) : Char :=
  (Nat.digitChar n)

/-- What stands for one character between quotes. -/
def quoteChar (c : Char) : List Char :=
  match c with
  | '"' => ['\\', '"']
  | '\\' => ['\\', '\\']
  | '\x08' => ['\\', 'b']
  | '\x0C' => ['\\', 'f']
  | '\n' => ['\\', 'n']
  | '\r' => ['\\', 'r']
  | '\t' => ['\\', 't']
  | c =>
    if c.toNat < 0x20 then
      ['\\', 'u', '0', '0', hexDigit (c.toNat / 16), hexDigit (c.toNat % 16)]
    else [c]

/-- A text between quotes. -/
def quote (s : String) : String :=
  "\"" ++ String.ofList (s.toList.flatMap quoteChar) ++ "\""

/-- A number as JSON has it. -/
def Number.toJson : Number → String
  | .integer value => intText value
  | .float value => value.jsonText

namespace Value

mutual

/-- A value on one line, without blanks. -/
def compact : Value → String
  | .null => "null"
  | .bool value => if value then "true" else "false"
  | .number value => value.toJson
  | .string value => quote value
  | .array items => "[" ++ String.intercalate "," (compactItems items) ++ "]"
  | .object members => "\x7b" ++ String.intercalate "," (compactMembers members) ++ "\x7d"

/-- The texts of the items of an array. -/
def compactItems : List Value → List String
  | [] => []
  | item :: items => item.compact :: compactItems items

/-- The texts of the members of an object. -/
def compactMembers : List (String × Value) → List String
  | [] => []
  | (name, value) :: members => (quote name ++ ":" ++ value.compact) :: compactMembers members

end

/-- The blanks at the front of a line. -/
def indentation (depth : Nat) : String :=
  String.ofList (List.replicate (2 * depth) ' ')

/-- Parts of a container, each on a line of its own between the brackets. -/
def spread (depth : Nat) (opening closing : String) (parts : List String) : String :=
  if parts.isEmpty then opening ++ closing
  else
    let line := "\n" ++ indentation (depth + 1)
    opening ++ line ++ String.intercalate ("," ++ line) parts ++ "\n" ++ indentation depth ++ closing

mutual

/-- A value over several lines, indented by two blanks for each container around it. -/
def pretty (depth : Nat) : Value → String
  | .null => "null"
  | .bool value => if value then "true" else "false"
  | .number value => value.toJson
  | .string value => quote value
  | .array items => spread depth "[" "]" (prettyItems (depth + 1) items)
  | .object members => spread depth "\x7b" "\x7d" (prettyMembers (depth + 1) members)

/-- The texts of the items of an array. -/
def prettyItems (depth : Nat) : List Value → List String
  | [] => []
  | item :: items => item.pretty depth :: prettyItems depth items

/-- The texts of the members of an object. -/
def prettyMembers (depth : Nat) : List (String × Value) → List String
  | [] => []
  | (name, value) :: members =>
    (quote name ++ ": " ++ value.pretty depth) :: prettyMembers depth members

end

end Value

end Daybook.Json
