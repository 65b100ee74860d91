/-!
# HTML entities

Five characters mean something in markup. Each is written as an entity, in text and in attribute
values alike; `readEntity?` reads one of the five entities back.
-/

namespace Daybook.Text.Entity

/-- What stands for one character in markup. -/
def encodeChar (c : Char) : List Char :=
  match c with
  | '&' => "&amp;".toList
  | '<' => "&lt;".toList
  | '>' => "&gt;".toList
  | '"' => "&quot;".toList
  | '\'' => "&apos;".toList
  | c => [c]

/-- The encoded form of a list of characters. -/
def encodeChars (cs : List Char) : List Char :=
  cs.flatMap encodeChar

/-- `out` followed by the encoded form of `text`. -/
def push (out text : String) : String :=
  out ++ String.ofList (encodeChars text.toList)

/-- Whether a character may not stand for itself in markup. -/
def isSignificant (c : Char) : Bool :=
  c == '&' || c == '<' || c == '>' || c == '"' || c == '\''

/-- A text made safe for markup: either it could stay as it was, or it was written anew. -/
inductive Encoded where
  | unchanged (text : String)
  | changed (text : String)
deriving DecidableEq, Repr

/-- The safe text, whichever way it came about. -/
def Encoded.text : Encoded → String
  | .unchanged text => text
  | .changed text => text

/-- Whether the text could stay as it was. -/
def Encoded.isUnchanged : Encoded → Bool
  | .unchanged _ => true
  | .changed _ => false

/-- Encodes a text, leaving it alone when it has no significant character. -/
def encode (text : String) : Encoded :=
  if text.toList.any isSignificant then .changed (push "" text) else .unchanged text

/-- The character that an entity at the front of a text stands for, and what follows it. -/
def readEntity? : List Char → Option (Char × List Char)
  | '&' :: 'a' :: 'm' :: 'p' :: ';' :: rest => some ('&', rest)
  | '&' :: 'l' :: 't' :: ';' :: rest => some ('<', rest)
  | '&' :: 'g' :: 't' :: ';' :: rest => some ('>', rest)
  | '&' :: 'q' :: 'u' :: 'o' :: 't' :: ';' :: rest => some ('"', rest)
  | '&' :: 'a' :: 'p' :: 'o' :: 's' :: ';' :: rest => some ('\'', rest)
  | _ => none

end Daybook.Text.Entity
