import Daybook.Json.Fault
import Daybook.Text.Bytes

/-!
# Excerpts around a fault

A fault is shown with a piece of the text around it and the offset at which it lies inside that
piece. Offsets and lengths count bytes.
-/

namespace Daybook.Json

open Daybook.Text

/-- A piece of a text, and a span inside it. -/
structure Excerpt where
  source : String
  offset : Nat
  length : Nat
deriving DecidableEq, Repr

namespace Excerpt

/-- The number of bytes on either side of a fault that an excerpt shows at least. -/
def context : Nat :=
  160

/-- Looks for a line of a text, of which lines before it take `offset` bytes: gives the bytes before
it, and its characters with the line break. -/
def findLine (line offset : Nat) (current : List Char) : List Char → Option (Nat × List Char)
  | [] => if line = 1 ∧ current ≠ [] then some (offset, current.reverse) else none
  | c :: cs =>
    if c = '\n' then
      if line = 1 then some (offset, (c :: current).reverse)
      else findLine (line - 1) (offset + byteLength (c :: current)) [] cs
    else findLine line offset (c :: current) cs

/-- The byte offset of the character with number `column` of a line, or of the line's last byte. -/
def columnOffset (line : List Char) (column : Nat) : Nat :=
  if column - 1 < line.length then byteLength (line.take (column - 1)) else byteLength line - 1

/-- The byte offset in a text that a place stands for. -/
def placeOffset (text : List Char) (place : Place) : Nat :=
  if place.line = 0 ∨ place.column = 0 then 0
  else
    match findLine place.line 0 [] text with
    | some (offset, line) => offset + columnOffset line place.column
    | none => byteLength text - 1

/-- The piece of a text around an offset, cut at boundaries. -/
def around (text : List Char) (offset : Nat) : Excerpt :=
  let size := byteLength text
  let start := floorBoundary 0 text (min (offset - context) size)
  let stop := ceilBoundary 0 text (min (offset + 1 + context) size)
  let source := slice text start stop
  ⟨String.ofList source, offset - start, min 1 (byteLength source - (offset - start))⟩

/-- The excerpt for a fault at a place. -/
def ofPlace (text : String) (place : Place) : Excerpt :=
  around text.toList (placeOffset text.toList place)

end Excerpt

end Daybook.Json
