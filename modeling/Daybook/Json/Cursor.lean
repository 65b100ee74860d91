/-!
# Places in a JSON text

A cursor holds what is still to be read and where that begins: the number of the line, and how many
bytes of that line lie behind. It also keeps the size of the whole text, which bounds every loop of
a reader.
-/

namespace Daybook.Json

/-- A place in a text: lines count from one, columns count the bytes already read of the line. -/
structure Place where
  line : Nat
  column : Nat
deriving DecidableEq, Repr

/-- What is left of a text, and where it begins. -/
structure Cursor where
  rest : List Char
  place : Place
  size : Nat
deriving Repr

namespace Place

/-- The place behind a character. -/
def after (p : Place) (c : Char) : Place :=
  if c = '\n' then ⟨p.line + 1, 0⟩ else ⟨p.line, p.column + c.utf8Size⟩

/-- The place `n` bytes further on, or the end of the text. -/
def advance (p : Place) : List Char → Nat → Place
  | [], _ => p
  | c :: cs, n =>
    if n < c.utf8Size then ⟨p.line, p.column + n⟩ else (p.after c).advance cs (n - c.utf8Size)

end Place

namespace Cursor

/-- The start of a text. -/
def start (text : List Char) : Cursor :=
  ⟨text, ⟨1, 0⟩, text.length⟩

/-- A bound for the steps of a loop that moves on in each of them. -/
def bound (c : Cursor) : Nat :=
  c.size + 1

/-- The cursor behind its next character. -/
def next (c : Cursor) : Cursor :=
  match c.rest with
  | [] => c
  | x :: rest => ⟨rest, c.place.after x, c.size⟩

/-- The place behind the next byte, or the end of the text. -/
def nextPlace (c : Cursor) : Place :=
  c.place.advance c.rest 1

/-- Whether a character is a blank of JSON. -/
def isSpace (x : Char) : Bool :=
  x == ' ' || x == '\n' || x == '\t' || x == '\r'

/-- Moves over characters that satisfy `p`. -/
def skipWhile (p : Char → Bool) (rest : List Char) (place : Place) (size : Nat) : Cursor :=
  match rest with
  | [] => ⟨[], place, size⟩
  | x :: xs => if p x then skipWhile p xs (place.after x) size else ⟨x :: xs, place, size⟩

/-- The cursor at the next character that is not blank. -/
def skipSpace (c : Cursor) : Cursor :=
  skipWhile isSpace c.rest c.place c.size

/-- The digits at a cursor, and the cursor behind them. -/
def digits (c : Cursor) : List Char × Cursor :=
  (c.rest.takeWhile Char.isDigit, skipWhile Char.isDigit c.rest c.place c.size)

end Cursor

end Daybook.Json
