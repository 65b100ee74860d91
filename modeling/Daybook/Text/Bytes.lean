/-!
# Byte offsets

Texts are lists of characters; sizes and places that are reported count UTF-8 bytes.
A byte offset is a *boundary* when it falls between two characters or at an end.
-/

namespace Daybook.Text

/-- The size of a list of characters in UTF-8. -/
def byteLength (cs : List Char) : Nat :=
  cs.foldl (fun n c => n + c.utf8Size) 0

/-- The size of a text in UTF-8. -/
def size (s : String) : Nat :=
  byteLength s.toList

/-- The last boundary at or before `n`, looking from a boundary `start` on. -/
def floorBoundary (start : Nat) : List Char → Nat → Nat
  | [], _ => start
  | c :: cs, n => if n < start + c.utf8Size then start else floorBoundary (start + c.utf8Size) cs n

/-- The first boundary at or after `n`, looking from a boundary `start` on; the end if there is
none. -/
def ceilBoundary (start : Nat) : List Char → Nat → Nat
  | [], _ => start
  | c :: cs, n => if n ≤ start then start else ceilBoundary (start + c.utf8Size) cs n

/-- The characters that begin at byte `n` or later. -/
def dropBytes : List Char → Nat → List Char
  | [], _ => []
  | c :: cs, n => if n = 0 then c :: cs else dropBytes cs (n - c.utf8Size)

/-- Collects the characters that begin before byte `n`, last one first. -/
def takeBytesOnto (taken : List Char) : List Char → Nat → List Char
  | [], _ => taken
  | c :: cs, n => if n = 0 then taken else takeBytesOnto (c :: taken) cs (n - c.utf8Size)

/-- The characters that begin before byte `n`. -/
def takeBytes (cs : List Char) (n : Nat) : List Char :=
  (takeBytesOnto [] cs n).reverse

/-- The piece of a text between two boundaries. -/
def slice (cs : List Char) (start stop : Nat) : List Char :=
  takeBytes (dropBytes cs start) (stop - start)

end Daybook.Text
