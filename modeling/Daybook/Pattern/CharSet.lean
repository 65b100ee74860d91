/-!
# Sets of characters

A set is a list of ranges of code points, in order and apart from each other. Surrogates are no
characters and belong to no set.
-/

namespace Daybook.Pattern

/-- A set of characters as ranges of code points, each by its first and its last. -/
structure CharSet where
  ranges : List (Nat × Nat)
deriving DecidableEq, Repr

namespace CharSet

/-- The set without any character. -/
def empty : CharSet :=
  ⟨[]⟩

/-- Every character. -/
def full : CharSet :=
  ⟨[(0, 0xD7FF), (0xE000, 0x10FFFF)]⟩

/-- Whether a code point is in one of the ranges, which are in order. -/
def inRanges (n : Nat) : List (Nat × Nat) → Bool
  | [] => false
  | (low, high) :: rest => if n < low then false else if n ≤ high then true else inRanges n rest

/-- Whether a code point is in a set. -/
def containsCode (s : CharSet) (n : Nat) : Bool :=
  inRanges n s.ranges

/-- Whether a character is in a set. -/
def contains (s : CharSet) (c : Char) : Bool :=
  s.containsCode c.toNat

/-- Ranges in order of their first code points, joined where they touch; those joined so far are in
reverse. -/
def joinRanges (done : List (Nat × Nat)) : List (Nat × Nat) → List (Nat × Nat)
  | [] => done.reverse
  | (low, high) :: rest =>
    match done with
    | [] => joinRanges [(low, high)] rest
    | (a, b) :: before =>
      if low ≤ b + 1 then joinRanges ((a, max b high) :: before) rest
      else joinRanges ((low, high) :: (a, b) :: before) rest

/-- The set of the characters in any of the ranges. -/
def ofRanges (ranges : List (Nat × Nat)) : CharSet :=
  ⟨joinRanges [] (ranges.mergeSort (fun a b => a.1 ≤ b.1))⟩

/-- The set of one character. -/
def single (c : Char) : CharSet :=
  ⟨[(c.toNat, c.toNat)]⟩

/-- The characters of either set. -/
def union (s t : CharSet) : CharSet :=
  ofRanges (s.ranges ++ t.ranges)

/-- The code points from `next` to `last` that are in none of the ranges. -/
def gaps (next last : Nat) : List (Nat × Nat) → List (Nat × Nat)
  | [] => if next ≤ last then [(next, last)] else []
  | (low, high) :: rest =>
    if next < low then (next, low - 1) :: gaps (high + 1) last rest else gaps (high + 1) last rest

/-- The characters that are not in a set. -/
def complement (s : CharSet) : CharSet :=
  ⟨gaps 0 0x10FFFF (ofRanges ((0xD800, 0xDFFF) :: s.ranges)).ranges⟩

/-- The characters of both sets. -/
def inter (s t : CharSet) : CharSet :=
  (s.complement.union t.complement).complement

/-- The characters of the first set that are not in the second. -/
def difference (s t : CharSet) : CharSet :=
  s.inter t.complement

/-- The characters of exactly one of the sets. -/
def symmetricDifference (s t : CharSet) : CharSet :=
  (s.union t).difference (s.inter t)

/-- Whether a set has no character. -/
def isEmpty (s : CharSet) : Bool :=
  s.ranges.isEmpty

/-- Whether a set holds ASCII characters alone. -/
def isAscii (s : CharSet) : Bool :=
  s.ranges.all (fun r => r.2 ≤ 0x7F)

end CharSet

end Daybook.Pattern
