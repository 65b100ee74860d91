import Daybook.Pattern.Regex
import Daybook.Text.Bytes

/-!
# Patterns of fixed texts

A pattern that is no more than a choice among a few fixed texts is searched for as it stands and
takes no room for a program.
-/

namespace Daybook.Pattern

open Daybook.Text

namespace CharSet

/-- The number of characters in a set. -/
def size (s : CharSet) : Nat :=
  s.ranges.foldl (fun n r => n + (r.2 + 1 - r.1)) 0

/-- The characters of a set, in order. -/
def toList (s : CharSet) : List Char :=
  s.ranges.flatMap (fun r => (List.range (r.2 + 1 - r.1)).map (fun i => Char.ofNat (r.1 + i)))

end CharSet

/-- The most characters of a set, or copies in a repetition, that are written out. -/
def spelledLimit : Nat :=
  10

/-- The most texts that a choice is spread into. -/
def textsLimit : Nat :=
  250

/-- Texts, if they are not too many. -/
def fewTexts? (texts : List (List Char)) : Option (List (List Char)) :=
  if texts.length ≤ textsLimit then some texts else none

/-- Every text of one list followed by every text of another. -/
def joinTexts? (as bs : List (List Char)) : Option (List (List Char)) :=
  if as.length * bs.length ≤ textsLimit then some (as.flatMap (fun a => bs.map (a ++ ·))) else none

/-- Every sequence of a number of texts of a list. -/
def powerTexts? (texts : List (List Char)) : Nat → Option (List (List Char))
  | 0 => some [[]]
  | n + 1 => (powerTexts? texts n).bind (joinTexts? · texts)

namespace Regex

mutual

/-- The texts that an expression stands for, the preferred first, if they are few and nothing else
is to be found out about a match. -/
def fixedTexts? : Regex → Option (List (List Char))
  | .empty => some [[]]
  | .set chars => if chars.size ≤ spelledLimit then some (chars.toList.map ([·])) else none
  | .look _ => none
  | .sequence parts => sequenceTexts? parts
  | .choice parts => choiceTexts? parts
  | .repetition min max greedy inner =>
    match inner.fixedTexts? with
    | none => none
    | some texts =>
      if min = 0 ∧ max = some 1 then fewTexts? (if greedy then texts ++ [[]] else [] :: texts)
      else if max = some min ∧ min ≤ spelledLimit then powerTexts? texts min
      else none
  | .capture _ _ _ => none

/-- The texts that expressions stand for when they follow each other. -/
def sequenceTexts? : List Regex → Option (List (List Char))
  | [] => some [[]]
  | part :: parts =>
    match part.fixedTexts?, sequenceTexts? parts with
    | some texts, some rest => joinTexts? texts rest
    | _, _ => none

/-- The texts that one or the other expression stands for. -/
def choiceTexts? : List Regex → Option (List (List Char))
  | [] => some []
  | part :: parts =>
    match part.fixedTexts?, choiceTexts? parts with
    | some texts, some rest => fewTexts? (texts ++ rest)
    | _, _ => none

end

/-- The size of the front that all of some texts share. -/
def sharedFront : List (List Char) → Nat
  | [] => 0
  | text :: texts =>
    let shared (n : Nat) : Bool := texts.all (fun t => t.take n == text.take n)
    byteLength (text.take (((List.range (text.length + 1)).reverse.find? shared).getD 0))

/-- Whether texts can be searched for as they stand: none is empty or long, they share no long
front, and there are at most ten, or somewhat more if they are short. -/
def suitSearch (texts : List (List Char)) : Bool :=
  !texts.isEmpty && texts.all (fun t => !t.isEmpty && byteLength t ≤ 100) &&
    (texts.length = 1 || sharedFront texts ≤ 4) &&
    (texts.length ≤ 10 || (texts.length ≤ 64 && texts.all (fun t => byteLength t ≤ 4)))

/-- Whether an expression needs no program. -/
def isFixed (r : Regex) : Bool :=
  match r.fixedTexts? with
  | some texts => suitSearch texts.eraseDups
  | none => false

end Regex

end Daybook.Pattern
