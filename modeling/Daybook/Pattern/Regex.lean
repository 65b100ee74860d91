import Daybook.Pattern.CharSet

/-!
# Regular expressions

Patterns with all flags applied: sets of characters and conditions on places, put together by
sequence, ordered choice, repetition and capture.
-/

namespace Daybook.Pattern

/-- What counts as a character of a word. -/
inductive WordKind where
  | unicode | ascii
deriving DecidableEq, Repr

/-- A condition on a place between two characters. -/
inductive Look where
  | textStart | textEnd
  | lineStart | lineEnd
  | lineStartCrlf | lineEndCrlf
  | boundary (kind : WordKind)
  | notBoundary (kind : WordKind)
  | wordStart (kind : WordKind)
  | wordEnd (kind : WordKind)
  | wordStartHalf (kind : WordKind)
  | wordEndHalf (kind : WordKind)
deriving DecidableEq, Repr

/-- A regular expression with numbered groups. -/
inductive Regex where
  | empty
  | set (chars : CharSet)
  | look (condition : Look)
  | sequence (parts : List Regex)
  | choice (parts : List Regex)
  | repetition (min : Nat) (max : Option Nat) (greedy : Bool) (inner : Regex)
  | capture (index : Nat) (name : Option String) (inner : Regex)
deriving Repr, Inhabited

namespace Regex

mutual

/-- Whether an expression can match without any character. -/
def nullable : Regex → Bool
  | .empty => true
  | .set _ => false
  | .look _ => true
  | .sequence parts => allNullable parts
  | .choice parts => anyNullable parts
  | .repetition min _ _ inner => min == 0 || inner.nullable
  | .capture _ _ inner => inner.nullable

/-- Whether every one of some expressions can match without any character. -/
def allNullable : List Regex → Bool
  | [] => true
  | part :: parts => part.nullable && allNullable parts

/-- Whether one of some expressions can match without any character. -/
def anyNullable : List Regex → Bool
  | [] => false
  | part :: parts => part.nullable || anyNullable parts

end

mutual

/-- Whether an expression never takes a character. -/
def takesNothing : Regex → Bool
  | .empty => true
  | .set _ => false
  | .look _ => true
  | .sequence parts => allTakeNothing parts
  | .choice parts => allTakeNothing parts
  | .repetition _ _ _ inner => inner.takesNothing
  | .capture _ _ inner => inner.takesNothing

/-- Whether none of some expressions ever takes a character. -/
def allTakeNothing : List Regex → Bool
  | [] => true
  | part :: parts => part.takesNothing && allTakeNothing parts

end

/-- A repetition. One of an expression that takes nothing is done at most once; one of no times is
empty, and what it repeats is gone; one of exactly one time is what it repeats. -/
def repeated (min : Nat) (max : Option Nat) (greedy : Bool) (inner : Regex) : Regex :=
  let (min, max) :=
    if inner.takesNothing then (Nat.min min 1, some (Nat.min (max.getD 1) 1)) else (min, max)
  if min = 0 ∧ max = some 0 then .empty
  else if min = 1 ∧ max = some 1 then inner
  else .repetition min max greedy inner

mutual

/-- The groups of an expression, in order, each with its name if it has one. -/
def captures : Regex → List (Nat × Option String)
  | .empty => []
  | .set _ => []
  | .look _ => []
  | .sequence parts => capturesOfParts parts
  | .choice parts => capturesOfParts parts
  | .repetition _ _ _ inner => inner.captures
  | .capture index name inner => (index, name) :: inner.captures

/-- The groups of several expressions. -/
def capturesOfParts : List Regex → List (Nat × Option String)
  | [] => []
  | part :: parts => part.captures ++ capturesOfParts parts

end

/-- The bytes that a state takes. -/
def stateSize : Nat :=
  32

/-- The bytes that a set of characters takes: a state for one character of ASCII, and for more of
them a state with its ways out and one to meet in. Runs beyond ASCII are counted by an estimate, as
if each took two states: the states that they share, or need for their bytes, are not counted one by
one. -/
def setSize (s : CharSet) : Nat :=
  match s.ranges with
  | [(first, last)] =>
    if first = last ∧ last ≤ 0x7F then stateSize else runsSize s.ranges
  | runs => runsSize runs
where
  /-- The bytes that runs of characters take. -/
  runsSize (runs : List (Nat × Nat)) : Nat :=
    2 * stateSize + 8 * (runs.filter (·.1 ≤ 0x7F)).length
      + 2 * stateSize * (runs.filter (0x7F < ·.2)).length

mutual

/-- The bytes that an expression takes when it is compiled into states. A fork is a state with its
ways out. Exact for ASCII, up to states that choices among texts share; beyond ASCII an estimate. -/
def size : Regex → Nat
  | .empty => stateSize
  | .set chars => setSize chars
  | .look _ => stateSize
  | .sequence parts => sizeOfParts parts
  | .choice parts => 2 * stateSize + 4 * parts.length + sizeOfParts parts
  | .repetition min none _ inner => Nat.max min 1 * inner.size + 3 * stateSize
  | .repetition min (some max) _ inner =>
    if min = max then min * inner.size
    else min * inner.size + stateSize + (max - min) * (inner.size + stateSize + 8)
  | .capture _ _ inner => 2 * stateSize + inner.size

/-- The bytes that several expressions take when they are compiled. -/
def sizeOfParts : List Regex → Nat
  | [] => 0
  | part :: parts => part.size + sizeOfParts parts

end

end Regex

end Daybook.Pattern
