import Daybook.Pattern.Named
import Daybook.Pattern.Program

/-!
# Matching

A program is run from one place of a text by following all its threads together, character by
character, in order of preference. A thread that comes to a state where a preferred one has been at
the same place is dropped. A search takes the first place from which there is a match; which match
is preferred there does not depend on where the search began.
-/

namespace Daybook.Pattern

/-- A part of a text between two places, which count characters. -/
structure Span where
  start : Nat
  stop : Nat
deriving DecidableEq, Repr

/-- The characters of a text in a span. -/
def Span.of (s : Span) (text : List Char) : List Char :=
  (text.drop s.start).take (s.stop - s.start)

/-- A match: its span and those of the groups that took part in it. -/
structure Match where
  whole : Span
  groups : List (Option Span)
deriving DecidableEq, Repr

/-- The span of a group, of which number 0 is the whole match. -/
def Match.group? (m : Match) (index : Nat) : Option Span :=
  match index with
  | 0 => some m.whole
  | i + 1 => m.groups[i]?.join

/-! ## Conditions -/

/-- Whether there is a word character. -/
def WordKind.isWord (kind : WordKind) : Option Char → Bool
  | none => false
  | some c =>
    match kind with
    | .unicode => wordSet.contains c
    | .ascii => asciiWordSet.contains c

/-- Whether a condition holds between two characters, of which one or both may be missing. -/
def Look.holds (l : Look) (before after : Option Char) : Bool :=
  match l with
  | .textStart => before.isNone
  | .textEnd => after.isNone
  | .lineStart => before.isNone || before == some '\n'
  | .lineEnd => after.isNone || after == some '\n'
  | .lineStartCrlf =>
    before.isNone || before == some '\n' || (before == some '\r' && after != some '\n')
  | .lineEndCrlf =>
    after.isNone || after == some '\r' || (after == some '\n' && before != some '\r')
  | .boundary kind => kind.isWord before != kind.isWord after
  | .notBoundary kind => kind.isWord before == kind.isWord after
  | .wordStart kind => !kind.isWord before && kind.isWord after
  | .wordEnd kind => kind.isWord before && !kind.isWord after
  | .wordStartHalf kind => !kind.isWord before
  | .wordEndHalf kind => !kind.isWord after

/-! ## Threads -/

/-- The places that a thread has saved so far. -/
abbrev Slots : Type :=
  Array (Option Nat)

/-- A run of a program that has come to a state. -/
structure Thread where
  state : Nat
  slots : Slots

/-- Threads in order of preference, the preferred first when reversed, and the round in which each
state was last entered. -/
structure Front where
  threads : List Thread
  entered : Array Nat

/-- Follows the steps that take no character from the threads of a stack, in order of preference, at
a place in round `round`. -/
def follow (p : Program) (before after : Option Char) (place round : Nat) :
    Nat → List Thread → Front → Front
  | 0, _, front => front
  | _, [], front => front
  | fuel + 1, t :: stack, front =>
    if front.entered[t.state]? == some round then
      follow p before after place round fuel stack front
    else
      let front := { front with entered := front.entered.setIfInBounds t.state round }
      match p.code[t.state]? with
      | none => follow p before after place round fuel stack front
      | some (.choose first second) =>
        follow p before after place round fuel (⟨first, t.slots⟩ :: ⟨second, t.slots⟩ :: stack)
          front
      | some (.save slot next) =>
        follow p before after place round fuel
          (⟨next, t.slots.setIfInBounds slot (some place)⟩ :: stack) front
      | some (.check condition next) =>
        follow p before after place round fuel
          (if condition.holds before after then ⟨next, t.slots⟩ :: stack else stack) front
      | some _ => follow p before after place round fuel stack
          { front with threads := t :: front.threads }

/-- The threads before the first that has come to the end, and what that one has saved. -/
def untilAccept (p : Program) : List Thread → List Thread × Option Slots
  | [] => ([], none)
  | t :: threads =>
    match p.code[t.state]? with
    | some .accept => ([], some t.slots)
    | _ =>
      let (live, found) := untilAccept p threads
      (t :: live, found)

/-- The state behind a character, for threads that can take it. -/
def Thread.take? (p : Program) (c : Char) (t : Thread) : Option Thread :=
  match p.code[t.state]? with
  | some (.consume chars next) => if chars.contains c then some ⟨next, t.slots⟩ else none
  | _ => none

/-- Runs threads over the rest of a text. `best` is what the preferred run that has come to an end
has saved; all threads that are left are preferred to it. -/
def runThreads (p : Program) (place : Nat) (best : Option Slots) (front : Front) :
    List Char → Option Slots
  | [] =>
    let (_, found) := untilAccept p front.threads.reverse
    found <|> best
  | c :: rest =>
    let (live, found) := untilAccept p front.threads.reverse
    let best := found <|> best
    if live.isEmpty then best
    else
      let next := live.filterMap (Thread.take? p c)
      let front := follow p (some c) rest.head? (place + 1) (place + 2)
        (3 * p.code.size + next.length + 1) next ⟨[], front.entered⟩
      runThreads p (place + 1) best front rest

/-- A match from what a run has saved. -/
def Match.ofSlots? (groups : Nat) (slots : Slots) : Option Match :=
  let span (i : Nat) : Option Span :=
    match slots[2 * i]?.join, slots[2 * i + 1]?.join with
    | some start, some stop => some ⟨start, stop⟩
    | _, _ => none
  (span 0).map (fun whole => ⟨whole, (List.range groups).map (fun i => span (i + 1))⟩)

namespace Program

/-- The preferred match that begins at one place: `before` is the character in front of it and
`rest` the text behind it. -/
def matchAt? (p : Program) (before : Option Char) (place : Nat) (rest : List Char) :
    Option Match :=
  let slots : Slots := Array.replicate (2 * (p.groups + 1)) none
  let front := follow p before rest.head? place (place + 1) (3 * p.code.size + 2)
    [⟨p.start, slots⟩] ⟨[], Array.replicate p.code.size 0⟩
  (runThreads p place none front rest).bind (Match.ofSlots? p.groups)

/-- The preferred match at the first place from which there is one. -/
def searchFrom? (p : Program) (before : Option Char) (place : Nat) : List Char → Option Match
  | [] => p.matchAt? before place []
  | c :: rest =>
    match p.matchAt? before place (c :: rest) with
    | some m => some m
    | none => searchFrom? p (some c) (place + 1) rest

/-- The first match of a text at a place or behind it. -/
def search? (p : Program) (text : List Char) (place : Nat) : Option Match :=
  if text.length < place then none
  else p.searchFrom? (if place = 0 then none else text[place - 1]?) place (text.drop place)

end Program

end Daybook.Pattern
