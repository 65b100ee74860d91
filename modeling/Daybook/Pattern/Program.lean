import Daybook.Pattern.Regex

/-!
# Programs

Regular expressions compiled to numbered instructions. An instruction names those that follow it;
of two that follow a choice, the first is preferred.
-/

namespace Daybook.Pattern

/-- One step of a program. Slots hold places: slots `2 * i` and `2 * i + 1` the ends of group `i`. -/
inductive Instruction where
  | accept
  | consume (chars : CharSet) (next : Nat)
  | check (condition : Look) (next : Nat)
  | save (slot : Nat) (next : Nat)
  | choose (first second : Nat)
deriving Repr, Inhabited

/-- Instructions under their numbers. -/
abbrev Code : Type :=
  Array Instruction

/-- An instruction added at the end, with its number. -/
def emit (i : Instruction) (code : Code) : Nat × Code :=
  (code.size, code.push i)

/-- A choice between a body and what follows; a greedy one prefers the body. -/
def branch (greedy : Bool) (body next : Nat) : Instruction :=
  if greedy then .choose body next else .choose next body

/-- What compiles an expression in front of an instruction: takes the number of that and gives the
number to begin with. -/
abbrev Compile : Type :=
  Nat → Code → Nat × Code

/-- A body once or more often. -/
def compilePlus (greedy : Bool) (body : Compile) : Compile :=
  fun next code =>
    let (again, code) := emit .accept code
    let (start, code) := body again code
    (start, code.setIfInBounds again (branch greedy start next))

/-- A body any number of times. One that can match nothing is entered through a choice of its own,
so that the order of preference stays right. -/
def compileStar (greedy nullable : Bool) (body : Compile) : Compile :=
  fun next code =>
    if nullable then
      let (start, code) := compilePlus greedy body next code
      emit (branch greedy start next) code
    else
      let (again, code) := emit .accept code
      let (start, code) := body again code
      (again, code.setIfInBounds again (branch greedy start next))

/-- A body a number of times, then something else. -/
def compileCopies (body last : Compile) : Nat → Compile
  | 0 => last
  | n + 1 => fun next code =>
    let (start, code) := compileCopies body last n next code
    body start code

/-- A body at most a number of times; each time is a choice between one more and the end. -/
def compileUpTo (greedy : Bool) (body : Compile) : Nat → Compile
  | 0 => fun next code => (next, code)
  | n + 1 => fun next code =>
    let (rest, code) := compileUpTo greedy body n next code
    let (start, code) := body rest code
    emit (branch greedy start next) code

/-- A body as often as a repetition says. -/
def compileRepetition (min : Nat) (max : Option Nat) (greedy nullable : Bool) (body : Compile) :
    Compile :=
  match max, min with
  | none, 0 => compileStar greedy nullable body
  | none, n + 1 => compileCopies body (compilePlus greedy body) n
  | some m, n => compileCopies body (compileUpTo greedy body (m - n)) n

mutual

/-- Compiles an expression. -/
def Regex.compile : Regex → Compile
  | .empty => fun next code => (next, code)
  | .set chars => fun next => emit (.consume chars next)
  | .look condition => fun next => emit (.check condition next)
  | .sequence parts => Regex.compileSequence parts
  | .choice parts => Regex.compileChoice parts
  | .repetition min max greedy inner =>
    compileRepetition min max greedy inner.nullable inner.compile
  | .capture index _ inner => fun next code =>
    let (stop, code) := emit (.save (2 * index + 1) next) code
    let (start, code) := inner.compile stop code
    emit (.save (2 * index) start) code

/-- Compiles expressions that follow each other. -/
def Regex.compileSequence : List Regex → Compile
  | [] => fun next code => (next, code)
  | part :: parts => fun next code =>
    let (start, code) := Regex.compileSequence parts next code
    part.compile start code

/-- Compiles alternatives, of which earlier ones are preferred. -/
def Regex.compileChoice : List Regex → Compile
  | [] => fun _ code => emit (.consume .empty 0) code
  | [part] => fun next code => part.compile next code
  | part :: parts => fun next code =>
    let (others, code) := Regex.compileChoice parts next code
    let (start, code) := part.compile next code
    emit (.choose start others) code

end

/-- A compiled expression: its instructions, the one to begin with, and the number of its groups
without the whole match. -/
structure Program where
  code : Code
  start : Nat
  groups : Nat
deriving Repr

/-- The number of the last group of an expression. -/
def Regex.groupCount (r : Regex) : Nat :=
  r.captures.foldl (fun n g => Nat.max n g.1) 0

/-- The program of an expression; the whole match is its group 0. -/
def Program.ofRegex (r : Regex) : Program :=
  let (accept, code) := emit .accept #[]
  let (start, code) := (Regex.capture 0 none r).compile accept code
  ⟨code, start, r.groupCount⟩

end Daybook.Pattern
