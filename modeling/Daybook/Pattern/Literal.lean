import Daybook.Error
import Daybook.Pattern.FixedText
import Daybook.Pattern.Match
import Daybook.Pattern.Reader
import Daybook.Pattern.Resolve
import Daybook.Text.Bytes
import Daybook.Limits

/-!
# Pattern literals

A literal is a pattern between slashes with flags behind it. The last slash ends the pattern; inside
it a slash may be written with a backslash before it.
-/

namespace Daybook.Pattern

open Daybook.Text

/-! ## Slashes -/

/-- A pattern with every escaped slash made plain, with those before in reverse. Characters are read
in pairs from a backslash on, so the slash behind an escaped backslash is left alone. -/
def unescapeOnto (done : List Char) : List Char → List Char
  | [] => done.reverse
  | '\\' :: '/' :: rest => unescapeOnto ('/' :: done) rest
  | '\\' :: c :: rest => unescapeOnto (c :: '\\' :: done) rest
  | c :: rest => unescapeOnto (c :: done) rest

/-- A pattern with every escaped slash made plain. -/
def unescapeSlashes (cs : List Char) : List Char :=
  unescapeOnto [] cs

/-! ## Flags -/

/-- The flags behind a literal. -/
structure Flags where
  isGlobal : Bool
  ignoreCase : Bool
  multiLine : Bool
  dotAll : Bool
deriving DecidableEq, Repr

namespace Flags

/-- No flag at all. -/
def none : Flags :=
  ⟨false, false, false, false⟩

/-- The letters that are flags. `u` is one, too, but changes nothing. -/
def letters : List Char :=
  ['g', 'i', 'm', 's', 'u']

/-- The first thing wrong with the letters behind a literal, of which those in `seen` came before. -/
def firstFault (seen : List Char) : List Char → Option PatternFault
  | [] => .none
  | c :: cs =>
    if c = 'y' then some .sticky
    else if !letters.contains c then some (.unknownFlag c)
    else if seen.contains c then some (.duplicateFlag c)
    else firstFault (c :: seen) cs

/-- The flags that letters set. -/
def ofLetters (cs : List Char) : Flags :=
  ⟨cs.contains 'g', cs.contains 'i', cs.contains 'm', cs.contains 's'⟩

/-- Reads flags. -/
def parse (cs : List Char) : Except PatternFault Flags :=
  match firstFault [] cs with
  | some fault => .error fault
  | .none => .ok (ofLetters cs)

/-- The letters of the flags that are set, in a fixed order. -/
def toLetters (f : Flags) : List Char :=
  (if f.isGlobal then ['g'] else []) ++ (if f.ignoreCase then ['i'] else []) ++
    (if f.multiLine then ['m'] else []) ++ (if f.dotAll then ['s'] else [])

/-- What the flags make of a pattern. -/
def modes (f : Flags) : Modes where
  ignoreCase := f.ignoreCase
  multiLine := f.multiLine
  dotAll := f.dotAll
  swapGreed := false
  unicode := true
  crlf := false

end Flags

/-! ## Compiling -/

/-- A compiled pattern: its program and the names of its groups, the whole match included. -/
structure Compiled where
  program : Program
  names : List (Option String)
deriving Repr

/-- The names of the groups of an expression, the whole match included. -/
def Regex.names (r : Regex) : List (Option String) :=
  none :: (List.range r.groupCount).map (fun i =>
    ((r.captures.find? (fun g => g.1 == i + 1)).map (·.2)).join)

/-- The expression that a pattern denotes under flags. -/
def regex? (flags : Flags) (pattern : List Char) : Option Regex := do
  let (r, _) ← (← Expr.parse? pattern).resolve? flags.modes
  return r

/-- The bytes that an expression takes once it is compiled, with the states that begin and end a
match and those that go over the text in front of it. As `Regex.size` is an estimate beyond ASCII,
so is this: an expression close to the limit may be taken that is refused elsewhere, or the other
way round. -/
def compiledSize (r : Regex) : Nat :=
  if r.isFixed then 0 else r.size + 6 * Regex.stateSize + 16

/-- Compiles a pattern, unless it is malformed or takes more than `maxSize` bytes. -/
def compile (flags : Flags) (maxSize : Nat) (pattern : List Char) :
    Except PatternFault Compiled :=
  match regex? flags pattern with
  | none => .error .malformed
  | some r =>
    if maxSize < compiledSize r then .error .tooLarge
    else .ok ⟨Program.ofRegex r, r.names⟩

/-- A compiled literal, with its flags and its text. -/
structure Literal where
  compiled : Compiled
  flags : Flags
  text : String
deriving Repr

namespace Literal

/-- The parts of a text before and behind its last slash. -/
def splitLast? (cs : List Char) : Option (List Char × List Char) :=
  let flags := (cs.reverse.takeWhile (· != '/')).reverse
  if flags.length = cs.length then none
  else some (cs.take (cs.length - flags.length - 1), flags)

/-- The pattern and the flags of a literal, not yet read. -/
def parts (cs : List Char) : Except PatternFault (List Char × List Char) :=
  match cs with
  | '/' :: body =>
    match splitLast? body with
    | some parts => .ok parts
    | none => .error .noClosing
  | _ => .error .noOpening

/-- Reads and compiles what stands in a literal. -/
def read (maxSize : Nat) (cs : List Char) : Except PatternFault (Flags × Compiled) := do
  let (pattern, letters) ← parts cs
  let flags ← Flags.parse letters
  return (flags, ← compile flags maxSize (unescapeSlashes pattern))

/-- Accepts a literal that is no longer than the limits allow. -/
def checkLength (limits : Limits) (text : String) : Except Error Unit :=
  if limits.maxPatternLength < size text then .error (.limit (.literalBytes (size text)))
  else .ok ()

/-- The compiled form of a literal. -/
def parse (limits : Limits) (text : String) : Except Error Literal := do
  checkLength limits text
  let (flags, compiled) ← (read limits.maxRegexSize text.toList).mapError (.pattern text)
  return ⟨compiled, flags, text⟩

/-- Where a search goes on behind a match: at its end, one character further if it is empty. -/
def resume (m : Match) : Nat :=
  if m.whole.stop = m.whole.start then m.whole.stop + 1 else m.whole.stop

/-- The matches that a repeated search finds from a place on, in a text of the given length. -/
def matchesFrom (search : Nat → Option Match) (length place : Nat) : List Match :=
  if _ended : length < place then []
  else
    match search place with
    | none => []
    | some m =>
      if _forward : place < resume m then m :: matchesFrom search length (resume m) else [m]
termination_by length + 1 - place
decreasing_by omega

/-- The matches of a literal: all of them if it is global, otherwise the first. -/
def allMatches (l : Literal) (text : List Char) : List Match :=
  let search := l.compiled.program.search? text
  if l.flags.isGlobal then matchesFrom search text.length 0 else (search 0).toList

end Literal

end Daybook.Pattern
