import Daybook.Calendar.Instant
import Daybook.Number.Power
import Daybook.Text.Blank
import Daybook.Text.Bytes

/-!
# Reading dates and instants

A date is a year, a month and a day with hyphens between them; an instant adds a time of day and
the distance from UTC. Blanks are allowed around the parts. Every part is checked as soon as it has
been read, so the first thing wrong is what is reported.
-/

namespace Daybook.Calendar

open Daybook.Number Daybook.Text

/-- Why a text is no date or no instant. -/
inductive Unreadable where
  | invalid | tooShort | outOfRange | trailing | impossible
deriving DecidableEq, Repr

/-- The wording of an `Unreadable`. -/
def Unreadable.message : Unreadable → String
  | .invalid => "input contains invalid characters"
  | .tooShort => "premature end of input"
  | .outOfRange => "input is out of range"
  | .trailing => "trailing input"
  | .impossible => "no possible date and time matching input"

/-- Reads something from the front of a text and gives what follows it. -/
abbrev Scan (α : Type) : Type :=
  StateT (List Char) (Except Unreadable) α

namespace Scan

/-- Stops with an error. -/
def fail (e : Unreadable) : Scan α :=
  throw e

/-- Moves over blanks. -/
def blanks : Scan Unit :=
  modify (·.dropWhile isBlank)

/-- Moves over a character that must be there. -/
def literal (c : Char) : Scan Unit := do
  match ← get with
  | [] => fail .tooShort
  | x :: rest => if x == c then set rest else fail .invalid

/-- The number that decimal digits denote. -/
def number (cs : List Char) : Nat :=
  cs.foldl (fun n c => n * 10 + (c.toNat - 48)) 0

/-- A number of at least one digit and at most `width`. Numbers beyond 63 bits are refused. -/
def digits (width : Option Nat) : Scan (List Char) := do
  match ← get with
  | [] => fail .tooShort
  | rest =>
    let run := rest.takeWhile Char.isDigit
    let ds := match width with
      | some w => run.take w
      | none => run
    if ds.isEmpty then fail .invalid
    else if twoPow 63 ≤ number ds then fail .outOfRange
    else
      set (rest.drop ds.length)
      return ds

/-- A number of one or two digits between two bounds. -/
def twoDigits (low high : Nat) : Scan Nat := do
  blanks
  let n := number (← digits (some 2))
  if low ≤ n ∧ n ≤ high then return n else fail .outOfRange

/-- A year: four digits at most, or any number of digits behind a sign. Years beyond 32 bits are
refused. -/
def year : Scan Int := do
  blanks
  let y : Int ← match ← get with
    | '-' :: rest => do
      set rest
      pure (-(number (← digits none) : Int))
    | '+' :: rest => do
      set rest
      pure (number (← digits none) : Int)
    | _ => do pure (number (← digits (some 4)) : Int)
  if -(twoPow 31 : Int) ≤ y ∧ y < twoPow 31 then return y else fail .outOfRange

/-- The parts of a date, which need not make a date together. -/
def dateParts : Scan (Int × Nat × Nat) := do
  let y ← year
  blanks
  literal '-'
  let m ← twoDigits 1 12
  blanks
  literal '-'
  let d ← twoDigits 1 31
  return (y, m, d)

/-- The nanoseconds behind a decimal point; digits beyond the ninth are dropped. -/
def fraction : Scan Nat := do
  match ← get with
  | '.' :: rest =>
    set rest
    let ds ← digits (some 9)
    modify (·.dropWhile Char.isDigit)
    return number ds * tenPow (9 - ds.length)
  | _ => return 0

/-- A time of day. Second 60 is the leap second. -/
def timeOfDay : Scan TimeOfDay := do
  let h ← twoDigits 0 23
  blanks
  literal ':'
  let m ← twoDigits 0 59
  blanks
  literal ':'
  let s ← twoDigits 0 60
  let n ← fraction
  blanks
  return if s = 60 then ⟨h, m, 59, nanosPerSecond + n⟩ else ⟨h, m, s, n⟩

/-- Two digits of which nothing else is known. -/
def digitPair (highTens : Nat) : Scan Nat := do
  let rest ← get
  if byteLength (rest.take 2) < 2 then fail .tooShort
  else
    match rest with
    | a :: b :: rest =>
      if a.isDigit && b.isDigit then
        if a.toNat - 48 ≤ highTens then
          set rest
          return number [a, b]
        else fail .outOfRange
      else fail .invalid
    | _ => fail .invalid

/-- The distance from UTC in seconds. -/
def offset : Scan Int := do
  match ← get with
  | [] => fail .tooShort
  | c :: rest =>
    if c == 'Z' || c == 'z' then
      set rest
      return 0
    else if (c :: rest.take 2).map Char.toUpper == ['U', 'T', 'C'] then
      set (rest.drop 2)
      return 0
    else
      let sign : Int ←
        if c == '+' then pure 1
        else if c == '-' || c == '\u2212' then pure (-1)
        else fail .invalid
      set rest
      let hours ← digitPair 9
      modify (·.dropWhile (fun c => c == ':' || isBlank c))
      let minutes ← digitPair 5
      return sign * (hours * 3600 + minutes * 60)

/-- What a scan makes of a whole text, of which only blanks may be left. -/
def all (s : Scan α) (text : String) : Except Unreadable α := do
  let (value, rest) ← s.run text.toList
  if rest.all isBlank then return value else throw .trailing

end Scan

/-- The date of parts that were read. -/
def dateOfParts (parts : Int × Nat × Nat) : Except Unreadable Date :=
  match Date.ofParts? parts.1 parts.2.1 parts.2.2 with
  | some d => .ok d
  | none => .error .outOfRange

/-- The date that a text denotes. -/
def Date.parse (text : String) : Except Unreadable Date := do
  dateOfParts (← Scan.dateParts.all text)

/-- An instant, not yet checked, from the front of a text. -/
def Scan.instantParts : Scan ((Int × Nat × Nat) × TimeOfDay × Int) := do
  let parts ← dateParts
  match ← get with
  | [] => fail .tooShort
  | c :: rest => if c == 'T' || c == 't' || c == ' ' then set rest else fail .invalid
  let time ← timeOfDay
  return (parts, time, ← offset)

/-- Checks that an instant has a date in UTC, too. -/
def Instant.check (i : Instant) : Except Unreadable Instant :=
  let day := i.utcSeconds / secondsPerDay
  if Date.minDayNumber ≤ day ∧ day ≤ Date.maxDayNumber then .ok i else .error .impossible

/-- The instant that a text denotes. The distance from UTC must be less than a day. -/
def Instant.parse (text : String) : Except Unreadable Instant := do
  let (parts, time, offset) ← Scan.instantParts.all text
  let date ← dateOfParts parts
  if offset.natAbs < secondsPerDay then Instant.check ⟨date, time, offset⟩
  else throw .outOfRange

end Daybook.Calendar
