import Daybook.Json.Fault

/-!
# Reading words, texts and numbers

The small readers of a JSON text. An outcome is a value with the cursor behind it, or a fault, or a
refusal: a problem that a record raises itself and that gets its place from the container around.
-/

namespace Daybook.Json

open Daybook.Number

/-- What reading gives. -/
inductive Outcome (α : Type) where
  | done (value : α) (behind : Cursor)
  | refused (problem : Problem) (seen : Cursor)
  | failed (fault : Fault)

/-- Reads a value from a cursor on. -/
def Reader (α : Type) : Type :=
  Cursor → Outcome α

namespace Reader

/-- Reads nothing. -/
def done (value : α) : Reader α :=
  fun c => .done value c

/-- Reads one thing after the other. -/
def andThen (r : Reader α) (f : α → Reader β) : Reader β :=
  fun c => match r c with
    | .done value behind => f value behind
    | .refused problem seen => .refused problem seen
    | .failed fault => .failed fault

instance : Monad Reader where
  pure := done
  bind := andThen

/-- A problem that is noticed before the next byte. -/
def failHere (problem : Problem) : Reader α :=
  fun c => .failed ⟨problem, c.place⟩

/-- A problem that is noticed at the next byte, which counts as read. -/
def failNext (problem : Problem) : Reader α :=
  fun c => .failed ⟨problem, c.nextPlace⟩

/-- A problem that the container around places. -/
def refuse (problem : Problem) : Reader α :=
  fun c => .refused problem c

/-- The next character, which stays where it is. -/
def peek : Reader (Option Char) :=
  fun c => .done c.rest.head? c

/-- Moves over the next character. -/
def skip : Reader Unit :=
  fun c => .done () c.next

/-- Moves over blanks and gives the character behind them. -/
def peekSolid : Reader (Option Char) :=
  fun c => .done c.skipSpace.rest.head? c.skipSpace

end Reader

open Reader

/-! ## Words -/

/-- The rest of `null`, `true` or `false`. -/
def readWord : List Char → Reader Unit
  | [] => done ()
  | x :: xs => do
    match ← peek with
    | none => failHere .endInValue
    | some c => if c == x then skip; readWord xs else failNext .expectedWord

/-! ## Texts -/

/-- The value of a hexadecimal digit. -/
def hexValue? (c : Char) : Option Nat :=
  if c.isDigit then some (c.toNat - 48)
  else if 'a' ≤ c && c ≤ 'f' then some (c.toNat - 87)
  else if 'A' ≤ c && c ≤ 'F' then some (c.toNat - 55)
  else none

/-- The number that hexadecimal digits denote. -/
def hexNumber? (cs : List Char) : Option Nat :=
  cs.foldl (fun n c => match n, hexValue? c with
    | some n, some d => some (n * 16 + d)
    | _, _ => none) (some 0)

/-- The end of a text, where no cursor has anything left. -/
def Cursor.finish (c : Cursor) : Cursor :=
  Cursor.skipWhile (fun _ => true) c.rest c.place c.size

/-- The four digits of an escape. Fewer than four bytes are the end of the text; four bytes that are
not all digits count as read. -/
def readHex4 : Reader Nat :=
  fun c => match c.rest with
    | x1 :: x2 :: x3 :: x4 :: _ =>
      match hexNumber? [x1, x2, x3, x4] with
      | some n => .done n c.next.next.next.next
      | none => .failed ⟨.invalidEscape, c.place.advance c.rest 4⟩
    | rest =>
      if rest.foldl (fun n x => n + x.utf8Size) 0 < 4 then
        .failed ⟨.endInString, c.finish.place⟩
      else .failed ⟨.invalidEscape, c.place.advance c.rest 4⟩

/-- A character that must come next inside an escape. -/
def readEscapePart (x : Char) : Reader Unit := do
  match ← peek with
  | none => failHere .endInString
  | some c => if c == x then skip else failNext .shortSurrogate

/-- The character that the digits of an escape stand for; two escapes together may stand for one. -/
def readCodeUnit : Reader Char := do
  let n ← readHex4
  if 0xDC00 ≤ n && n ≤ 0xDFFF then failHere .loneSurrogate
  else if n < 0xD800 || 0xDBFF < n then done (Char.ofNat n)
  else
    readEscapePart '\\'
    readEscapePart 'u'
    let m ← readHex4
    if m < 0xDC00 || 0xDFFF < m then failHere .loneSurrogate
    else done (Char.ofNat ((n - 0xD800) * 0x400 + (m - 0xDC00) + 0x10000))

/-- The character that an escape stands for, from behind its backslash on. -/
def readEscape : Reader Char := do
  match ← peek with
  | none => failHere .endInString
  | some c =>
    match c with
    | '"' => skip; done '"'
    | '\\' => skip; done '\\'
    | '/' => skip; done '/'
    | 'b' => skip; done '\x08'
    | 'f' => skip; done '\x0C'
    | 'n' => skip; done '\n'
    | 'r' => skip; done '\r'
    | 't' => skip; done '\t'
    | 'u' => skip; readCodeUnit
    | _ => failNext .invalidEscape

/-- A text up to its closing quote, with the characters read so far in reverse. -/
def readStringFrom : Nat → List Char → Reader String
  | 0, _, c => failHere .endInString c
  | fuel + 1, passed, c =>
    match c.rest with
    | [] => failHere .endInString c
    | '"' :: _ => .done (String.ofList passed.reverse) c.next
    | '\\' :: _ =>
      match readEscape c.next with
      | .done x behind => readStringFrom fuel (x :: passed) behind
      | .refused problem seen => .refused problem seen
      | .failed fault => .failed fault
    | x :: _ =>
      if x.toNat < 0x20 then failNext .controlCharacter c
      else readStringFrom fuel (x :: passed) c.next

/-- A text, from behind its opening quote on. -/
def readString : Reader String :=
  fun c => readStringFrom c.bound [] c

/-- Moves over the rest of an escape whose meaning does not matter. -/
def skipEscape : Reader Unit := do
  match ← peek with
  | none => failHere .endInString
  | some c =>
    if c == 'u' then do skip; let _ ← readHex4
    else if "\"\\/bfnrt".toList.contains c then skip
    else failNext .invalidEscape

/-- Moves over a text whose content does not matter, from behind its opening quote on. -/
def skipStringFrom : Nat → Reader Unit
  | 0, c => failHere .endInString c
  | fuel + 1, c =>
    match c.rest with
    | [] => failHere .endInString c
    | '"' :: _ => .done () c.next
    | '\\' :: _ =>
      match skipEscape c.next with
      | .done _ behind => skipStringFrom fuel behind
      | .refused problem seen => .refused problem seen
      | .failed fault => .failed fault
    | x :: _ => if x.toNat < 0x20 then failHere .controlCharacter c else skipStringFrom fuel c.next

/-- Moves over a text, from behind its opening quote on. -/
def skipString : Reader Unit :=
  fun c => skipStringFrom c.bound c

/-! ## Numbers -/

/-- The largest integer without a sign. -/
def maxNatural : Nat :=
  twoPow 64 - 1

/-- Appends digits to a significand while it stays within 64 bits; the first digit that does not fit
and all behind it are dropped. Gives the number of digits used, too. -/
def appendDigits (significand used : Nat) : List Char → Nat × Nat
  | [] => (significand, used)
  | c :: cs =>
    let n := significand * 10 + (c.toNat - 48)
    if maxNatural < n then (significand, used) else appendDigits n (used + 1) cs

/-- `significand * 10 ^ exponent` with one rounding for the significand and one for the scaling; a
scale below the range is applied in steps of 308 places. `none` when it is too large. -/
def scale? : Nat → Binary64 → Int → Option Binary64
  | 0, x, _ => some x
  | fuel + 1, x, exponent =>
    if exponent.natAbs ≤ 308 then
      let power := Binary64.ofInt (tenPow exponent.natAbs)
      if 0 ≤ exponent then
        let y := x.mul power
        if y.isFinite then some y else none
      else some (x.div power)
    else if x.isZero then some x
    else if 0 ≤ exponent then none
    else scale? fuel (x.div (Binary64.ofInt (tenPow 308))) (exponent + 308)

/-- The parts of a written number. -/
structure Literal where
  negative : Bool
  whole : List Char
  fraction : List Char
  exponent : Int
  isFloat : Bool

namespace Literal

/-- The significand of a number and its decimal exponent. -/
def parts (l : Literal) : Nat × Int :=
  let (s, used) := appendDigits 0 0 l.whole
  let (t, usedFraction) := appendDigits s 0 l.fraction
  (t, (l.whole.length : Int) - used - usedFraction + l.exponent)

/-- The number, unless it is out of range. Scaling down takes few steps: each divides by 1e308. -/
def value? (l : Literal) : Option Number :=
  let (s, e) := l.parts
  let asFloat := (scale? 8 (Binary64.ofInt s) e).map (fun x =>
    .float (if l.negative then x.neg else x))
  if l.isFloat || e != 0 then asFloat
  else if l.negative && (s == 0 || twoPow 63 < s) then some (.float (Binary64.ofInt s).neg)
  else some (.integer (if l.negative then -s else s))

end Literal

/-- Digits, of which there is at least one. -/
def readDigits (missing : Reader (List Char)) : Reader (List Char) :=
  fun c => match c.digits with
    | ([], _) => missing c
    | (ds, behind) => .done ds behind

/-- What is wrong when a digit was wanted. -/
def wantDigit : Reader α := do
  match ← peek with
  | none => failHere .endInValue
  | some _ => failNext .invalidNumber

/-- The digits before the point: a zero stands alone. -/
def readWhole : Reader (List Char) := do
  match ← peek with
  | some '0' => do
    skip
    match ← peek with
    | some c => if c.isDigit then failNext .invalidNumber else done ['0']
    | none => done ['0']
  | _ => readDigits wantDigit

/-- The largest exponent that is told apart. -/
def maxExponent : Nat :=
  twoPow 31 - 1

/-- The number that decimal digits denote. -/
def decimalNumber (cs : List Char) : Nat :=
  cs.foldl (fun n c => n * 10 + (c.toNat - 48)) 0

/-- How many digits it takes until their number is above `maxExponent`. -/
def digitsUntilTooLarge (n used : Nat) : List Char → Option Nat
  | [] => none
  | c :: cs =>
    let m := n * 10 + (c.toNat - 48)
    if maxExponent < m then some (used + 1) else digitsUntilTooLarge m (used + 1) cs

/-- The exponent of a number from behind its `e` on, for a significand that is zero or not. An
exponent too large to tell apart makes a number too large as soon as that is clear, or else zero. -/
def readExponent (isZero : Bool) : Reader (Option Int) := do
  let sign ← peek
  match sign with
  | some '+' => skip
  | some '-' => skip
  | _ => done ()
  let start : Cursor ← fun c => .done c c
  let ds ← readDigits wantDigit
  match digitsUntilTooLarge 0 0 ds with
  | some used =>
    if !isZero && sign != some '-' then
      fun _ => .failed ⟨.numberOutOfRange, start.place.advance start.rest used⟩
    else done none
  | none =>
    let n : Int := decimalNumber ds
    done (some (if sign == some '-' then -n else n))

/-- A number from its first digit on. -/
def readNumber (negative : Bool) : Reader Number := do
  let whole ← readWhole
  let fraction ← do
    match ← peek with
    | some '.' => do skip; done (some (← readDigits wantDigit))
    | _ => done none
  let digits := fraction.getD []
  let mark ← peek
  if mark == some 'e' || mark == some 'E' then
    skip
    let bare : Literal := ⟨negative, whole, digits, 0, true⟩
    match ← readExponent (bare.parts.1 == 0) with
    | none => done (.float ⟨negative, 0⟩)
    | some e =>
      match { bare with exponent := e }.value? with
      | some n => done n
      | none => failHere .numberOutOfRange
  else
    match Literal.value? ⟨negative, whole, digits, 0, fraction.isSome⟩ with
    | some n => done n
    | none => failHere .numberOutOfRange

/-- Moves over a number whose value does not matter, from its first digit on. -/
def skipNumber : Reader Unit := do
  let _ ← do
    match ← peek with
    | some _ => readWhole
    | none => failHere .invalidNumber
  if (← peek) == some '.' then
    skip
    let _ ← readDigits (failNext .invalidNumber)
  let mark ← peek
  if mark == some 'e' || mark == some 'E' then
    skip
    let sign ← peek
    if sign == some '+' || sign == some '-' then skip
    let _ ← readDigits (failNext .invalidNumber)

end Daybook.Json
