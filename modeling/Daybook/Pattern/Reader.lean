import Daybook.Pattern.Expr
import Daybook.Pattern.Named
import Daybook.Number.Power
import Daybook.Text.Blank

/-!
# Reading patterns

A reader for the text of a pattern. It gives nothing for a text that is no pattern; which of several
faults a text has is not told. In verbose mode blanks and comments between the parts are skipped.
-/

namespace Daybook.Pattern

open Daybook.Number Daybook.Text

/-- What is left of a pattern, whether blanks are skipped, how many groups were opened, and the
names given to groups so far. -/
structure Source where
  rest : List Char
  verbose : Bool
  groups : Nat
  names : List String

/-- Reads a part of a pattern. -/
abbrev Scanner (α : Type) : Type :=
  StateT Source Option α

/-- A text without the blanks and comments at its front; `inComment` tells whether a comment has
begun. -/
def dropComments (inComment : Bool) : List Char → List Char
  | [] => []
  | c :: cs =>
    if inComment then dropComments (c != '\n') cs
    else if isBlank c then dropComments false cs
    else if c == '#' then dropComments true cs
    else c :: cs

namespace Scanner

/-- The text is no pattern. -/
def refuse : Scanner α :=
  failure

/-- Goes on only if a condition holds. -/
def require (condition : Bool) : Scanner Unit :=
  if condition then pure () else refuse

/-- The next character. -/
def peek : Scanner (Option Char) :=
  return (← get).rest.head?

/-- The next character, which there must be. -/
def char : Scanner Char := do
  match ← peek with
  | some c => return c
  | none => refuse

/-- Moves over one character. -/
def bump : Scanner Unit :=
  modify (fun s => { s with rest := s.rest.drop 1 })

/-- Moves over blanks and comments in verbose mode. -/
def skipBlanks : Scanner Unit :=
  modify (fun s => if s.verbose then { s with rest := dropComments false s.rest } else s)

/-- Moves over one character and what blanks follow it. -/
def bumpOver : Scanner Unit := do
  bump
  skipBlanks

/-- Moves over one character and blanks; something must be left. -/
def bumpTo : Scanner Unit := do
  bumpOver
  let _ ← char

/-- The character behind the next one, blanks left out in verbose mode. -/
def peekSecond : Scanner (Option Char) := do
  let s ← get
  let behind := s.rest.drop 1
  if s.verbose then
    match behind.dropWhile isBlank with
    | '#' :: cs => return (cs.dropWhile isBlank).head?
    | cs => return cs.head?
  else return behind.head?

/-- Moves over a text if it comes next, and tells whether it did. -/
def bumpIf (text : String) : Scanner Bool := do
  let s ← get
  if text.toList.isPrefixOf s.rest then
    set { s with rest := s.rest.drop text.length }
    return true
  else return false

/-- Moves over characters that satisfy `p` and the blanks between them. -/
def collect (p : Char → Bool) : Nat → List Char → Scanner (List Char)
  | 0, _ => refuse
  | fuel + 1, taken => do
    match ← peek with
    | some c =>
      if p c then do
        bumpOver
        collect p fuel (c :: taken)
      else return taken.reverse
    | none => return taken.reverse

/-- A bound for the steps of a loop that moves on in each of them. -/
def bound : Scanner Nat :=
  return (← get).rest.length + 1

end Scanner

open Scanner

/-! ## Escapes -/

/-- The characters that mean something outside of brackets or inside. -/
def isMeta (c : Char) : Bool :=
  "\\.+*?()|[]\x7b\x7d^$#&-~".toList.contains c

/-- Whether a backslash may stand before a character that means itself. -/
def isEscapable (c : Char) : Bool :=
  isMeta c || (c.toNat < 0x80 && !c.isAlphanum && c != '<' && c != '>')

/-- Whether a character is a hexadecimal digit. -/
def isHexDigit (c : Char) : Bool :=
  c.isDigit || ('a' ≤ c && c ≤ 'f') || ('A' ≤ c && c ≤ 'F')

/-- The character whose code point hexadecimal digits denote. -/
def hexChar? (ds : List Char) : Option Char :=
  let n := ds.foldl (fun n c =>
    n * 16 + (if c.isDigit then c.toNat - 48 else c.toLower.toNat - 87)) 0
  if ds.isEmpty then none
  else if n < 0xD800 ∨ (0xDFFF < n ∧ n < 0x110000) then some (Char.ofNat n)
  else none

/-- A fixed number of hexadecimal digits. -/
def hexDigits : Nat → Scanner (List Char)
  | 0 => return []
  | n + 1 => do
    let c ← char
    require (isHexDigit c)
    bumpOver
    return c :: (← hexDigits n)

/-- A character by its code point, from the letter on that says how many digits there are. -/
def hexLiteral (count : Nat) : Scanner CharLiteral := do
  bumpTo
  if (← char) == '{' then
    bumpTo
    let ds ← collect isHexDigit (← bound) []
    require ((← char) == '}')
    bumpOver
    return ⟨← hexChar? ds, false⟩
  else
    return ⟨← hexChar? (← hexDigits count), count == 2⟩

/-- The parts of a text around the first place where a separator stands. -/
def splitAt? (separator : List Char) (passed : List Char) :
    List Char → Option (List Char × List Char)
  | [] => none
  | c :: cs =>
    if separator.isPrefixOf (c :: cs) then
      some (passed.reverse, (c :: cs).drop separator.length)
    else splitAt? separator (c :: passed) cs

/-- The property that the text between braces denotes, and whether that text negates it. -/
def propertyOfText (cs : List Char) : PropertyName × Bool :=
  let named (parts : List Char × List Char) : PropertyName :=
    ⟨String.ofList parts.1, some (String.ofList parts.2)⟩
  match splitAt? ['!', '='] [] cs with
  | some parts => (named parts, true)
  | none =>
    match splitAt? [':'] [] cs with
    | some parts => (named parts, false)
    | none =>
      match splitAt? ['='] [] cs with
      | some parts => (named parts, false)
      | none => (⟨String.ofList cs, none⟩, false)

/-- A property from its letter on. -/
def propertyEscape (negated : Bool) : Scanner (PropertyName × Bool) := do
  bumpTo
  let c ← char
  if c == '{' then
    bumpOver
    let cs ← collect (· != '}') (← bound) []
    require ((← char) == '}')
    bump
    let (name, reversed) := propertyOfText cs
    return (name, negated != reversed)
  else
    require (c != '\\')
    bumpOver
    return (⟨c.toString, none⟩, negated)

/-- The condition that a name between braces behind `\b` denotes. -/
def boundaryOfName? (name : List Char) : Option Anchor :=
  match String.ofList name with
  | "start" => some .wordStart
  | "end" => some .wordEnd
  | "start-half" => some .wordStartHalf
  | "end-half" => some .wordEndHalf
  | _ => none

/-- A word boundary from behind its `b` on. Braces with a name belong to it; braces with anything
else are left for a repetition. -/
def wordBoundary : Scanner Anchor := do
  let isNameChar (c : Char) : Bool := c.isAlpha || c == '-'
  if (← peek) == some '{' then
    let before ← get
    bumpTo
    if isNameChar (← char) then
      let name ← collect isNameChar (← bound) []
      require ((← char) == '}')
      bump
      boundaryOfName? name
    else
      set before
      return .wordBoundary
  else return .wordBoundary

/-- What a backslash and what follows it can denote. -/
inductive Escape where
  | literal (c : CharLiteral)
  | anchor (kind : Anchor)
  | shorthand (kind : Shorthand) (negated : Bool)
  | property (name : PropertyName) (negated : Bool)

/-- An escape from its backslash on. -/
def escape : Scanner Escape := do
  bump
  let c ← char
  match c with
  | 'x' => return .literal (← hexLiteral 2)
  | 'u' => return .literal (← hexLiteral 4)
  | 'U' => return .literal (← hexLiteral 8)
  | 'p' => let (name, negated) ← propertyEscape false; return .property name negated
  | 'P' => let (name, negated) ← propertyEscape true; return .property name negated
  | _ =>
    bump
    match c with
    | 'd' => return .shorthand .digit false
    | 'D' => return .shorthand .digit true
    | 's' => return .shorthand .space false
    | 'S' => return .shorthand .space true
    | 'w' => return .shorthand .word false
    | 'W' => return .shorthand .word true
    | 'a' => return .literal ⟨'\x07', false⟩
    | 'f' => return .literal ⟨'\x0C', false⟩
    | 't' => return .literal ⟨'\t', false⟩
    | 'n' => return .literal ⟨'\n', false⟩
    | 'r' => return .literal ⟨'\r', false⟩
    | 'v' => return .literal ⟨'\x0B', false⟩
    | 'A' => return .anchor .textStart
    | 'z' => return .anchor .textEnd
    | 'b' => return .anchor (← wordBoundary)
    | 'B' => return .anchor .notWordBoundary
    | '<' => return .anchor .wordStart
    | '>' => return .anchor .wordEnd
    | c => do
      require (isEscapable c)
      return .literal ⟨c, false⟩

/-! ## Classes -/

/-- A class such as `[:alpha:]` if one comes next; otherwise nothing is read. -/
def namedClass? : Scanner (Option ClassExpr) := do
  let s ← get
  match s.rest with
  | '[' :: ':' :: cs =>
    let (negated, cs) := match cs with
      | '^' :: cs => (true, cs)
      | cs => (false, cs)
    let name := String.ofList (cs.takeWhile (· != ':'))
    match cs.dropWhile (· != ':') with
    | ':' :: ']' :: rest =>
      if (asciiClass? name).isSome then
        set { s with rest := rest }
        return some (.ascii name negated)
      else return none
    | _ => return none
  | _ => return none

/-- One character or one escape inside brackets. -/
def classItem : Scanner Escape := do
  let c ← char
  if c == '\\' then escape
  else
    bump
    return .literal ⟨c, false⟩

/-- An escape that stands for characters. -/
def Escape.toClass : Escape → Scanner ClassExpr
  | .literal c => return .literal c
  | .shorthand kind negated => return .shorthand kind negated
  | .property name negated => return .property name negated
  | .anchor _ => refuse

/-- An escape that stands for one character. -/
def Escape.toLiteral : Escape → Scanner CharLiteral
  | .literal c => return c
  | _ => refuse

/-- A character, an escape, or a range between two characters. -/
def classRange : Scanner ClassExpr := do
  let first ← classItem
  skipBlanks
  let c ← char
  let second ← peekSecond
  if c != '-' || second == some ']' || second == some '-' then first.toClass
  else
    bumpTo
    let last ← classItem
    let low ← first.toLiteral
    let high ← last.toLiteral
    require (low.char ≤ high.char)
    return .range low high

/-- Hyphens at the front of a class, which mean themselves. -/
def leadingHyphens : Nat → List ClassExpr → Scanner (List ClassExpr)
  | 0, _ => refuse
  | fuel + 1, items => do
    if (← char) == '-' then
      bumpTo
      leadingHyphens fuel (.literal ⟨'-', false⟩ :: items)
    else return items

/-- What is left of a combination of sets when its right side is known. -/
def closeCombination (pending : Option (SetOperator × ClassExpr)) (items : List ClassExpr) :
    ClassExpr :=
  let right := ClassExpr.ofItems items.reverse
  match pending with
  | none => right
  | some (operator, left) => .combine operator left right

/-- The operator that comes next inside brackets. -/
def setOperator? : List Char → Option SetOperator
  | '&' :: '&' :: _ => some .intersection
  | '-' :: '-' :: _ => some .difference
  | '~' :: '~' :: _ => some .symmetricDifference
  | _ => none

mutual

/-- A class from its opening bracket on. -/
def brackets : Nat → Scanner ClassExpr
  | 0 => refuse
  | fuel + 1 => do
    bumpTo
    let negated := (← char) == '^'
    if negated then bumpTo
    let hyphens ← leadingHyphens (← bound) []
    if hyphens.isEmpty && (← char) == ']' then
      bumpTo
      return .brackets negated (← bracketsFrom fuel none [.literal ⟨']', false⟩])
    else
      return .brackets negated (← bracketsFrom fuel none hyphens)

/-- The rest of a class: `items` are those of the set at hand, in reverse, and `pending` is an
operator that waits for that set with what is on its left. -/
def bracketsFrom : Nat → Option (SetOperator × ClassExpr) → List ClassExpr → Scanner ClassExpr
  | 0, _, _ => refuse
  | fuel + 1, pending, items => do
    skipBlanks
    let c ← char
    if c == '[' then
      match ← namedClass? with
      | some item => bracketsFrom fuel pending (item :: items)
      | none => do
        let inner ← brackets fuel
        bracketsFrom fuel pending (inner :: items)
    else if c == ']' then
      bump
      return closeCombination pending items
    else
      match setOperator? (← get).rest with
      | some operator =>
        bump
        bump
        bracketsFrom fuel (some (operator, closeCombination pending items)) []
      | none => do
        let item ← classRange
        bracketsFrom fuel pending (item :: items)

end

/-! ## Groups and repetitions -/

/-- The flag that a letter stands for. -/
def flag? (c : Char) : Option Flag :=
  match c with
  | 'i' => some .ignoreCase
  | 'm' => some .multiLine
  | 's' => some .dotAll
  | 'U' => some .swapGreed
  | 'u' => some .unicode
  | 'R' => some .crlf
  | 'x' => some .verbose
  | _ => none

/-- Letters of flags up to a colon or a closing parenthesis. No flag comes twice; what stands behind
a hyphen is switched off, and something must. -/
def flagChange : Nat → Bool → FlagChange → Scanner FlagChange
  | 0, _, _ => refuse
  | fuel + 1, off, change => do
    let c ← char
    if c == ':' || c == ')' then return change.reverse
    else if c == '-' then
      require (!off)
      bump
      let next ← char
      require (next != ':' && next != ')')
      flagChange fuel true change
    else
      let flag ← flag? c
      require (!change.any (·.1 == flag))
      bump
      flagChange fuel off ((flag, !off) :: change)

/-- Whether a character may stand in the name of a group. -/
def isNameChar (isFirst : Bool) (c : Char) : Bool :=
  if isFirst then c == '_' || alphabeticSet.contains c
  else c == '_' || c == '.' || c == '[' || c == ']' || alphanumericSet.contains c

/-- The name of a group up to and with its `>`; each name is given once. -/
def groupName : Scanner String := do
  let s ← get
  let name := s.rest.takeWhile (· != '>')
  require (!name.isEmpty && s.rest.length != name.length)
  require ((name.take 1).all (isNameChar true) && (name.drop 1).all (isNameChar false))
  let text := String.ofList name
  require (!s.names.contains text)
  set { s with rest := s.rest.drop (name.length + 1), names := text :: s.names }
  return text

/-- The number of a group that opens now. -/
def nextGroup : Scanner Nat := do
  let s ← get
  set { s with groups := s.groups + 1 }
  return s.groups + 1

/-- What a parenthesis opens. -/
inductive Opening where
  | group (kind : GroupKind)
  | change (flags : FlagChange)

/-- What a parenthesis opens, from that on. -/
def opening : Scanner Opening := do
  bump
  skipBlanks
  if (← bumpIf "?=") || (← bumpIf "?!") then refuse
  else if (← bumpIf "?<=") || (← bumpIf "?<!") then refuse
  else if (← bumpIf "?P<") || (← bumpIf "?<") then
    let index ← nextGroup
    return .group (.capture index (some (← groupName)))
  else if ← bumpIf "?" then
    let change ← flagChange (← bound) false []
    let c ← char
    bump
    if c == ')' then
      require (!change.isEmpty)
      return .change change
    else return .group (.plain change)
  else
    return .group (.capture (← nextGroup) none)

/-- What a change of flags does to the verbose mode. -/
def verboseAfter (change : FlagChange) (before : Bool) : Bool :=
  match change.find? (·.1 == .verbose) with
  | some (_, on) => on
  | none => before

/-- A repetition of the last part, which must be one that can be repeated. -/
def repeatLast (min : Nat) (max : Option Nat) (greedy : Bool) :
    List Expr → Scanner (List Expr)
  | [] => refuse
  | .empty :: _ => refuse
  | .change _ :: _ => refuse
  | part :: parts => return .repetition min max greedy part :: parts

/-- The rest of a repetition without a count, from its sign on. -/
def shortRepetition (min : Nat) (max : Option Nat) (parts : List Expr) : Scanner (List Expr) := do
  bump
  let lazy ← bumpIf "?"
  repeatLast min max (!lazy) parts

/-- A count inside braces, with blanks around. It has 32 bits. -/
def count : Scanner (Option Nat) := do
  modify (fun s => { s with rest := s.rest.dropWhile isBlank })
  let ds ← collect Char.isDigit (← bound) []
  modify (fun s => { s with rest := s.rest.dropWhile isBlank })
  skipBlanks
  let n := ds.foldl (fun n c => n * 10 + (c.toNat - 48)) 0
  require (n < twoPow 32)
  return if ds.isEmpty then none else some n

/-- The rest of a repetition with counts, from its brace on. -/
def countedRepetition (parts : List Expr) : Scanner (List Expr) := do
  bumpTo
  let min ← (← count)
  let max ← do
    if (← char) == ',' then
      bumpTo
      if (← char) == '}' then pure none
      else pure (some (← (← count)))
    else pure (some min)
  require ((← char) == '}')
  bumpOver
  let lazy ← bumpIf "?"
  match max with
  | some n => require (min ≤ n)
  | none => pure ()
  repeatLast min max (!lazy) parts

/-! ## Patterns -/

/-- A class as a part of a pattern. -/
def ClassExpr.toExpr : ClassExpr → Expr
  | .brackets negated inner => .brackets negated inner
  | inner => .brackets false inner

/-- A part that stands for itself or for a class, or a condition. -/
def primitive (c : Char) : Scanner Expr := do
  match c with
  | '\\' =>
    match ← escape with
    | .literal c => return .literal c
    | .anchor kind => return .anchor kind
    | .shorthand kind negated => return .shorthand kind negated
    | .property name negated => return .property name negated
  | '.' => bump; return .dot
  | '^' => bump; return .anchor .lineStart
  | '$' => bump; return .anchor .lineEnd
  | c => bump; return .literal ⟨c, false⟩

/-- The parts up to a closing parenthesis or the end: `parts` are those of the alternative at hand
and `others` the alternatives before it, both in reverse. -/
def patternFrom : Nat → List Expr → List Expr → Scanner Expr
  | 0, _, _ => refuse
  | fuel + 1, parts, others => do
    skipBlanks
    let finish := Expr.ofAlternatives (Expr.ofParts parts.reverse :: others).reverse
    match ← peek with
    | none => return finish
    | some c =>
      match c with
      | ')' => return finish
      | '|' => bump; patternFrom fuel [] (Expr.ofParts parts.reverse :: others)
      | '?' => patternFrom fuel (← shortRepetition 0 (some 1) parts) others
      | '*' => patternFrom fuel (← shortRepetition 0 none parts) others
      | '+' => patternFrom fuel (← shortRepetition 1 none parts) others
      | '{' => patternFrom fuel (← countedRepetition parts) others
      | '[' => do
        let inner ← brackets (2 * (← bound))
        patternFrom fuel (inner.toExpr :: parts) others
      | '(' => do
        let verbose := (← get).verbose
        match ← opening with
        | .change change =>
          modify (fun s => { s with verbose := verboseAfter change verbose })
          patternFrom fuel (.change change :: parts) others
        | .group kind => do
          let inside := match kind with
            | .plain change => verboseAfter change verbose
            | .capture .. => verbose
          modify (fun s => { s with verbose := inside })
          let inner ← patternFrom fuel [] []
          require ((← peek) == some ')')
          modify (fun s => { s with verbose := verbose })
          bump
          patternFrom fuel (.group kind inner :: parts) others
      | c => patternFrom fuel ((← primitive c) :: parts) others

/-- How many levels a pattern may have. -/
def depthLimit : Nat :=
  250

/-- The pattern that a text denotes. -/
def Expr.parse? (text : List Char) : Option Expr := do
  let fuel := text.length + 1
  let (expr, s) ← (patternFrom fuel [] []).run ⟨text, false, 0, []⟩
  if s.rest.isEmpty && expr.depth ≤ depthLimit then some expr else none

end Daybook.Pattern
