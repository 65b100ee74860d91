import Daybook.Calendar.Date
import Daybook.Number.Text
import Daybook.Toml.Document

/-!
# Reading TOML

Readers for the parts of a TOML document, from single characters to whole lines. A reader takes
characters from the front of a text, or refuses.
-/

namespace Daybook.Toml

open Daybook.Number

/-- What takes something from the front of a text. -/
abbrev Reader (α : Type) : Type :=
  StateT (List Char) Option α

/-! ## Characters -/

/-- Refuses. -/
def refuse : Reader α :=
  fun _ => none

/-- Goes on only if a condition holds. -/
def require (condition : Bool) : Reader Unit :=
  if condition then pure () else refuse

/-- The character that comes next. -/
def peek : Reader (Option Char) :=
  fun cs => some (cs.head?, cs)

/-- Takes a word if it comes next, and tells whether it did. -/
def tryWord (word : List Char) : Reader Bool :=
  fun cs => if word.isPrefixOf cs then some (true, cs.drop word.length) else some (false, cs)

/-- Takes a word that must come next. -/
def word (word : List Char) : Reader Unit := do
  require (← tryWord word)

/-- Takes a character that must come next. -/
def char (c : Char) : Reader Unit :=
  word [c]

/-- Takes characters as long as they are of a kind. -/
def takeWhile (p : Char → Bool) : Reader (List Char) :=
  fun cs => some (cs.takeWhile p, cs.dropWhile p)

/-- Whether a character is a blank inside a line. -/
def isBlank (c : Char) : Bool :=
  c == ' ' || c == '\t'

/-- Takes blanks. -/
def blanks : Reader Unit := do
  let _ ← takeWhile isBlank

/-- Whether a character may stand in a comment: no control character other than the tab. -/
def isPlain (c : Char) : Bool :=
  c == '\t' || (0x20 ≤ c.toNat && c.toNat != 0x7F)

/-- Takes the end of a line, if it comes next. -/
def tryNewline : Reader Bool := do
  if ← tryWord ['\n'] then pure true else tryWord ['\r', '\n']

/-- Takes a comment, if one comes next. -/
def tryComment : Reader Unit := do
  if ← tryWord ['#'] then
    let _ ← takeWhile isPlain

/-- Takes the rest of a line on which nothing else may stand. -/
def lineEnd : Reader Unit := do
  blanks
  tryComment
  if (← peek).isSome then require (← tryNewline)

/-- Takes blanks, ends of lines and comments; `inComment` tells whether a comment has begun. -/
def gapFrom (inComment : Bool) : List Char → Option (Unit × List Char)
  | [] => some ((), [])
  | '\n' :: cs => gapFrom false cs
  | '\r' :: '\n' :: cs => gapFrom false cs
  | c :: cs =>
    if inComment then if isPlain c then gapFrom true cs else none
    else if c == '#' then gapFrom true cs
    else if isBlank c then gapFrom false cs
    else some ((), c :: cs)

/-- Takes blanks, ends of lines and comments. -/
def gap : Reader Unit :=
  gapFrom false

/-! ## Texts -/

/-- The value of a hexadecimal digit. -/
def hexValue? (c : Char) : Option Nat :=
  if c.isDigit then some (c.toNat - '0'.toNat)
  else if 'a' ≤ c ∧ c ≤ 'f' then some (c.toNat - 'a'.toNat + 10)
  else if 'A' ≤ c ∧ c ≤ 'F' then some (c.toNat - 'A'.toNat + 10)
  else none

/-- The character whose code point is written in hexadecimal. -/
def hexChar? (digits : List Char) : Option Char := do
  let values ← digits.mapM hexValue?
  let n := values.foldl (fun n d => 16 * n + d) 0
  if n.isValidChar then some (Char.ofNat n) else none

/-- The character that one after a backslash stands for. -/
def escaped? (c : Char) : Option Char :=
  match c with
  | 'b' => some '\x08'
  | 't' => some '\t'
  | 'n' => some '\n'
  | 'f' => some '\x0C'
  | 'r' => some '\r'
  | '"' => some '"'
  | '\\' => some '\\'
  | _ => none

/-- The character that an escape stands for, and what follows it; the backslash is already taken. -/
def readEscape? : List Char → Option (Char × List Char)
  | [] => none
  | c :: cs =>
    let coded (size : Nat) : Option (Char × List Char) :=
      if (cs.take size).length = size then (hexChar? (cs.take size)).map ((·, cs.drop size))
      else none
    match c with
    | 'u' => coded 4
    | 'U' => coded 8
    | c => (escaped? c).map ((·, cs))

/-- What follows an escape is shorter than what the escape began. -/
theorem length_of_readEscape? {cs rest : List Char} {c : Char}
    (h : readEscape? cs = some (c, rest)) : rest.length ≤ cs.length := by
  cases cs with
  | nil => simp [readEscape?] at h
  | cons x xs =>
    have drops : ∀ size, (if (xs.take size).length = size then
        (hexChar? (xs.take size)).map (fun d => (d, xs.drop size)) else none) = some (c, rest) →
        rest.length ≤ (x :: xs).length := by
      intro size h
      split at h
      · obtain ⟨_, _, e⟩ := Option.map_eq_some_iff.1 h
        have e := congrArg Prod.snd e
        simp only at e
        rw [← e, List.length_drop, List.length_cons]
        omega
      · simp at h
    unfold readEscape? at h
    simp only at h
    split at h
    · exact drops 4 h
    · exact drops 8 h
    · obtain ⟨_, _, e⟩ := Option.map_eq_some_iff.1 h
      have e := congrArg Prod.snd e
      simp only at e
      rw [← e, List.length_cons]
      omega

/-- A text between quotes, from behind the opening one on. -/
def basicFrom (taken : List Char) (cs : List Char) : Option (List Char × List Char) :=
  match cs with
  | [] => none
  | c :: rest =>
    if c = '"' then some (taken.reverse, rest)
    else if c = '\\' then
      match _read : readEscape? rest with
      | some (d, behind) => basicFrom (d :: taken) behind
      | none => none
    else if isPlain c then basicFrom (c :: taken) rest
    else none
termination_by cs.length
decreasing_by
  · have := length_of_readEscape? _read
    simp only [List.length_cons]
    omega
  · simp

/-- A text without the blanks and the ends of lines at its front. -/
def skipLines : List Char → List Char
  | '\r' :: '\n' :: cs => skipLines cs
  | c :: cs => if isBlank c || c == '\n' then skipLines cs else c :: cs
  | [] => []

/-- A text does not grow when its front is dropped. -/
theorem length_skipLines_le (cs : List Char) : (skipLines cs).length ≤ cs.length := by
  fun_induction skipLines cs with
  | case1 cs ih => simp only [List.length_cons]; omega
  | case2 c cs _ _ ih => simp only [List.length_cons]; omega
  | case3 => simp
  | case4 => simp

/-- What follows a backslash at the end of a line: the rest of the line and all blank lines. -/
def joinedLine? (cs : List Char) : Option (List Char) :=
  match cs.dropWhile isBlank with
  | '\n' :: rest => some (skipLines rest)
  | '\r' :: '\n' :: rest => some (skipLines rest)
  | _ => none

/-- How many of the quotes in a run belong to a text that they end: none of the last three. -/
def closingRun (quotes : Nat) : Nat :=
  min (quotes - 3) 2

/-- What follows a dropped front is no longer than the whole. -/
theorem length_dropWhile_le (p : Char → Bool) (cs : List Char) :
    (cs.dropWhile p).length ≤ cs.length :=
  (List.dropWhile_sublist p).length_le

/-- What follows a joined line is shorter. -/
theorem length_of_joinedLine? {cs rest : List Char} (h : joinedLine? cs = some rest) :
    rest.length ≤ cs.length := by
  have le := length_dropWhile_le isBlank cs
  unfold joinedLine? at h
  split at h
  · rename_i tail e
    have := length_skipLines_le tail
    rw [e, List.length_cons] at le
    rw [← Option.some.inj h]
    omega
  · rename_i tail e
    have := length_skipLines_le tail
    rw [e, List.length_cons, List.length_cons] at le
    rw [← Option.some.inj h]
    omega
  · simp at h

/-- A text between three quotes each, which may take several lines, from behind the opening ones on.
Ends of lines become line feeds. With `escapes`, a backslash begins an escape or joins lines. -/
def longFrom (quote : Char) (escapes : Bool) (taken : List Char) (cs : List Char) :
    Option (List Char × List Char) :=
  match cs with
  | [] => none
  | c :: rest =>
    if c = quote then
      let run := 1 + (rest.takeWhile (· == quote)).length
      if run < 3 then longFrom quote escapes (quote :: taken) rest
      else
        let inside := closingRun run
        some ((List.replicate inside quote ++ taken).reverse, rest.drop (inside + 2))
    else if c = '\\' ∧ escapes then
      match _joined : joinedLine? rest with
      | some behind => longFrom quote escapes taken behind
      | none =>
        match _read : readEscape? rest with
        | some (d, behind) => longFrom quote escapes (d :: taken) behind
        | none => none
    else if c = '\n' then longFrom quote escapes ('\n' :: taken) rest
    else if c = '\r' then
      match rest with
      | '\n' :: behind => longFrom quote escapes ('\n' :: taken) behind
      | _ => none
    else if isPlain c then longFrom quote escapes (c :: taken) rest
    else none
termination_by cs.length
decreasing_by
  · simp
  · have := length_of_joinedLine? _joined
    simp only [List.length_cons]
    omega
  · have := length_of_readEscape? _read
    simp only [List.length_cons]
    omega
  · simp
  · simp only [List.length_cons]
    omega
  · simp

/-- A text of one line between two quotes. -/
def shortText : Reader String := do
  match ← peek with
  | some '"' =>
    char '"'
    return String.ofList (← basicFrom [])
  | some '\'' =>
    char '\''
    let content ← takeWhile (fun c => c != '\'' && isPlain c)
    char '\''
    return String.ofList content
  | _ => refuse

/-- A text in any of the four notations. -/
def anyText : Reader String := do
  if ← tryWord ['"', '"', '"'] then
    let _ ← tryNewline
    return String.ofList (← longFrom '"' true [])
  else if ← tryWord ['\'', '\'', '\''] then
    let _ ← tryNewline
    return String.ofList (← longFrom '\'' false [])
  else shortText

/-! ## Numbers -/

/-- Digits with single underscores between them, from behind the first on; the underscores are left
out. -/
def digitsFrom (isDigit : Char → Bool) (taken : List Char) : List Char → List Char × List Char
  | [] => (taken.reverse, [])
  | [c] => if isDigit c then ((c :: taken).reverse, []) else (taken.reverse, [c])
  | c :: d :: cs =>
    if isDigit c then digitsFrom isDigit (c :: taken) (d :: cs)
    else if c = '_' ∧ isDigit d then digitsFrom isDigit (d :: taken) cs
    else (taken.reverse, c :: d :: cs)

/-- One digit or more, with single underscores between them. -/
def digits (isDigit : Char → Bool) : Reader (List Char) := fun cs =>
  match cs with
  | c :: cs => if isDigit c then some (digitsFrom isDigit [c] cs) else none
  | [] => none

/-- The value of digits in a base. -/
def digitsValue (base : Nat) (ds : List Char) : Nat :=
  ds.foldl (fun n c => base * n + (hexValue? c).getD 0) 0

/-- An integer within 64 bits. -/
def wholeNumber (value : Int) : Reader Value := do
  require (-(twoPow 63) ≤ value && value < twoPow 63)
  return .integer value

/-- An integer in a base other than ten, from behind its mark on. -/
def basedInteger (base : Nat) : Reader Value := do
  let ds ← digits (fun c => match hexValue? c with
    | some n => n < base
    | none => false)
  wholeNumber (digitsValue base ds)

/-- Whether a decimal number is too large for a float of 64 bits. Far from the bound the place of the
first digit decides. -/
def exceedsFloat (wholePart fraction : List Char) (exponent : Int) : Bool :=
  let ds := (wholePart ++ fraction).dropWhile (· == '0')
  let scale := exponent - fraction.length
  let magnitude := ds.length + scale
  if ds.isEmpty || magnitude < 300 then false
  else if 320 < magnitude then true
  else
    let bound := twoPow 1024 - twoPow 970
    bound * tenPow (-scale).toNat ≤ digitsValue 10 ds * tenPow scale.toNat

/-- The exponent of a number, if one comes next, with its value. -/
def exponent : Reader (Option (List Char × Int)) := do
  match ← peek with
  | some e =>
    if e == 'e' || e == 'E' then
      char e
      let negative ← tryWord ['-']
      let _ ← if negative then pure true else tryWord ['+']
      let ds ← digits Char.isDigit
      let value : Int := if negative then -(digitsValue 10 ds : Int) else digitsValue 10 ds
      return some ('e' :: (if negative then ['-'] else []) ++ ds, value)
    else return none
  | none => return none

/-- A decimal number behind its sign. -/
def decimal (negative : Bool) : Reader Value := do
  let sign := if negative then ['-'] else []
  let front ← match ← peek with
    | some '0' => do
      char '0'
      pure ['0']
    | _ => digits Char.isDigit
  let fraction ← if ← tryWord ['.'] then some <$> digits Char.isDigit else pure none
  let power ← exponent
  if fraction.isNone && power.isNone then
    let value : Int := digitsValue 10 front
    wholeNumber (if negative then -value else value)
  else
    let tail := fraction.getD []
    let (shown, value) := power.getD ([], 0)
    require (negative || !exceedsFloat front tail value)
    let point := if fraction.isSome then '.' :: tail else []
    return .float (String.ofList (sign ++ front ++ point ++ shown))

/-! ## Dates and times -/

/-- A number of exactly `count` digits, within bounds. -/
def fixed (count low high : Nat) : Reader Nat := do
  let cs ← get
  let ds := cs.take count
  require (ds.length = count && ds.all Char.isDigit)
  let value := digitsValue 10 ds
  require (low ≤ value && value ≤ high)
  set (cs.drop count)
  return value

/-- Whether a text begins with a number of `count` digits, at most `high`, and then a mark. -/
def startsWith (count high : Nat) (mark : Char) (cs : List Char) : Bool :=
  let ds := cs.take count
  ds.length = count && ds.all Char.isDigit && digitsValue 10 ds ≤ high && cs[count]? == some mark

/-- Whether a time of day comes next. -/
def startsTime (cs : List Char) : Bool :=
  startsWith 2 23 ':' cs

/-- Whether a date comes next. -/
def startsDate (cs : List Char) : Bool :=
  startsWith 4 9999 '-' cs

/-- A time of day. -/
def timeOfDay : Reader Unit := do
  let _ ← fixed 2 0 23
  char ':'
  let _ ← fixed 2 0 59
  char ':'
  let _ ← fixed 2 0 60
  let cs ← get
  match cs with
  | '.' :: d :: _ =>
    if d.isDigit then
      char '.'
      let _ ← takeWhile Char.isDigit
  | _ => pure ()

/-- A date. -/
def date : Reader Unit := do
  let year ← fixed 4 0 9999
  char '-'
  let month ← fixed 2 1 12
  char '-'
  let _ ← fixed 2 1 (Calendar.daysInMonth year month)

/-- The distance from UTC behind a time of day, if there is one. -/
def offset : Reader Unit := do
  match ← peek with
  | some c =>
    if c == 'Z' || c == 'z' then char c
    else if c == '+' || c == '-' then
      char c
      let _ ← fixed 2 0 23
      char ':'
      let _ ← fixed 2 0 59
  | none => pure ()

/-- A date, with a time of day behind it if one follows. -/
def dateAndTime : Reader Unit := do
  date
  match ← get with
  | c :: cs =>
    if (c == 'T' || c == 't' || c == ' ') && startsTime cs then
      set cs
      timeOfDay
      offset
  | [] => pure ()

/-- What a reader takes, as it was written. -/
def written (r : Reader Unit) : Reader String := fun cs =>
  (r cs).map (fun done => (String.ofList (cs.take (cs.length - done.2.length)), done.2))

/-! ## Values -/

/-- The number, date or time that comes next. -/
def numeric : Reader Value := do
  let cs ← get
  if startsDate cs then .moment <$> written dateAndTime
  else if startsTime cs then .moment <$> written timeOfDay
  else if ← tryWord ['0', 'x'] then basedInteger 16
  else if ← tryWord ['0', 'o'] then basedInteger 8
  else if ← tryWord ['0', 'b'] then basedInteger 2
  else
    let negative ← tryWord ['-']
    let _ ← if negative then pure true else tryWord ['+']
    let sign := if negative then "-" else ""
    if ← tryWord "inf".toList then return .float (sign ++ "inf")
    else if ← tryWord "nan".toList then return .float (sign ++ "nan")
    else decimal negative

/-- The most names in a key, and the most values inside each other. -/
def nestingLimit : Nat :=
  79

/-- Whether a character may stand in a name without quotes. -/
def isBare (c : Char) : Bool :=
  c.isAlpha || c.isDigit || c == '-' || c == '_'

/-- One name of a key. -/
def name : Reader String := do
  match ← peek with
  | some '"' => shortText
  | some '\'' => shortText
  | _ =>
    let cs ← takeWhile isBare
    require (!cs.isEmpty)
    return String.ofList cs

/-- The names of a key, with at most `fuel` of them. -/
def namesFrom : Nat → Reader Path
  | 0 => refuse
  | fuel + 1 => do
    blanks
    let first ← name
    blanks
    if ← tryWord ['.'] then return first :: (← namesFrom fuel)
    else return [first]

/-- A key. -/
def key : Reader Path :=
  namesFrom nestingLimit

/-- The items of a list up to its end, with at most `fuel` of them. -/
def itemsFrom (item : Reader α) : Nat → Reader (List α)
  | 0 => refuse
  | fuel + 1 => do
    gap
    if ← tryWord [']'] then return []
    let first ← item
    gap
    if ← tryWord [','] then return first :: (← itemsFrom item fuel)
    char ']'
    return [first]

/-- The bindings of an inline table up to its end, with at most `fuel` of them. -/
def bindingsFrom (value : Reader Value) : Nat → Reader (List (Path × Value))
  | 0 => refuse
  | fuel + 1 => do
    let path ← key
    char '='
    blanks
    let first ← value
    blanks
    if ← tryWord [','] then return (path, first) :: (← bindingsFrom value fuel)
    char '}'
    return [(path, first)]

/-- Runs a reader that takes the length of the text for its fuel. -/
def fueled (r : Nat → Reader α) : Reader α :=
  fun cs => r (cs.length + 1) cs

/-- Whether bindings make a table in which nothing is defined twice. -/
def isTable (entries : List (Path × Value)) : Bool :=
  (Marks.ofStatements (entries.map (fun e => .binding e.1 e.2))).isSome

/-- A value, with an allowance for values inside each other. -/
def value (allowed : Nat) : Reader Value := do
  match ← peek with
  | none => refuse
  | some c =>
    match c with
    | '"' => .text <$> anyText
    | '\'' => .text <$> anyText
    | 't' => do
      word "true".toList
      return .boolean true
    | 'f' => do
      word "false".toList
      return .boolean false
    | '[' =>
      match allowed with
      | 0 => refuse
      | n + 1 => do
        char '['
        return .list (← fueled (itemsFrom (value n)))
    | '{' =>
      match allowed with
      | 0 => refuse
      | n + 1 => do
        char '{'
        blanks
        if ← tryWord ['}'] then return .table []
        let entries ← fueled (bindingsFrom (value n))
        require (isTable entries)
        return .table entries
    | _ => numeric

/-! ## Documents -/

/-- A header. -/
def header : Reader Statement := do
  if ← tryWord ['[', '['] then
    let path ← key
    word [']', ']']
    return .itemHeader path
  else
    char '['
    let path ← key
    char ']'
    return .header path

/-- A binding. -/
def binding : Reader Statement := do
  let path ← key
  char '='
  blanks
  return .binding path (← value nestingLimit)

/-- The statements of a document, with at most `fuel` lines. -/
def statementsFrom : Nat → Reader (List Statement)
  | 0 => refuse
  | fuel + 1 => do
    blanks
    match ← peek with
    | none => return []
    | some c =>
      if c == '#' || c == '\n' || c == '\r' then
        lineEnd
        statementsFrom fuel
      else
        let first ← if c == '[' then header else binding
        lineEnd
        return first :: (← statementsFrom fuel)

/-- The statements of a document, behind a byte order mark if there is one. -/
def document : Reader (List Statement) := do
  let _ ← tryWord ['\uFEFF']
  fueled statementsFrom

/-- The marks of a document, unless it is malformed. -/
def parse? (text : String) : Option Marks := do
  let (statements, _) ← document text.toList
  Marks.ofStatements statements

end Daybook.Toml
