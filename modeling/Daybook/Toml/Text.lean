import Daybook.Percent

/-!
# Writing TOML

A text is written between two quotes if nothing in it calls for an escape or a line of its own.
Otherwise it is written as it is between apostrophes, or over several lines, as far as that needs
no escape; and only then with escapes.
-/

namespace Daybook.Toml

/-- The longest run of a character in a text, the run at the front being `run` long already. -/
def longestRun (c : Char) (run : Nat) : List Char → Nat
  | [] => run
  | d :: cs => if d = c then longestRun c (run + 1) cs else max run (longestRun c 0 cs)

/-- Whether a character can only be written as an escape. -/
def needsCode (c : Char) : Bool :=
  c != '\t' && c != '\n' && (c.toNat < 0x20 || c.toNat == 0x7F)

/-- How a text is written: between quotes or apostrophes, one or three of each. -/
inductive Style where
  | basic | literal | longBasic | longLiteral
deriving DecidableEq, Repr

/-- The style for a text. -/
def Style.of (cs : List Char) : Style :=
  let coded := cs.any needsCode
  let slashed := cs.contains '\\'
  let lines := cs.contains '\n'
  let quotes := longestRun '"' 0 cs
  let apostrophes := longestRun '\'' 0 cs
  if !coded && !slashed && quotes == 0 && !lines then .basic
  else if !coded && apostrophes == 0 && !lines then .literal
  else if !coded && !slashed && quotes ≤ 2 then .longBasic
  else if !coded && apostrophes ≤ 2 then .longLiteral
  else if lines then .longBasic
  else .basic

/-- The escape of a character by its code point. -/
def codeEscape (c : Char) : List Char :=
  let n := c.toNat
  ['\\', 'u', '0', '0', Percent.hexDigit (n / 16), Percent.hexDigit (n % 16)]

/-- What stands for a character between quotes; ends of lines stay in a long text. -/
def escapeChar (long : Bool) (c : Char) : List Char :=
  match c with
  | '\x08' => ['\\', 'b']
  | '\t' => ['\\', 't']
  | '\n' => if long then ['\n'] else ['\\', 'n']
  | '\x0C' => ['\\', 'f']
  | '\r' => ['\\', 'r']
  | '\\' => ['\\', '\\']
  | c => if needsCode c then codeEscape c else [c]

/-- A text between quotes, `run` of which come just before it. In a long text two quotes in a row
may stand, else none. -/
def escapeFrom (long : Bool) (run : Nat) : List Char → List Char
  | [] => []
  | c :: cs =>
    if c = '"' then
      if (if long then 2 else 0) ≤ run then '\\' :: '"' :: escapeFrom long 0 cs
      else '"' :: escapeFrom long (run + 1) cs
    else
      let shown := escapeChar long c
      shown ++ escapeFrom long 0 cs

/-- The quotes or apostrophes of a style. -/
def Style.delimiter : Style → List Char
  | .basic => ['"']
  | .literal => ['\'']
  | .longBasic => ['"', '"', '"']
  | .longLiteral => ['\'', '\'', '\'']

/-- A text as it stands in a document. A long text with several lines begins on a line of its
own. -/
def quoteChars (cs : List Char) : List Char :=
  let style := Style.of cs
  let content := match style with
    | .basic => escapeFrom false 0 cs
    | .longBasic => escapeFrom true 0 cs
    | .literal => cs
    | .longLiteral => cs
  let long := style == .longBasic || style == .longLiteral
  let opening := style.delimiter ++ if long && cs.contains '\n' then ['\n'] else []
  opening ++ content ++ style.delimiter

/-- A text as it stands in a document. -/
def quote (text : String) : String :=
  String.ofList (quoteChars text.toList)

/-- A line that binds a text to a name. -/
def bindingLine (name text : String) : String :=
  name ++ " = " ++ quote text ++ "\n"

end Daybook.Toml
