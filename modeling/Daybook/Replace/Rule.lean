import Daybook.Replace.Template

/-!
# Replacers

A rule puts its template in the place of every match of its pattern and leaves the rest of a text
alone. A replacer applies rules one after the other.
-/

namespace Daybook.Replace

open Daybook.Pattern

/-- A pattern literal, and what takes the place of its matches. -/
structure Rule where
  literal : Literal
  template : Template
deriving Repr

/-- A text from a place on, with `expand m` in the place of each match `m`. -/
def substituteFrom (expand : Match → List Char) (text : List Char) (place : Nat) :
    List Match → List Char
  | [] => text.drop place
  | m :: ms =>
    Span.of ⟨place, m.whole.start⟩ text ++ expand m ++ substituteFrom expand text m.whole.stop ms

namespace Rule

/-- The rule of a literal and the text of a template. -/
def make (literal : Literal) (template : String) : Rule :=
  ⟨literal, .parse (.ofCompiled literal.compiled) template⟩

/-- A text with the matches of a rule replaced. Templates are expanded against the text as it was
given. -/
def apply (r : Rule) (text : List Char) : List Char :=
  substituteFrom (r.template.expand r.literal.compiled.names text) text 0
    (r.literal.allMatches text)

end Rule

/-- Rules that are applied in order. -/
structure Replacer where
  rules : List Rule
deriving Repr

namespace Replacer

/-- Compiles pairs of a pattern literal and a template. -/
def compile (limits : Limits) (pairs : List (String × String)) : Except Error Replacer :=
  (pairs.mapM (fun pair => (Literal.parse limits pair.1).map (Rule.make · pair.2))).map .mk

/-- A text after all rules. -/
def apply (r : Replacer) (text : String) : String :=
  String.ofList (r.rules.foldl (fun text rule => rule.apply text) text.toList)

end Replacer

end Daybook.Replace
