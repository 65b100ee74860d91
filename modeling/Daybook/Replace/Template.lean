import Daybook.Pattern.Literal

/-!
# Replacement templates

A template is text with references to a match in it. Each begins with a dollar sign: `$&` stands
for the match, `` $` `` and `$'` for the text around it, `$1` to `$99` for a group by number and
`$<name>` for a group by name; `$$` stands for one dollar sign. A dollar sign that begins none of
these stands for itself.
-/

namespace Daybook.Replace

open Daybook.Pattern

/-- A part of a template. -/
inductive Part where
  | plain (text : List Char)
  | group (index : Nat)
  | named (name : String)
  | whole
  | front
  | back
deriving DecidableEq, Repr

/-- What a template needs to know of a pattern: the number of its groups, and whether one of them
has a name. -/
structure Groups where
  count : Nat
  hasNames : Bool
deriving DecidableEq, Repr

/-- The groups of a compiled pattern. -/
def Groups.ofCompiled (c : Compiled) : Groups :=
  ⟨c.program.groups, c.names.any Option.isSome⟩

/-- Whether a number is that of a group; the whole match has no number of its own. -/
def Groups.has (g : Groups) (index : Nat) : Bool :=
  1 ≤ index && index ≤ g.count

/-- The value of a decimal digit. -/
def digitValue? (c : Char) : Option Nat :=
  if c.isDigit then some (c.toNat - '0'.toNat) else none

/-- A group referred to by number, and how many digits that takes: two if they name a group, else
one. -/
def numbered? (g : Groups) : List Char → Option (Nat × Nat)
  | [] => none
  | c :: cs => do
    let first ← digitValue? c
    let two := (cs.head?.bind digitValue?).map (10 * first + ·)
    match two.filter g.has with
    | some index => some (index, 2)
    | none => if g.has first then some (first, 1) else none

/-- A group referred to by name, and how many characters that takes with its brackets. -/
def bracketed? (g : Groups) (cs : List Char) : Option (String × Nat) :=
  let name := cs.takeWhile (· != '>')
  if g.hasNames && name.length < cs.length then some (String.ofList name, name.length + 2) else none

/-- The reference whose text behind the dollar sign is at the front of a text, and how many
characters that takes. -/
def reference? (g : Groups) (cs : List Char) : Option (Part × Nat) :=
  match cs with
  | '&' :: _ => some (.whole, 1)
  | '\x60' :: _ => some (.front, 1)
  | '\'' :: _ => some (.back, 1)
  | '<' :: rest => (bracketed? g rest).map (fun r => (.named r.1, r.2))
  | _ => (numbered? g cs).map (fun r => (.group r.1, r.2))

/-- Parts with a plain text, given in reverse, in front of them. -/
def withPlain (plain : List Char) (parts : List Part) : List Part :=
  if plain.isEmpty then parts else .plain plain.reverse :: parts

/-- The parts of a template, with the plain text just before in reverse. -/
def partsFrom (g : Groups) (plain : List Char) : List Char → List Part
  | [] => withPlain plain []
  | c :: cs =>
    if c = '$' then
      if cs.head? = some '$' then partsFrom g ('$' :: plain) (cs.drop 1)
      else
        match reference? g cs with
        | some (part, size) => withPlain plain (part :: partsFrom g [] (cs.drop size))
        | none => partsFrom g ('$' :: plain) cs
    else partsFrom g (c :: plain) cs
termination_by cs => cs.length
decreasing_by all_goals (simp only [List.length_drop, List.length_cons]; omega)

/-- A template that has been read. -/
structure Template where
  parts : List Part
deriving DecidableEq, Repr

namespace Template

/-- Reads a template for a pattern with the given groups. -/
def parse (g : Groups) (text : String) : Template :=
  ⟨partsFrom g [] text.toList⟩

end Template

/-! ## Expanding -/

/-- The text of a group, empty if it took no part in the match. -/
def groupText (text : List Char) (m : Match) (index : Nat) : List Char :=
  match m.group? index with
  | some span => span.of text
  | none => []

/-- What a part stands for at a match in a text, the pattern's groups having the given names. -/
def Part.expand (names : List (Option String)) (text : List Char) (m : Match) : Part → List Char
  | .plain content => content
  | .group index => groupText text m index
  | .named name =>
    match names.findIdx? (· == some name) with
    | some index => groupText text m index
    | none => []
  | .whole => m.whole.of text
  | .front => text.take m.whole.start
  | .back => text.drop m.whole.stop

/-- What a template stands for at a match in a text. -/
def Template.expand (t : Template) (names : List (Option String)) (text : List Char) (m : Match) :
    List Char :=
  t.parts.flatMap (Part.expand names text m)

end Daybook.Replace
