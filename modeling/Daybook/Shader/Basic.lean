import Daybook.Pattern.Literal

/-!
# Shaders

A shader is a pattern that takes a text apart: every match becomes a record of the texts of its
groups.
-/

namespace Daybook.Shader

open Daybook.Pattern

/-- The texts of the groups of a match, the whole match first. A group that took no part has none. -/
structure Record where
  groups : List (Option String)
deriving DecidableEq, Repr

namespace Record

/-- The text of a group, if it has one. -/
def group? (r : Record) (index : Nat) : Option String :=
  r.groups[index]?.join

/-- The record of a match in a text. -/
def ofMatch (text : List Char) (m : Match) : Record :=
  let content (s : Span) : String := String.ofList (s.of text)
  ⟨some (content m.whole) :: m.groups.map (Option.map content)⟩

end Record

/-- The records of a text under a pattern. -/
def run (l : Literal) (text : String) : List Record :=
  (l.allMatches text.toList).map (Record.ofMatch text.toList)

end Daybook.Shader
