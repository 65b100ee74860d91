import Daybook.Pattern.Expr
import Daybook.Pattern.Named
import Daybook.Pattern.Regex

/-!
# Applying flags

The regular expression that a pattern denotes under given flags. A change of flags holds up to the
end of the group it stands in. Without the flag `unicode` classes are sets of bytes, and what could
match a byte that is no character is refused.
-/

namespace Daybook.Pattern

/-- The flags that decide what a part of a pattern means. -/
structure Modes where
  ignoreCase : Bool
  multiLine : Bool
  dotAll : Bool
  swapGreed : Bool
  unicode : Bool
  crlf : Bool
deriving DecidableEq, Repr

namespace Modes

/-- Switches one flag. -/
def switch (m : Modes) : Flag × Bool → Modes
  | (.ignoreCase, on) => { m with ignoreCase := on }
  | (.multiLine, on) => { m with multiLine := on }
  | (.dotAll, on) => { m with dotAll := on }
  | (.swapGreed, on) => { m with swapGreed := on }
  | (.unicode, on) => { m with unicode := on }
  | (.crlf, on) => { m with crlf := on }
  | (.verbose, _) => m

/-- Switches flags in order. -/
def apply (m : Modes) (change : FlagChange) : Modes :=
  change.foldl switch m

/-- What counts as a character of a word. -/
def wordKind (m : Modes) : WordKind :=
  if m.unicode then .unicode else .ascii

end Modes

/-! ## Classes -/

/-- A set with the variants of its characters in case, if case is to be ignored. -/
def foldedSet (m : Modes) (s : CharSet) : CharSet :=
  if m.ignoreCase then (if m.unicode then s.foldCase else s.foldAsciiCase) else s

/-- The characters, or the bytes, that are not in a set. -/
def negatedSet (m : Modes) (s : CharSet) : CharSet :=
  if m.unicode then s.complement else s.complement.inter ⟨[(0, 0xFF)]⟩

/-- A set of bytes must hold ASCII alone; any set of characters will do. -/
def checkedSet? (m : Modes) (s : CharSet) : Option CharSet :=
  if m.unicode || s.isAscii then some s else none

/-- A set as a class gives it: variants in case first, then the negation. -/
def finishSet? (m : Modes) (negated : Bool) (s : CharSet) : Option CharSet :=
  let folded := foldedSet m s
  checkedSet? m (if negated then negatedSet m folded else folded)

/-- The code point of a character inside a class; a set of bytes takes bytes and ASCII. -/
def classCode? (m : Modes) (c : CharLiteral) : Option Nat :=
  if m.unicode || c.isByte || c.char.toNat ≤ 0x7F then some c.char.toNat else none

/-- The set of a class with a letter for a name; such sets hold all variants in case. -/
def shorthandSet? (m : Modes) (kind : Shorthand) (negated : Bool) : Option CharSet :=
  let s := match kind, m.unicode with
    | .digit, true => digitSet
    | .space, true => spaceSet
    | .word, true => wordSet
    | .digit, false => asciiDigitSet
    | .space, false => asciiSpaceSet
    | .word, false => asciiWordSet
  checkedSet? m (if negated then negatedSet m s else s)

/-- The set of a property. -/
def namedSet? (m : Modes) (property : PropertyName) (negated : Bool) : Option CharSet :=
  if m.unicode then
    let s := match property.value with
      | none => propertySet? property.name
      | some value => propertyValueSet? property.name value
    s.bind (finishSet? m negated)
  else none

/-- Two sets put together. -/
def SetOperator.apply (operator : SetOperator) (s t : CharSet) : CharSet :=
  match operator with
  | .intersection => s.inter t
  | .difference => s.difference t
  | .symmetricDifference => s.symmetricDifference t

mutual

/-- The set that a class denotes; the variants in case of plain characters are added by the brackets
around. -/
def ClassExpr.set? (m : Modes) : ClassExpr → Option CharSet
  | .empty => some .empty
  | .literal c => do
    let n ← classCode? m c
    return ⟨[(n, n)]⟩
  | .range low high => do return ⟨[(← classCode? m low, ← classCode? m high)]⟩
  | .shorthand kind negated => shorthandSet? m kind negated
  | .property name negated => namedSet? m name negated
  | .ascii name negated => (asciiClass? name).bind (finishSet? m negated)
  | .brackets negated inner => do finishSet? m negated (← inner.set? m)
  | .union items => ClassExpr.unionOf? m items
  | .combine operator left right => do
    let s ← left.set? m
    let t ← right.set? m
    return operator.apply (foldedSet m s) (foldedSet m t)

/-- The union of the sets that some classes denote. -/
def ClassExpr.unionOf? (m : Modes) : List ClassExpr → Option CharSet
  | [] => some .empty
  | item :: items => do
    let s ← item.set? m
    let t ← ClassExpr.unionOf? m items
    return ⟨s.ranges ++ t.ranges⟩

end

/-- The set of brackets, negated or not. -/
def bracketSet? (m : Modes) (negated : Bool) (inner : ClassExpr) : Option CharSet := do
  finishSet? m negated (CharSet.ofRanges (← inner.set? m).ranges)

/-! ## Patterns -/

/-- The expression of one character. -/
def literalRegex? (m : Modes) (c : CharLiteral) : Option Regex :=
  if !m.unicode && c.isByte && 0x7F < c.char.toNat then none
  else if m.unicode || c.char.toNat ≤ 0x7F then some (.set (foldedSet m (.single c.char)))
  else some (.set (.single c.char))

/-- The expression of a point. -/
def dotRegex? (m : Modes) : Option Regex :=
  if !m.unicode then none
  else if m.dotAll then some (.set .full)
  else if m.crlf then some (.set (CharSet.ofRanges [(0x0A, 0x0A), (0x0D, 0x0D)]).complement)
  else some (.set (CharSet.ofRanges [(0x0A, 0x0A)]).complement)

/-- The condition that an anchor denotes. -/
def Anchor.look (m : Modes) : Anchor → Look
  | .lineStart => if !m.multiLine then .textStart else if m.crlf then .lineStartCrlf else .lineStart
  | .lineEnd => if !m.multiLine then .textEnd else if m.crlf then .lineEndCrlf else .lineEnd
  | .textStart => .textStart
  | .textEnd => .textEnd
  | .wordBoundary => .boundary m.wordKind
  | .notWordBoundary => .notBoundary m.wordKind
  | .wordStart => .wordStart m.wordKind
  | .wordEnd => .wordEnd m.wordKind
  | .wordStartHalf => .wordStartHalf m.wordKind
  | .wordEndHalf => .wordEndHalf m.wordKind

mutual

/-- The expression that a pattern denotes, and the flags that hold behind it. -/
def Expr.resolve? (m : Modes) : Expr → Option (Regex × Modes)
  | .empty => some (.empty, m)
  | .change flags => some (.empty, m.apply flags)
  | .literal c => do return (← literalRegex? m c, m)
  | .dot => do return (← dotRegex? m, m)
  | .anchor kind => some (.look (kind.look m), m)
  | .shorthand kind negated => do return (.set (← shorthandSet? m kind negated), m)
  | .property name negated => do return (.set (← namedSet? m name negated), m)
  | .brackets negated inner => do return (.set (← bracketSet? m negated inner), m)
  | .repetition min max greedy inner => do
    let (r, m') ← inner.resolve? m
    return (.repeated min max (greedy != m'.swapGreed) r, m')
  | .group (.capture index name) inner => do
    let (r, _) ← inner.resolve? m
    return (.capture index name r, m)
  | .group (.plain flags) inner => do
    let (r, _) ← inner.resolve? (m.apply flags)
    return (r, m)
  | .concat parts => do
    let (rs, m') ← Expr.resolveParts? m parts
    return (.sequence rs, m')
  | .alternatives parts => do
    let (rs, m') ← Expr.resolveParts? m parts
    return (.choice rs, m')

/-- The expressions that parts denote one after the other, and the flags that hold behind them. -/
def Expr.resolveParts? (m : Modes) : List Expr → Option (List Regex × Modes)
  | [] => some ([], m)
  | part :: parts => do
    let (r, m') ← part.resolve? m
    let (rs, m'') ← Expr.resolveParts? m' parts
    return (r :: rs, m'')

end

end Daybook.Pattern
