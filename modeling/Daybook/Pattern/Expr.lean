/-!
# Patterns as written

The parts of a pattern before flags have been applied to them: what stands for characters is kept by
name, and changes of flags stand where they were written.
-/

namespace Daybook.Pattern

/-- What can be switched on and off inside a pattern. -/
inductive Flag where
  | ignoreCase | multiLine | dotAll | swapGreed | unicode | crlf | verbose
deriving DecidableEq, Repr

/-- Flags that are switched, in order, each on or off. -/
abbrev FlagChange : Type :=
  List (Flag × Bool)

/-- The classes that have a letter for a name. -/
inductive Shorthand where
  | digit | space | word
deriving DecidableEq, Repr

/-- A character as written; one given by two hexadecimal digits is a byte where bytes are matched. -/
structure CharLiteral where
  char : Char
  isByte : Bool
deriving DecidableEq, Repr

/-- How two sets inside brackets are put together. -/
inductive SetOperator where
  | intersection | difference | symmetricDifference
deriving DecidableEq, Repr

/-- A property by its name, or by its name and a value of it. -/
structure PropertyName where
  name : String
  value : Option String
deriving DecidableEq, Repr

/-- What stands between brackets. -/
inductive ClassExpr where
  | empty
  | literal (c : CharLiteral)
  | range (low high : CharLiteral)
  | shorthand (kind : Shorthand) (negated : Bool)
  | property (name : PropertyName) (negated : Bool)
  | ascii (name : String) (negated : Bool)
  | brackets (negated : Bool) (inner : ClassExpr)
  | union (items : List ClassExpr)
  | combine (operator : SetOperator) (left right : ClassExpr)
deriving Repr, Inhabited

/-- A condition on a place as written. -/
inductive Anchor where
  | lineStart | lineEnd | textStart | textEnd
  | wordBoundary | notWordBoundary
  | wordStart | wordEnd | wordStartHalf | wordEndHalf
deriving DecidableEq, Repr

/-- What kind of group parentheses make. -/
inductive GroupKind where
  | capture (index : Nat) (name : Option String)
  | plain (change : FlagChange)
deriving DecidableEq, Repr

/-- A pattern as written. -/
inductive Expr where
  | empty
  | change (flags : FlagChange)
  | literal (c : CharLiteral)
  | dot
  | anchor (kind : Anchor)
  | shorthand (kind : Shorthand) (negated : Bool)
  | property (name : PropertyName) (negated : Bool)
  | brackets (negated : Bool) (inner : ClassExpr)
  | repetition (min : Nat) (max : Option Nat) (greedy : Bool) (inner : Expr)
  | group (kind : GroupKind) (inner : Expr)
  | concat (parts : List Expr)
  | alternatives (parts : List Expr)
deriving Repr, Inhabited

namespace ClassExpr

/-- What several items of a class make together. -/
def ofItems : List ClassExpr → ClassExpr
  | [] => .empty
  | [item] => item
  | items => .union items

mutual

/-- How many levels a class has. -/
def depth : ClassExpr → Nat
  | .brackets _ inner => inner.depth + 1
  | .union items => depthOfItems items + 1
  | .combine _ left right => max left.depth right.depth + 1
  | _ => 0

/-- How many levels the deepest of the items has. -/
def depthOfItems : List ClassExpr → Nat
  | [] => 0
  | item :: items => max item.depth (depthOfItems items)

end

end ClassExpr

namespace Expr

/-- What parts in a row make together. -/
def ofParts : List Expr → Expr
  | [] => .empty
  | [part] => part
  | parts => .concat parts

/-- What alternatives make together. -/
def ofAlternatives : List Expr → Expr
  | [] => .empty
  | [part] => part
  | parts => .alternatives parts

mutual

/-- How many levels a pattern has. -/
def depth : Expr → Nat
  | .brackets _ inner => inner.depth + 1
  | .repetition _ _ _ inner => inner.depth + 1
  | .group _ inner => inner.depth + 1
  | .concat parts => depthOfParts parts + 1
  | .alternatives parts => depthOfParts parts + 1
  | _ => 0

/-- How many levels the deepest of the parts has. -/
def depthOfParts : List Expr → Nat
  | [] => 0
  | part :: parts => max part.depth (depthOfParts parts)

end

end Expr

end Daybook.Pattern
