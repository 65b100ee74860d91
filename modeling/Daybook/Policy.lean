import Daybook.Error

/-!
# Policies

How strictly the tokens of a view are checked, and whether URLs become links.
-/

namespace Daybook

/-- How strictly the tokens of a view are checked, and whether URLs become links. -/
structure Policy where
  strictTokens : Bool
  linkUrls : Bool
deriving DecidableEq, Repr

namespace Policy

/-- Lenient, with links. -/
def standard : Policy :=
  ⟨false, true⟩

/-- Strict, with links. -/
def strict : Policy :=
  ⟨true, true⟩

/-- Accepts what a strict policy does not allow, unless the policy is strict. -/
def tolerate (p : Policy) (violation : Violation) : Except Error Unit :=
  if p.strictTokens then .error (.policy violation) else .ok ()

end Policy

end Daybook
