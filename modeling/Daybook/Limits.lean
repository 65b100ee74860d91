/-!
# Limits

Upper bounds for what a view may take.
-/

namespace Daybook

/-- Upper bounds for what a view may take. -/
structure Limits where
  maxViewBytes : Nat
  maxLines : Nat
  maxTokensPerLine : Nat
  maxTokenDepth : Nat
  maxPatternLength : Nat
  maxRegexSize : Nat
deriving DecidableEq, Repr

/-- The bounds that hold if nothing else is said. -/
def Limits.standard : Limits where
  maxViewBytes := 512 * 1024
  maxLines := 512
  maxTokensPerLine := 256
  maxTokenDepth := 32
  maxPatternLength := 4096
  maxRegexSize := 1024 * 1024

end Daybook
