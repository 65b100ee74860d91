import Daybook.Json.Excerpt
import Daybook.Json.Printer

/-!
# Errors

Why a view or a list of events was refused, by cause. Each kind has a code, and each cause a
wording.
-/

namespace Daybook

open Daybook.Number

/-- Why a pattern literal was refused. -/
inductive PatternFault where
  | noOpening
  | noClosing
  | sticky
  | unknownFlag (flag : Char)
  | duplicateFlag (flag : Char)
  | malformed
  | tooLarge
deriving DecidableEq, Repr

/-- The wording of a fault in a pattern literal. -/
def PatternFault.message : PatternFault → String
  | .noOpening => "literal must start with '/'"
  | .noClosing => "missing closing '/'"
  | .sticky => "sticky flag 'y' is not supported"
  | .unknownFlag flag => "unknown flag '" ++ flag.toString ++ "'"
  | .duplicateFlag flag => "duplicate flag '" ++ flag.toString ++ "'"
  | .malformed => "regex parse error"
  | .tooLarge => "compiled regex too large"

/-- What is wrong with the shape of a view. -/
inductive ViewFault where
  | blankReplacerName
  | blankShaderName
  | malformedToken (token : Json.Value)

/-- The wording of a fault in the shape of a view. -/
def ViewFault.message : ViewFault → String
  | .blankReplacerName => "replacer with an empty name"
  | .blankShaderName => "shader with an empty name"
  | .malformedToken token => "malformed token " ++ token.compact

/-- Which limit was passed, and by what. -/
inductive Excess where
  | viewBytes (bytes : Nat)
  | articleLines (lines : Nat)
  | lineTokens (tokens line : Nat)
  | tokenDepth (limit : Nat)
  | literalBytes (bytes : Nat)
deriving DecidableEq, Repr

/-- The wording of an excess. -/
def Excess.message : Excess → String
  | .viewBytes bytes => "view definition of " ++ natText bytes ++ " bytes"
  | .articleLines lines => natText lines ++ " article lines"
  | .lineTokens tokens line => natText tokens ++ " tokens on line " ++ natText line
  | .tokenDepth limit => "token nesting deeper than " ++ natText limit
  | .literalBytes bytes => "regex literal of " ++ natText bytes ++ " bytes"

/-- What a strict policy does not allow. -/
inductive Violation where
  | unknownOperator (name : String)
  | surplusOperands (name : String) (arity operands : Nat)
deriving DecidableEq, Repr

/-- The wording of a violation. -/
def Violation.message : Violation → String
  | .unknownOperator name => "unknown operator '" ++ name ++ "'"
  | .surplusOperands name arity operands =>
    "operator '" ++ name ++ "' takes " ++ natText arity ++ " operands, got " ++ natText operands

/-- Why a view or a list of events was refused. -/
inductive Error where
  | pattern (literal : String) (fault : PatternFault)
  | view (fault : ViewFault)
  | limit (excess : Excess)
  | policy (violation : Violation)
  | reversedEvent (uid : String)
  | json (fault : Json.Fault) (excerpt : Json.Excerpt)

namespace Error

/-- The code under which an error is known. -/
def code : Error → String
  | .pattern .. => "ttv.pattern"
  | .view _ => "ttv.invalid_view"
  | .limit _ => "ttv.resource_limit"
  | .policy _ => "ttv.view_policy"
  | .reversedEvent _ => "ttv.invalid_event"
  | .json .. => "ttv.serialization"

/-- The wording of an error. -/
def message : Error → String
  | .pattern literal fault => "invalid regex literal '" ++ literal ++ "': " ++ fault.message
  | .view fault => "view validation failed: " ++ fault.message
  | .limit excess => "resource limit exceeded: " ++ excess.message
  | .policy violation => "view policy violation: " ++ violation.message
  | .reversedEvent uid => "invalid calendar event: event '" ++ uid ++ "' ends before it starts"
  | .json fault _ => "serialization error: " ++ fault.message

/-- The error for a fault in a JSON text, with the text around it. -/
def ofFault (text : String) (fault : Json.Fault) : Error :=
  .json fault (.ofPlace text fault.place)

end Error

end Daybook
