/-!
# ClusterTuning.Templating.Fault

**Why a template cannot be rendered.**
-/

namespace ClusterTuning.Templating

/-- The cause for which a template, or an expression in it, has no result. -/
inductive Fault where
  /-- The text is no template. -/
  | syntaxError
  /-- An escape in a string is none of the known ones. -/
  | badEscape
  /-- A value was used that nothing defines. -/
  | undefinedValue
  /-- An operation does not apply to its operands. -/
  | invalidOperation
  /-- No filter has the name. -/
  | unknownFilter
  /-- No test has the name. -/
  | unknownTest
  /-- No function has the name. -/
  | unknownFunction
  /-- The value has no method of the name. -/
  | unknownMethod
  /-- A call gives fewer arguments than are needed. -/
  | missingArgument
  /-- A call gives more arguments than are known. -/
  | tooManyArguments
  /-- A value does not fall into as many parts as there are names. -/
  | cannotUnpack
  /-- An integer does not fit a document. -/
  | numberOutOfRange
  /-- A value cannot be the name of a field of a document. -/
  | keyNotText
  /-- A number that is the name of a field of a document is infinite or NaN. -/
  | keyNotFinite
deriving DecidableEq, Repr, Inhabited

/-- The message for a fault. -/
def Fault.message : Fault → String
  | .syntaxError => "syntax error"
  | .badEscape => "bad string escape"
  | .undefinedValue => "undefined value"
  | .invalidOperation => "invalid operation"
  | .unknownFilter => "unknown filter"
  | .unknownTest => "unknown test"
  | .unknownFunction => "unknown function"
  | .unknownMethod => "unknown method"
  | .missingArgument => "missing argument"
  | .tooManyArguments => "too many arguments"
  | .cannotUnpack => "cannot unpack"
  | .numberOutOfRange => "number out of range"
  | .keyNotText => "key must be a string"
  | .keyNotFinite => "float key must be finite"

end ClusterTuning.Templating
