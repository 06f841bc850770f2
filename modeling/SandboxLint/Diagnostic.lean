/-!
Diagnostics: a violation, or a file that could not be processed, at a place.
-/

namespace SandboxLint

inductive Severity where
  | error
  | warning
  deriving DecidableEq, Repr, Inhabited

namespace Severity

def label : Severity → String
  | .error => "error"
  | .warning => "warning"

def all : List Severity := [.error, .warning]

def ofLabel? (label : String) : Option Severity :=
  all.find? (·.label == label)

end Severity

structure Diagnostic where
  path : String
  line : Int
  column : Int
  severity : Severity
  code : Int
  message : String
  deriving DecidableEq, Repr, Inhabited

namespace Diagnostic

def isError (d : Diagnostic) : Bool :=
  d.severity == .error

/-- Whether one diagnostic comes no later than another: by path, line, column, code and message;
the severity does not matter. -/
def ordered (a b : Diagnostic) : Bool :=
  if a.path != b.path then decide (a.path < b.path)
  else if a.line != b.line then decide (a.line < b.line)
  else if a.column != b.column then decide (a.column < b.column)
  else if a.code != b.code then decide (a.code < b.code)
  else decide (a.message ≤ b.message)

end Diagnostic
end SandboxLint
