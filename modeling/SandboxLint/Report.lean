import SandboxLint.Path
import SandboxLint.Rule.Registry
import SandboxLint.Value.Json

/-!
Diagnostics as written: one line each, a summary, or one JSON document. Paths below
the base directory are shown relative to it, component by component.
-/

namespace SandboxLint
namespace Report

/-- A path as shown from a base directory. -/
def displayPath (path : String) (base : Path) : String :=
  let path := Path.parse path
  match path.relativeTo? (Path.resolve {} base) with
  | some relative => relative.toText
  | none => path.toText

def diagnosticId (code : Int) (codePrefix : String) : String :=
  codePrefix ++ paddedCode code

/-- A diagnostic as one line. -/
def line (d : Diagnostic) (base : Path) (codePrefix : String) : String :=
  displayPath d.path base ++ "(" ++ toString d.line ++ "," ++ toString d.column ++ "): " ++
    d.severity.label ++ " " ++ diagnosticId d.code codePrefix ++ ": " ++ d.message

/-- The counts of a run as one line. -/
def summary (errors warnings : Value) (toolName : String) : String :=
  "[" ++ toolName ++ "] Summary: " ++ errors.display ++ " errors, " ++ warnings.display ++
    " warnings"

def diagnosticValue (base : Path) (codePrefix : String) (d : Diagnostic) : Value :=
  .mapping
    [("path", .text (displayPath d.path base)), ("line", .int d.line), ("column", .int d.column),
      ("severity", .text d.severity.label), ("code", .int d.code), ("message", .text d.message),
      ("id", .text (diagnosticId d.code codePrefix))]

/-- A run as a JSON document; it has passed when there are no errors. -/
def document (ds : List Diagnostic) (base : Path) (errors warnings : Value)
    (codePrefix toolName : String) : String :=
  Value.toJson <| .mapping
    [("tool", .text toolName),
      ("diagnostics", .list (ds.map (diagnosticValue base codePrefix))),
      ("summary", .mapping
        [("errors", errors), ("warnings", warnings), ("passed", .bool (errors.toInt? == some 0))])]

def ruleValue (rule : Rule) : Value :=
  .mapping
    [("id", .text (diagnosticId rule.code "UDON")), ("code", .int rule.code),
      ("name", .text rule.name), ("family", .text rule.family.label),
      ("category", .text rule.category.label), ("severity", .text rule.severity.label),
      ("summary", .text rule.summary)]

def rulesDocument (registry : Registry) : String :=
  Value.toJson (.list (registry.all.map ruleValue))

/-- A count with the word for what is counted, in the plural unless it is one. -/
def pluralize (count : Value) (singular : String) (plural : Option String) : String :=
  let word := if count.toInt? == some 1 then singular else plural.getD (singular ++ "s")
  count.display ++ " " ++ word

end Report
end SandboxLint
