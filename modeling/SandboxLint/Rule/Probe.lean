import SandboxLint.Rule.Basic

/-!
Probe rules: rules given by data. A probe flags every place of some kinds, and can be
made to fail on the files whose paths end in a given way.
-/

namespace SandboxLint

/-- What a probe flags and where it fails. -/
structure Probe where
  kinds : List String := []
  message : String := ""
  failure : Option Failure := none
  failsOn : String := ""

namespace Probe

/-- How much of a place's text a probe shows. -/
def shownLength : Nat := 20

/-- The finding of a probe at a place: its message and the beginning of the place's text. -/
def finding (probe : Probe) (node : Node) : Finding :=
  (node, probe.message ++ String.ofList (node.text.toList.take shownLength))

/-- Evaluates a probe on a file. -/
def evaluate (probe : Probe) (input : RuleInput) : Except Failure (List Finding) :=
  match probe.failure with
  | some failure =>
      if Text.endsWith input.unit.path probe.failsOn then .error failure
      else .ok ((input.find probe.kinds).map probe.finding)
  | none => .ok ((input.find probe.kinds).map probe.finding)

end Probe
end SandboxLint
