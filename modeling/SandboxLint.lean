import SandboxLint.Main
import SandboxLint.Proofs.Assoc
import SandboxLint.Proofs.Fallible
import SandboxLint.Rule.Probe
import SandboxLint.Proofs.Corpus.TypeTable
import SandboxLint.Proofs.Corpus.Alias
import SandboxLint.Proofs.Corpus.SymbolSpace
import SandboxLint.Proofs.Corpus.Inheritance
import SandboxLint.Proofs.Corpus.Declared
import SandboxLint.Proofs.Corpus.BaseFault
import SandboxLint.Proofs.Run.Completion
import SandboxLint.Proofs.Corpus.Sketch
import SandboxLint.Proofs.Corpus.PartialTypes
import SandboxLint.Proofs.Corpus.Qualifier
import SandboxLint.Proofs.Corpus.Requalified
import SandboxLint.Proofs.Text.Split
import SandboxLint.Proofs.Text.Utf8
import SandboxLint.Proofs.TypeRef
import SandboxLint.Proofs.TypeText
import SandboxLint.Proofs.Syntax.Places
import SandboxLint.Proofs.Scope
import SandboxLint.Proofs.Corpus.Reach
import SandboxLint.Proofs.Rule.Locality
import SandboxLint.Proofs.Sorting
import SandboxLint.Proofs.Rule.Reading
import SandboxLint.Proofs.Rule.Disabled
import SandboxLint.Proofs.Run.Parts
import SandboxLint.Proofs.Path
import SandboxLint.Proofs.FileTree
import SandboxLint.Proofs.Corpus.Files
import SandboxLint.Proofs.CallGraph
import SandboxLint.Proofs.Run.Schedule
import SandboxLint.Proofs.Corpus.Agreement
import SandboxLint.Proofs.Corpus.ModelAgreement
import SandboxLint.Proofs.Corpus.Side
import SandboxLint.Proofs.Corpus.Lockstep
import SandboxLint.Proofs.Corpus.Apart
import SandboxLint.Proofs.Corpus.ApartIndex
import SandboxLint.Proofs.Run.Sides
import SandboxLint.Proofs.Run.Unrelated
import SandboxLint.Proofs.CallGraph.Scanning
import SandboxLint.Proofs.Run.EntryHelpers
import SandboxLint.Proofs.Corpus.Ambiguity
import SandboxLint.Proofs.Corpus.ReferenceIndex
import SandboxLint.Proofs.Corpus.VisitingOrder
import SandboxLint.Proofs.Corpus.LocalNames
import SandboxLint.Proofs.Run.Containment
import SandboxLint.Proofs.Run.Disabling
import SandboxLint.Proofs.Run.Faultless
import SandboxLint.Proofs.Command.Modes
import SandboxLint.Proofs.Corpus.Owners
import SandboxLint.Proofs.Report
import SandboxLint.Proofs.Rule.FieldAccess
import SandboxLint.Proofs.Rule.Quoting
import SandboxLint.Proofs.Run.Findings
import SandboxLint.Proofs.Run.SplitClass
import SandboxLint.Proofs.Corpus.BreadthFirst
import SandboxLint.Proofs.Corpus.Hiding
import SandboxLint.Proofs.Corpus.FirstFault
import SandboxLint.Proofs.Corpus.MoreImports
import SandboxLint.Proofs.EntryPoint
import SandboxLint.Proofs.Rule.BaseReading
import SandboxLint.Proofs.Rule.EventTargets
import SandboxLint.Proofs.Rule.Clearing
import SandboxLint.Proofs.Source.Span
import SandboxLint.Proofs.FirstSeen
import SandboxLint.Proofs.Corpus.Merging
import SandboxLint.Proofs.Rule.Overloads
import SandboxLint.Proofs.Value.Overlay
import SandboxLint.Proofs.Run.GivenRules
import SandboxLint.Proofs.Syntax.ParameterList
import SandboxLint.Proofs.Settings.Rereading
import SandboxLint.Proofs.Rule.Registry
import SandboxLint.Proofs.Sink
import SandboxLint.Proofs.Report.ShownPath
import SandboxLint.Proofs.Discovery
import SandboxLint.Proofs.Syntax.Walk
import SandboxLint.Proofs.Corpus.Nesting
import SandboxLint.Proofs.Corpus.Termination
import SandboxLint.Proofs.Corpus.Lookups
