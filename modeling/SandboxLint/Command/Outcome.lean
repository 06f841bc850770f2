import SandboxLint.Command.Request
import SandboxLint.Log
import SandboxLint.Program
import SandboxLint.Report

/-!
Running requests. A check loads its settings, lints the directory and reports: the
diagnostics and their summary on standard output, as lines or as one document, and
everything else on the error stream. Its exit code tells whether there were errors.
The events of a check are for the log and do not touch what it prints.
-/

namespace SandboxLint
namespace Command

structure Workplace where
  disk : Disk
  parser : Parser
  globalFile : Path := { parts := ["global", "config.yaml"] }
  environment : Environment.Variables := []

/-- Something that no command foresees. -/
inductive Crash where
  | load (error : LoadError)
  | fault (fault : Fault)
  | path (fault : PathFault)

/-- What a command leaves behind: what it prints, and the events that it logs under settings. -/
structure Outcome where
  exitCode : Nat := 0
  stdout : String := ""
  stderr : String := ""
  crash : Option Crash := none
  events : List LogEvent := []
  logging : LoggingSettings := {}

namespace Outcome

def unusable : Outcome :=
  { exitCode := 2 }

/-- The outcome of an error that is told to the user. -/
def refused (message : String) : Outcome :=
  { exitCode := 1, stderr := "Error: " ++ message ++ "\n" }

def crashed (crash : Crash) : Outcome :=
  { exitCode := 1, crash := some crash }

/-- The outcome with lines on the error stream before its own. -/
def after (outcome : Outcome) (lines : String) : Outcome :=
  { outcome with stderr := lines ++ outcome.stderr }

/-- The outcome with events before its own. -/
def logged (outcome : Outcome) (events : List LogEvent) : Outcome :=
  { outcome with events := events ++ outcome.events }

end Outcome

def versionLine : String := "udonlint, version 0.1.0\n"

def toolStatus (settings : Settings) (text : String) : String :=
  Status.plainLine ("[" ++ settings.output.toolName ++ "] " ++ text) "info"

def skipStatus : Loaded → String
  | .unreadable path reason =>
      Status.plainLine ("Skipping unreadable file " ++ path ++ ": " ++ reason) "warning"
  | .unparsable path _ reason =>
      Status.plainLine
        ("Skipping file that could not be parsed " ++ path ++ ": " ++ reason) "warning"
  | .parsed _ => ""

def skipEvent? : Loaded → Option LogEvent
  | .unreadable path reason =>
      some { level := .warning, name := .text "file_read_failed", logger := "engine"
             fields := [("path", .text path), ("error", .text reason)] }
  | .unparsable _ resolved reason =>
      some { level := .warning, name := .text "file_parse_failed", logger := "engine"
             fields := [("path", .text resolved), ("error", .text reason)] }
  | .parsed _ => none

def completedEvent (result : LintResult) : LogEvent :=
  { level := .info, name := .text "lint_completed", logger := "engine"
    fields :=
      [("files", .int result.filesChecked), ("entry_files", .int result.entryFiles.length),
        ("errors", .int result.errorCount), ("warnings", .int result.warningCount)] }

def documentOutcome (settings : Settings) (base : Path) (result : LintResult) : Outcome :=
  { exitCode := result.exitCode
    stdout :=
      Report.document result.diagnostics base (.int result.errorCount)
        (.int result.warningCount) settings.output.codePrefix settings.output.toolName ++ "\n" }

/-- A result as lines. -/
def linesOutcome (settings : Settings) (base : Path) (result : LintResult) : Outcome :=
  -- without entry files and diagnostics there is nothing to sum up
  if result.entryFiles.isEmpty && result.diagnostics.isEmpty then
    { stderr := toolStatus settings "No UdonSharp scripts found." }
  else
    let lines := result.diagnostics.map fun d =>
      Report.line d base settings.output.codePrefix ++ "\n"
    { exitCode := result.exitCode
      stdout := String.join lines ++ "\n" ++
        Report.summary (.int result.errorCount) (.int result.warningCount)
          settings.output.toolName ++ "\n"
      stderr := toolStatus settings ("Found " ++
        Report.pluralize (.int result.entryFiles.length) "UdonSharp script" none ++
          " to check.") }

def resultOutcome (settings : Settings) (asJson : Bool) (base : Path) (result : LintResult) :
    Outcome :=
  if asJson then documentOutcome settings base result else linesOutcome settings base result

def lintErrorOutcome : LintError → Outcome
  | .input e => .refused e.report.message
  | .fault cause => .crashed (.fault cause)
  | .path cause => .crashed (.path cause)

def loadErrorOutcome : LoadError → Outcome
  | .config e => .refused e.report.message
  | .malformed path => .refused (ConfigError.unparsable path "malformed document").report.message
  | other => .crashed (.load other)

/-- The settings for linting a directory: those of the directory, or of the working directory
when it is none. -/
def settingsFor (place : Workplace) (options : CheckOptions) : Except LoadError Settings := do
  let directory := Path.parse options.directory
  match place.disk.lookup directory with
  | .error fault => throw (.path fault)
  | .ok entry =>
      Settings.load
        { disk := place.disk
          projectRoot := if entry.any (·.isDirectory) then some directory else none
          configFile := options.configFile.map Path.parse
          globalFile := place.globalFile
          environment := place.environment }

def lintOutcome (place : Workplace) (options : CheckOptions) (settings : Settings) : Outcome :=
  let directory := Path.parse options.directory
  match Lint.loadDirectory place.disk place.parser settings directory options.excludeTests with
  | .error e => lintErrorOutcome e
  | .ok files =>
      let outcome :=
        match Lint.checkLoaded settings .catalog files with
        | .error e => lintErrorOutcome e
        | .ok result =>
            (resultOutcome settings options.asJson place.disk.working result).logged
              [completedEvent result]
      (outcome.after (String.join (files.map skipStatus))).logged (files.filterMap skipEvent?)

/-- Checks a directory under settings, and logs that it does. -/
def loggedOutcome (place : Workplace) (options : CheckOptions) (settings : Settings) : Outcome :=
  let directory := (Path.parse options.directory).toText
  let scanning :=
    if options.asJson then "" else toolStatus settings ("Scanning directory: " ++ directory)
  let started : LogEvent :=
    { level := .debug, name := .text "check_started", logger := "cli.check"
      fields := [("directory", .text directory)] }
  ((lintOutcome place options settings).after scanning).logged [started]

def checkOutcome (place : Workplace) (options : CheckOptions) : Outcome :=
  match settingsFor place options with
  | .error e => loadErrorOutcome e
  | .ok settings =>
      let logging :=
        if options.verbose then Log.simpleSettings .debug .console else settings.logging
      match ({ disk := place.disk } : Log).configure logging with
      | (_, some fault) => .crashed (.path fault)
      | (_, none) => { loggedOutcome place options settings with logging }

def categoryTitle : RuleCategory → String
  | .language => "Language features"
  | .api => "APIs and attributes"
  | .semantic => "Cross-file analysis"

def categoryLines (category : RuleCategory) : String :=
  let line (rule : Rule) : String :=
    " ".intercalate [Report.diagnosticId rule.code "UDON", rule.name, rule.severity.label,
      rule.summary]
  "\n".intercalate (categoryTitle category :: (Registry.catalog.ofCategory category).map line) ++
    "\n\n"

/-- Lists the rules: as a document on standard output, or as lines on the error stream. -/
def rulesOutcome (asJson : Bool) : Outcome :=
  if asJson then { stdout := Report.rulesDocument .catalog ++ "\n" }
  else { stderr := String.join (RuleCategory.all.map categoryLines) }

/-- Whether the settings file that a command line names is a directory, which cannot be used. -/
def namesDirectory (place : Workplace) (configFile : Option String) : Bool :=
  -- an empty name is no name of a directory
  configFile.any fun file => file != "" && place.disk.isDirectory (Path.parse file)

def run (place : Workplace) (program : Program) (args : List String) : Outcome :=
  match request program args with
  | none => .unusable
  | some .help => {}
  | some .version => { stdout := versionLine }
  | some (.rules asJson) => rulesOutcome asJson
  | some (.check options) =>
      if namesDirectory place options.configFile then .unusable else checkOutcome place options
  | some (.brokenPath configFile) =>
      if namesDirectory place configFile then .unusable else .crashed (.path .nullCharacter)

end Command
end SandboxLint
