import SandboxLint.FileTree
import SandboxLint.Settings.Basic
import SandboxLint.Status
import SandboxLint.Value.Basic

/-!
The log of a process. Events below the threshold of the log are dropped; the others
go to every handler whose own level they reach. Handlers of the terminal are silent
while it is suppressed, handlers of files are not. Lines for the user are written
to the error stream whatever the threshold is, and leave an event of their own.
-/

namespace SandboxLint

/-- Where lines go. -/
inductive LogTarget where
  | stderr
  | stdout
  | file (path : String)
  | nowhere
  deriving DecidableEq, Repr

namespace LogTarget

/-- The file of an absolute path, whatever way the path is written. -/
def ofPath (path : String) : LogTarget :=
  .file (Path.resolve {} (Path.parse path)).toText

/-- The target that a destination names; what is written to a device is gone. -/
def ofDestination (disk : Disk) (destination : String) : LogTarget :=
  if destination == "stderr" then .stderr
  else if destination == "stdout" then .stdout
  else if disk.isDevice (.parse destination) then .nowhere
  else .ofPath destination

def isConsole : LogTarget → Bool
  | .stderr | .stdout => true
  | .file _ | .nowhere => false

end LogTarget

/-- One output of a log. -/
structure LogHandler where
  target : LogTarget
  format : LogFormat
  level : LogLevel
  deriving DecidableEq, Repr

/-- The handler of an output, with the level of all outputs unless it has its own. -/
def LogHandler.ofSettings (disk : Disk) (shared : LogLevel) (output : LogOutputSettings) :
    LogHandler :=
  { target := .ofDestination disk output.destination
    format := output.format
    level := output.level.getD shared }

/-- Something to be logged, named by any value or by none, which is null; an event without a
logger's name carries none. -/
structure LogEvent where
  level : LogLevel
  name : Value
  logger : String := ""
  fields : Mapping := []

namespace LogLevel

def recordLabel : LogLevel → String
  | .debug => "debug"
  | .info => "info"
  | .warning => "warning"
  | .error => "error"
  | .critical => "critical"

def ofRecordLabel? (label : String) : Option LogLevel :=
  all.find? (·.recordLabel == label)

/-- The level that a verb logs at; some levels have a second verb. -/
def ofVerb? (verb : String) : Option LogLevel :=
  match verb with
  | "warn" => some .warning
  | "fatal" => some .critical
  | "msg" => some .info
  | "exception" => some .error
  | _ => ofRecordLabel? verb

/-- Whether a level is at least a threshold. -/
def reaches (level threshold : LogLevel) : Bool :=
  threshold.weight ≤ level.weight

end LogLevel

namespace LogEvent

/-- The event that a verb logs, if it is one. An exception says so in a field of its own unless
the event has that field. -/
def ofVerb? (verb : String) (name : Value) (logger : String) (fields : Mapping) :
    Option LogEvent :=
  (LogLevel.ofVerb? verb).map fun level =>
    { level, name, logger
      fields := if verb == "exception" then fields.putNew "exc_info" (.bool true) else fields }

/-- Fields that are kept for the writing of records and stand in none. -/
def reservedFields : List String := ["_record", "_from_structlog"]

end LogEvent

/-- An event as a record with its time and the run it belongs to. -/
def LogEvent.record (event : LogEvent) (time : String) (runId : Option String) : Mapping :=
  let named : Mapping := if event.logger == "" then [] else [("logger", .text event.logger)]
  let own := event.fields.filter fun (key, _) => !LogEvent.reservedFields.contains key
  let fields := own.foldl (fun acc (key, value) => Assoc.put acc key value) named
  -- the event's own fields give way to those that every record has
  let called := match event.name with
    | .null => fields
    | name => fields.put "event" name
  let said := (called.put "level" (.text event.level.recordLabel)).put "timestamp" (.text time)
  match runId with
  | some id => said.put "run_id" (.text id)
  | none => said

/-- What is written at once: a record in a format, or text for the user. -/
inductive LogLine where
  | record (format : LogFormat) (fields : Mapping)
  | text (text : String)

/-- The state of a log, the disk with its files, and all it has written. -/
structure Log where
  disk : Disk := { root := .system }
  threshold : LogLevel := .warning
  handlers : List LogHandler := []
  runId : Option String := none
  suppressed : Bool := false
  written : List (LogTarget × LogLine) := []

namespace Log

variable (log : Log)

/-- The disk with the file of an output, if it has one. -/
def openOutput (output : LogOutputSettings) : Except PathFault Disk :=
  if output.destination == "stderr" || output.destination == "stdout" then .ok log.disk
  else log.disk.openToWrite (.parse output.destination)

/-- Adds the handlers of outputs up to one whose file cannot be opened. -/
def addHandlers (shared : LogLevel) (log : Log) : List LogOutputSettings → Log × Option PathFault
  | [] => (log, none)
  | output :: rest =>
      match log.openOutput output with
      | .ok disk =>
          let handler := LogHandler.ofSettings disk shared output
          addHandlers shared { log with disk, handlers := log.handlers ++ [handler] } rest
      -- the handlers before it stay
      | .error fault => (log, some fault)

/-- Replaces the threshold and the handlers. -/
def configure (settings : LoggingSettings) : Log × Option PathFault :=
  addHandlers settings.level { log with threshold := settings.level, handlers := [] }
    settings.outputs

/-- The settings of a log with one output to the error stream. -/
def simpleSettings (level : LogLevel) (format : LogFormat) : LoggingSettings :=
  { level, outputs := [{ format }] }

/-- Gives the run a name: the one wanted unless it is empty, else a fresh one. -/
def setRunId (wanted : Option String) (fresh : String) : Log :=
  match wanted with
  | some id => { log with runId := some (if id == "" then fresh else id) }
  | none => { log with runId := some fresh }

def clearRunId : Log :=
  { log with runId := none }

def suppress : Log :=
  { log with suppressed := true }

/-- Ends the silence of the terminal, however often it was silenced. -/
def release : Log :=
  { log with suppressed := false }

/-- Whether a handler takes an event of a level now. -/
def admits (level : LogLevel) (handler : LogHandler) : Bool :=
  level.reaches handler.level && !(log.suppressed && handler.target.isConsole)

def emit (time : String) (event : LogEvent) : Log :=
  if event.level.reaches log.threshold then
    let fields := event.record time log.runId
    let lines := (log.handlers.filter (log.admits event.level)).map fun handler =>
      (handler.target, LogLine.record handler.format fields)
    { log with written := log.written ++ lines }
  else log

def linesOf (target : LogTarget) : List LogLine :=
  (log.written.filter (·.1 == target)).map (·.2)

/-- Prints a status line and logs it. -/
def status (time : String) (message : Value) (style : String) (indent : Int) :
    Except Markup.MarkupError Log := do
  let shown ← Status.line message.display style indent
  let printed : Log :=
    { log with written := log.written ++ [(LogTarget.stderr, LogLine.text shown)] }
  return printed.emit time
    { level := .debug, name := .text "status", logger := Status.loggerName
      fields := [("message", message), ("style", .text style)] }

/-- The total of a progress: the one given, else the number of items if it is known. -/
def progressTotal (given : Value) (count : Option Nat) : Value :=
  match given, count with
  | .null, some count => .int count
  | total, _ => total

/-- The words for something that is not made of items. -/
def noItemsMessage (value : Value) : String :=
  "'" ++ value.kindName ++ "' object is not iterable"

/-- Logs the beginning and the end of going through items, when there is a description and a
total, neither of them void. -/
def progress (time : String) (description total : Value) : Log :=
  if description.isVoid || total.isVoid then log
  else
    let event (name : String) : LogEvent :=
      { level := .debug, name := .text name, logger := Status.loggerName
        fields := [("desc", description), ("total", total)] }
    (log.emit time (event "progress_start")).emit time (event "progress_done")

end Log
end SandboxLint
