import SandboxLint.Discovery
import SandboxLint.Run
import SandboxLint.Settings.Load

/-!
Linting from a disk: files are found, read, decoded and parsed, and what was parsed
is run. The parser of the language is given from outside.
-/

namespace SandboxLint

/-- A parser of source texts; it may give no tree. -/
abbrev Parser := Source → Option Tree

namespace Loaded

/-- What is said of a text without a tree. -/
def parseFailure : String := "Parsing failed"

def ofDisk (disk : Disk) (parser : Parser) (path : Path) : Except PathFault Loaded := do
  if path.hasNull then throw .nullCharacter
  else
    match disk.readBytes path with
    | .error e => return .unreadable path.toText e.message
    | .ok bytes =>
        let source := Source.ofText (Text.decodeFile bytes)
        let resolved := (← disk.resolve path).toText
        match parser source with
        | some tree => return .parsed { path := resolved, source, tree }
        | none => return .unparsable path.toText resolved parseFailure

end Loaded

/-- Why linting gives no result. -/
inductive LintError where
  | input (error : InputError)
  | fault (fault : Fault)
  | path (fault : PathFault)
  deriving DecidableEq, Repr

namespace LintError

def ofDiscovery : Discovery.Problem → LintError
  | .input error => .input error
  | .path cause => .path cause

def ofRun : RunError → LintError
  | .noReadableFiles count => .input (.noReadableFiles count)
  | .fault cause => .fault cause

end LintError

namespace Lint

def checkLoaded (settings : Settings) (registry : Registry) (files : List Loaded) :
    Except LintError LintResult :=
  (Run.check settings.analysis registry files).mapError .ofRun

def loadFiles (disk : Disk) (parser : Parser) (paths : List Path) :
    Except LintError (List Loaded) :=
  (paths.mapM (Loaded.ofDisk disk parser)).mapError .path

/-- Lints the files at some paths. -/
def checkFiles (disk : Disk) (parser : Parser) (settings : Settings) (registry : Registry)
    (paths : List Path) : Except LintError LintResult :=
  match loadFiles disk parser paths with
  | .ok files => checkLoaded settings registry files
  | .error e => .error e

def loadDirectory (disk : Disk) (parser : Parser) (settings : Settings) (root : Path)
    (excludeTests : Bool) : Except LintError (List Loaded) :=
  match Discovery.sources disk root settings.discovery excludeTests with
  | .ok paths => loadFiles disk parser paths
  | .error problem => .error (.ofDiscovery problem)

/-- Lints the source files below a directory. -/
def checkDirectory (disk : Disk) (parser : Parser) (settings : Settings) (registry : Registry)
    (root : Path) (excludeTests : Bool) : Except LintError LintResult :=
  match loadDirectory disk parser settings root excludeTests with
  | .ok files => checkLoaded settings registry files
  | .error e => .error e

end Lint
end SandboxLint
