import SandboxLint.Command.Outcome
import SandboxLint.Syntax.Listing

/-!
The command lines on a real disk. What a check can look at is read first: the
directory it names, the settings files and the listings of syntax trees, which stand
beside the sources under the same names with `.tree` behind. Then the command runs
and what it leaves behind is written out.
-/

namespace SandboxLint
namespace Workspace

/-- The ending of listings. -/
def listingEnding : String := ".tree"

/-- What was read so far: a disk, and source texts with their listings. -/
structure Gathered where
  disk : Disk
  listings : List (String × Value) := []

/-- Adds a source with the listing beside it. -/
def addListing (gathered : Gathered) (name : String) (bytes : List UInt8) : IO Gathered := do
  try
    let listing ← IO.FS.readFile (name ++ listingEnding)
    match Value.ofJson? listing with
    | some value =>
        return { gathered with listings := (Text.decodeFile bytes, value) :: gathered.listings }
    | none => return gathered
  catch _ => return gathered

def addFile (gathered : Gathered) (name : String) : IO Gathered := do
  try
    let bytes := (← IO.FS.readBinFile name).toList
    let disk := gathered.disk.insert (Path.parse name) (.file (.bytes bytes))
    addListing { gathered with disk } name bytes
  catch _ => return gathered

/-- Reads what stands under a name, directories with all that is in them. -/
partial def addEntry (gathered : Gathered) (name : String) : IO Gathered := do
  let path := (← IO.currentDir) / name
  if !(← path.pathExists) then return gathered
  else
    let kind := (← path.symlinkMetadata).type
    if kind == .symlink then
      let target := (← IO.FS.realPath path).toString
      let disk := gathered.disk.insert (Path.parse name) (.link target)
      if ← path.isDir then return { gathered with disk } else addFile { gathered with disk } target
    else if kind == .dir then
      let disk := gathered.disk.insert (Path.parse name) (.directory [])
      (← path.readDir).foldlM (fun gathered entry => addEntry gathered entry.path.toString)
        { gathered with disk }
    else addFile gathered name

def variableNames : List String :=
  Settings.sectionNames.flatMap fun group =>
    let name := ({} : Environment.Options).leader ++ group.toUpper
    name :: (Environment.keysOf group).map fun key => name ++ "__" ++ key.toUpper

def vars : IO Environment.Variables := do
  let found ← variableNames.mapM fun name => do
    return (← IO.getEnv name).map fun text => (name, text)
  return found.filterMap fun value => value

def namesOf : Option Command.Request → List String
  | some (.check options) =>
      [projectFileName, options.directory ++ "/" ++ projectFileName, options.directory] ++
        options.configFile.toList
  | _ => []

def workplace (request : Option Command.Request) : IO Command.Workplace := do
  let working := Path.parse (← IO.currentDir).toString
  let home := (← IO.getEnv "HOME").getD "/"
  let globalFile := home ++ "/.config/udonlint/config.yaml"
  let empty : FileTree := .directory []
  let disk : Disk := { root := .insert empty working.parts empty, working }
  let gathered ← (globalFile :: namesOf request).foldlM addEntry { disk }
  return {
    disk := gathered.disk
    parser := fun source =>
      (List.lookup source.text gathered.listings).bind (Tree.ofListing? source)
    globalFile := Path.parse globalFile
    environment := ← vars }

def lineText : LogLine → String
  | .text text => text
  | .record .json fields => Value.toJsonLine (.mapping fields) ++ "\n"
  | .record .console fields =>
      " ".intercalate (fields.map fun (key, value) => key ++ "=" ++ value.display) ++ "\n"

def write (target : LogTarget) (line : LogLine) : IO Unit :=
  match target with
  | .stderr => IO.eprint (lineText line)
  | .stdout => IO.print (lineText line)
  | .nowhere => return ()
  | .file path => do
      let handle ← IO.FS.Handle.mk path .append
      handle.putStr (lineText line)

def writeEvents (outcome : Command.Outcome) : IO Unit := do
  let now := toString (← IO.monoMsNow)
  let start := (({} : Log).configure outcome.logging).1.setRunId none now
  let log := outcome.events.foldl (fun (log : Log) event => log.emit now event) start
  log.written.forM fun (target, line) => write target line

end Workspace
end SandboxLint

open SandboxLint in
/-- Runs the command line. -/
def main (args : List String) : IO UInt32 := do
  -- the program with commands goes by its own name
  let program : Command.Program :=
    if (← IO.appPath).fileName == some "udonlint" then .suite else .checker
  let place ← Workspace.workplace (Command.request program args)
  let outcome := Command.run place program args
  Workspace.writeEvents outcome
  IO.print outcome.stdout
  IO.eprint outcome.stderr
  if outcome.crash.isSome then IO.eprintln "Internal error"
  return outcome.exitCode.toUInt32
