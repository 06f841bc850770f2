import SandboxLint.Error
import SandboxLint.FileTree
import SandboxLint.Settings.Basic
import SandboxLint.Text.Lowercase
import SandboxLint.Text.Order

/-!
Discovery of source files below a directory. Directories are pruned by name at any
depth: version control always, generated and editor directories unless others are
configured, test directories on demand. Links to directories are not entered, links
to files are resolved.
-/

namespace SandboxLint
namespace Discovery

/-- Never entered. -/
def hardcodedDirs : List String := [".git", ".svn", ".hg", ".bzr"]

/-- Not entered unless other names are configured. -/
def defaultPrunableDirs : List String :=
  ["Temp", "Library", "Logs", "UserSettings", "obj", "bin", "Editor", "editor"]

/-- Not entered when test scripts are excluded. -/
def testScriptDirs : List String := ["TestScripts", "Tests", "Test"]

def prunedDirs (settings : DiscoverySettings) (excludeTests : Bool) : List String :=
  hardcodedDirs ++ settings.excludedDirs.getD defaultPrunableDirs ++
    (if excludeTests then testScriptDirs else [])

/-- An extension in lower case with a dot in front. -/
def normalizedExtension (ext : String) : String :=
  if Text.startsWith ext "." then Text.lower ext else "." ++ Text.lower ext

def hasExtension (extensions : List String) (name : String) : Bool :=
  extensions.contains (Text.lower (Path.suffixOf name))

mutual

/-- The files in a directory at some parts, below directories that are not pruned. -/
def filesIn (leadsToDirectory : List String → Bool) (pruned : List String) (here : List String) :
    FileTree → List (List String)
  | .directory entries => filesInEntries leadsToDirectory pruned here entries
  | _ => []

/-- The files that entries of a directory contribute, entry by entry. -/
def filesInEntries (leadsToDirectory : List String → Bool) (pruned : List String)
    (here : List String) : List (String × FileTree) → List (List String)
  | [] => []
  | entry :: entries =>
      filesInEntry leadsToDirectory pruned here entry ++
        filesInEntries leadsToDirectory pruned here entries

def filesInEntry (leadsToDirectory : List String → Bool) (pruned : List String)
    (here : List String) : String × FileTree → List (List String)
  | (name, .file _) => [here ++ [name]]
  | (name, .device) => [here ++ [name]]
  -- links count as files unless they lead to directories
  | (name, .link _) => if leadsToDirectory (here ++ [name]) then [] else [here ++ [name]]
  | (name, .directory entries) =>
      if pruned.contains name then []
      else filesInEntries leadsToDirectory pruned (here ++ [name]) entries

end

/-- Whether one list of parts comes no later than another, part by part. -/
def partsOrdered : List String → List String → Bool
  | [], _ => true
  | _ :: _, [] => false
  | a :: as, b :: bs => if a == b then partsOrdered as bs else decide (a < b)

/-- Why files cannot be found. -/
inductive Problem where
  | input (error : InputError)
  | path (fault : PathFault)
  deriving DecidableEq, Repr

/-- The files in a directory that have one of the extensions, resolved. -/
def resolvedFiles (disk : Disk) (settings : DiscoverySettings) (excludeTests : Bool)
    (here : Path) (tree : FileTree) : Except PathFault (List Path) :=
  let extensions := settings.extensions.map normalizedExtension
  let leadsToDirectory := fun parts => disk.isDirectory { root := .slash, parts }
  let found := filesIn leadsToDirectory (prunedDirs settings excludeTests) here.parts tree
  let wanted := found.filter fun parts => hasExtension extensions (parts.getLast?.getD "")
  wanted.mapM fun parts => disk.resolve { root := .slash, parts }

/-- The source files below a directory, resolved, in the order of their parts. -/
def sources (disk : Disk) (root : Path) (settings : DiscoverySettings) (excludeTests : Bool) :
    Except Problem (List Path) :=
  match disk.lookup root with
  | .error fault => .error (.path fault)
  | .ok none => .error (.input (.directoryNotFound root.toText))
  | .ok (some (.directory entries)) =>
      match disk.resolve root with
      | .error fault => .error (.path fault)
      | .ok here =>
          match resolvedFiles disk settings excludeTests here (.directory entries) with
          | .error fault => .error (.path fault)
          | .ok paths => .ok (paths.mergeSort fun a b => partsOrdered a.parts b.parts)
  | .ok (some _) => .error (.input (.notADirectory root.toText))

end Discovery
end SandboxLint
