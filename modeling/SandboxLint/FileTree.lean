import SandboxLint.Path
import SandboxLint.Text.Utf8
import SandboxLint.Value.Display

/-!
Directory trees with files, devices and symbolic links, and a disk as such a tree with
a working directory. Opening a path follows at most as many links as the limit says.
Resolving a path follows all of them, and fails only where they lead in a circle. A
file can be opened to write behind its end, which makes it and the directories above it.
-/

namespace SandboxLint

/-- What a file holds: bytes, or a configuration document that is read or malformed. -/
inductive FileContent where
  | bytes (bytes : List UInt8)
  | document (value : Value)
  | malformed

/-- A file, a device, which is empty and takes what is written, a link to a target, or a directory
of named entries. -/
inductive FileTree where
  | file (content : FileContent)
  | device
  | link (target : String)
  | directory (entries : List (String × FileTree))

namespace FileTree

instance : Inhabited FileTree := ⟨.directory []⟩

def isDirectory : FileTree → Bool
  | .directory _ => true
  | _ => false

/-- The directories that every machine has, as far as they are known. -/
def system : FileTree :=
  .directory
    (("dev", .directory [("null", .device)]) ::
      ["bin", "boot", "etc", "home", "lib", "media", "mnt", "opt", "proc", "root", "run", "sbin",
        "srv", "sys", "tmp", "usr", "var"].map fun name => (name, .directory []))

mutual

def linkCount : FileTree → Nat
  | .file _ => 0
  | .device => 0
  | .link _ => 1
  | .directory entries => linkCountAll entries

def linkCountAll : List (String × FileTree) → Nat
  | [] => 0
  | entry :: entries => linkCountOf entry + linkCountAll entries

def linkCountOf : String × FileTree → Nat
  | (_, tree) => linkCount tree

end

/-- The entry at the end of parts, no links followed. -/
def find? : FileTree → List String → Option FileTree
  | tree, [] => some tree
  | .directory entries, part :: rest =>
      match List.lookup part entries with
      | some tree => tree.find? rest
      | none => none
  | _, _ :: _ => none

/-- An entry put where another may be: an empty directory leaves a directory as it is. -/
def replacing (entry old : FileTree) : FileTree :=
  match entry, old with
  | .directory [], .directory entries => .directory entries
  | _, _ => entry

/-- The tree with an entry at the end of parts; directories on the way are made. -/
def insert (entry : FileTree) : List String → FileTree → FileTree
  | [], old => entry.replacing old
  | part :: rest, tree =>
      let entries : List (String × FileTree) :=
        match tree with
        | .directory entries => entries
        | _ => []
      .directory (Assoc.alter entries part fun old => insert entry rest (old.getD (.directory [])))

end FileTree

/-- Why something on a disk cannot be read or made. -/
inductive ReadError where
  | notFound
  | alreadyThere
  | isDirectory
  | notADirectory
  | nameTooLong
  | tooManyLinks
  deriving DecidableEq, Repr

def ReadError.message : ReadError → String
  | .notFound => "No such file or directory"
  | .alreadyThere => "File exists"
  | .isDirectory => "Is a directory"
  | .notADirectory => "Not a directory"
  | .nameTooLong => "File name too long"
  | .tooManyLinks => "Too many levels of symbolic links"

def ReadError.number : ReadError → Nat
  | .notFound => 2
  | .alreadyThere => 17
  | .isDirectory => 21
  | .notADirectory => 20
  | .nameTooLong => 36
  | .tooManyLinks => 40

def ReadError.report (error : ReadError) (path : String) : String :=
  "[Errno " ++ toString error.number ++ "] " ++ error.message ++ ": " ++ Text.quoted path

/-- Why a path cannot be used at all: it cannot be looked up, its links lead in a circle, or it
holds the character that ends paths. -/
inductive PathFault where
  | lookup (error : ReadError) (path : String)
  | linkCircle (path : String)
  | nullCharacter
  deriving DecidableEq, Repr

def PathFault.message : PathFault → String
  | .lookup error path => error.report path
  | .linkCircle path => "Symlink loop from " ++ Text.quoted path
  | .nullCharacter => "embedded null byte"

/-- A directory tree with the directory in which relative paths are used. -/
structure Disk where
  root : FileTree := .directory []
  working : Path := { root := .slash }

namespace Disk

/-- How many links are followed on the way to a file. -/
def linkLimit : Nat := 40

/-- How many bytes the name of an entry may have. -/
def nameLimit : Nat := 255

/-- How many bytes a path may have. -/
def pathLimit : Nat := 4095

variable (disk : Disk)

/-- The entry behind parts, links followed; every part before the last must be a directory. -/
def openFrom (links : Nat) (done rest : List String) : Except ReadError FileTree :=
  match disk.root.find? done with
  | none => .error .notFound
  | some tree =>
      match rest with
      | [] => .ok tree
      | part :: rest =>
          if !tree.isDirectory then .error .notADirectory
          else if nameLimit < part.utf8ByteSize then .error .nameTooLong
          else if part == ".." then openFrom links done.dropLast rest
          else
            match disk.root.find? (done ++ [part]) with
            | some (.link target) =>
                let target := Path.parse target
                if 0 < links then
                  openFrom (links - 1) (if target.isAbsolute then [] else done)
                    (target.parts ++ rest)
                else .error .tooManyLinks
            | _ => openFrom links (done ++ [part]) rest
termination_by (links, rest.length)

def entry (path : Path) : Except ReadError FileTree :=
  if path.hasNull then .error .notFound
  else if pathLimit < path.toText.utf8ByteSize then .error .nameTooLong
  else disk.openFrom linkLimit [] (disk.working.join path).parts

/-- The entry that a path leads to, none where there is nothing; a path that cannot be looked up
is a fault. -/
def lookup (path : Path) : Except PathFault (Option FileTree) :=
  match disk.entry path with
  | .ok tree => .ok (some tree)
  | .error .nameTooLong => .error (.lookup .nameTooLong path.toText)
  | .error _ => .ok none

def isDirectory (path : Path) : Bool :=
  match disk.entry path with
  | .ok tree => tree.isDirectory
  | .error _ => false

/-- The content of the file that a path leads to. -/
def content (path : Path) : Except ReadError FileContent :=
  match disk.entry path with
  | .ok (.file content) => .ok content
  | .ok .device => .ok (.bytes [])
  | .ok _ => .error .isDirectory
  | .error e => .error e

/-- The bytes of the file that a path leads to; a document has none of its own. -/
def readBytes (path : Path) : Except ReadError (List UInt8) :=
  match disk.content path with
  | .ok (.bytes bytes) => .ok bytes
  | .ok _ => .ok []
  | .error e => .error e

/-- Parts as far as links could be resolved, and whether they could all be. -/
structure Resolution where
  parts : List String
  complete : Bool := true

/-- Resolves parts behind those already resolved, while the links in `active` are being followed.
The fuel bounds how deep links lead into each other, which is less than the number of links. -/
def resolveFrom (fuel : Nat) (active : List (List String)) (done rest : List String) :
    Resolution :=
  match rest with
  | [] => { parts := done }
  | part :: rest =>
      if part == ".." then resolveFrom fuel active done.dropLast rest
      else
        let here := done ++ [part]
        match disk.root.find? here with
        | some (.link target) =>
            let target := Path.parse target
            match fuel with
            | 0 => { parts := here ++ rest, complete := false }
            | fuel + 1 =>
                -- the link leads back to itself
                if active.contains here then { parts := here ++ rest, complete := false }
                else
                  let inner := resolveFrom fuel (here :: active)
                    (if target.isAbsolute then [] else done) target.parts
                  if inner.complete then resolveFrom (fuel + 1) active inner.parts rest
                  else { parts := inner.parts ++ rest, complete := false }
        -- what does not exist stays as written
        | _ => resolveFrom fuel active here rest
termination_by (fuel, rest.length)

/-- The path without links and double dots that a path stands for. -/
def resolve (path : Path) : Except PathFault Path :=
  let found := disk.resolveFrom (disk.root.linkCount + 1) [] [] (disk.working.join path).parts
  -- where links lead in a circle they stay, unless double dots take them away
  let resolved : Path := { root := .slash, parts := Path.collapse found.parts }
  match disk.entry resolved with
  | .error .tooManyLinks => .error (.linkCircle resolved.toText)
  | _ => .ok resolved

/-- The parts at which something that is written to a path lands: a file is written through a
link of its name. -/
def landing (path : Path) (entry : FileTree) : List String :=
  let resolved := fun (path : Path) => ((disk.resolve path).toOption.getD path).parts
  match entry with
  | .file _ => resolved path
  | _ => resolved path.parent ++ [path.name]

/-- The disk with an entry at a path, written through links. -/
def insert (path : Path) (entry : FileTree) : Disk :=
  { disk with root := FileTree.insert entry (disk.landing path entry) disk.root }

/-- The disk with a directory at a path, made with those above it unless it is there. -/
def makeDirectory (path : Path) : Except PathFault Disk :=
  match disk.entry path with
  | .ok tree =>
      if tree.isDirectory then .ok disk else .error (.lookup .alreadyThere path.toText)
  | .error .notFound => .ok (disk.insert path (.directory []))
  | .error e => .error (.lookup e path.toText)

/-- The disk with a file at a path to write to, made with the directories above it unless it is
there. -/
def openToWrite (path : Path) : Except PathFault Disk := do
  if path.hasNull then throw .nullCharacter
  let disk ← disk.makeDirectory path.parent
  -- double dots are taken away once the directories are made
  let path := { path with parts := Path.collapse path.parts }
  match disk.entry path with
  | .ok tree => if tree.isDirectory then throw (.lookup .isDirectory path.toText) else return disk
  | .error .notFound => return disk.insert path (.file (.bytes []))
  | .error e => throw (.lookup e path.toText)

def isDevice (path : Path) : Bool :=
  match disk.entry path with
  | .ok .device => true
  | _ => false

end Disk
end SandboxLint
