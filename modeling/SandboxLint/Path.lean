import SandboxLint.Text.Split

/-!
Paths as a root and a list of parts. Reading a path drops empty parts and single
dots; exactly two slashes at the beginning are a root of their own. Parts that
are double dots stay until a path is resolved.
-/

namespace SandboxLint

/-- What a path starts from: the place it is used at, the root, or the double-slash root. -/
inductive PathRoot where
  | relative
  | slash
  | doubleSlash
  deriving DecidableEq, Repr, Inhabited

def PathRoot.label : PathRoot → String
  | .relative => ""
  | .slash => "/"
  | .doubleSlash => "//"

structure Path where
  root : PathRoot := .relative
  parts : List String := []
  deriving DecidableEq, Repr, Inhabited

namespace Path

/-- The root that a path's characters begin with. -/
def rootOf : List Char → PathRoot
  | '/' :: '/' :: '/' :: _ => .slash
  | '/' :: '/' :: _ => .doubleSlash
  | '/' :: _ => .slash
  | _ => .relative

def parse (text : String) : Path :=
  { root := rootOf text.toList
    parts := ((Text.splitAt '/' text.toList).map String.ofList).filter fun part =>
      part != "" && part != "." }

/-- The text of a path; a dot for the empty relative path. -/
def toText (path : Path) : String :=
  if path.root == .relative && path.parts.isEmpty then "."
  else path.root.label ++ "/".intercalate path.parts

def isAbsolute (path : Path) : Bool :=
  path.root != .relative

def hasNull (path : Path) : Bool :=
  path.parts.any fun part => part.toList.any (·.toNat == 0)

/-- The last part, empty when there is none. -/
def name (path : Path) : String :=
  path.parts.getLast?.getD ""

def parent (path : Path) : Path :=
  { path with parts := path.parts.dropLast }

/-- A path used at another: itself when absolute, else its parts behind the other's. -/
def join (base path : Path) : Path :=
  if path.isAbsolute then path else { base with parts := base.parts ++ path.parts }

/-- The ending of a name from its last dot, when there is something on both sides of the dot. -/
def suffixOf (name : String) : String :=
  let cs := name.toList
  let after := Text.afterLast '.' cs
  if cs.contains '.' && !after.isEmpty && after.length + 1 < cs.length then
    String.ofList ('.' :: after)
  else ""

/-- The parts with each double dot taking away the part before it. -/
def collapse (parts : List String) : List String :=
  parts.foldl (fun acc part => if part == ".." then acc.dropLast else acc ++ [part]) []

/-- A path made absolute at `base`, double dots taken away. -/
def resolve (base path : Path) : Path :=
  { root := .slash, parts := collapse (base.join path).parts }

/-- The parts of a path behind a base it lies below, component by component. -/
def relativeTo? (path base : Path) : Option Path :=
  if path.root == base.root && base.parts.isPrefixOf path.parts then
    some { parts := path.parts.drop base.parts.length }
  else none

end Path
end SandboxLint
