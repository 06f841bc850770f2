import SandboxLint.Text.Split

/-!
Tags in lines for the user. A tag stands in square brackets and begins with a small
letter, a number sign, a slash or an at sign; backslashes right before its bracket
escape it, two of them standing for one. Escaping a text keeps its tags from being
taken for tags.
-/

namespace SandboxLint
namespace Markup

/-- What a tag may begin with. -/
def startsTag (c : Char) : Bool :=
  ('a' ≤ c && c ≤ 'z') || c == '#' || c == '/' || c == '@'

/-- The tag that follows an opening bracket, if there is one. -/
def tag? : List Char → Option (List Char)
  | [] => none
  | c :: rest =>
      let inner := rest.takeWhile fun c => c != '[' && c != ']'
      if startsTag c && (rest.drop inner.length).head? == some ']' then some (c :: inner) else none

/-- A piece of marked-up text: a character, or a tag with the number of backslashes before it. -/
inductive Piece where
  | char (c : Char)
  | tag (slashes : Nat) (body : List Char)
  deriving DecidableEq, Repr

/-- The pieces of a text right before which `slashes` backslashes stand. -/
def piecesFrom (slashes : Nat) (cs : List Char) : List Piece :=
  match cs with
  | [] => List.replicate slashes (.char '\\')
  | c :: rest =>
      if c == '\\' then piecesFrom (slashes + 1) rest
      else
        match if c == '[' then tag? rest else none with
        | some body => .tag slashes body :: piecesFrom 0 (rest.drop (body.length + 1))
        | none => List.replicate slashes (.char '\\') ++ .char c :: piecesFrom 0 rest
termination_by cs.length
decreasing_by all_goals simp; try omega

def pieces (text : String) : List Piece :=
  piecesFrom 0 text.toList

def written (body : List Char) : List Char :=
  '[' :: body ++ [']']

namespace Piece

def width : Piece → Nat
  | .char _ => 1
  | .tag slashes body => slashes + body.length + 2

def escaped : Piece → List Char
  | .char c => [c]
  | .tag slashes body => List.replicate (2 * slashes + 1) '\\' ++ written body

end Piece

/-- A text whose tags render as they are written. -/
def escape (text : String) : String :=
  let cs := (pieces text).flatMap (·.escaped)
  match cs.reverse with
  -- a single backslash at the end is doubled, so that it escapes nothing that follows
  | ['\\'] => String.ofList (cs ++ ['\\'])
  | '\\' :: c :: _ => String.ofList (if c == '\\' then cs else cs ++ ['\\'])
  | _ => String.ofList cs

/-- What marked-up text is made of: runs of plain text, and tags at their positions. -/
inductive Chunk where
  | plain (text : List Char)
  | tag (body : List Char) (position : Nat)
  deriving DecidableEq, Repr

/-- The chunks of a tag at a position. -/
def tagChunks (position slashes : Nat) (body : List Char) : List Chunk :=
  -- pairs of backslashes stand for one each
  let shown : List Chunk :=
    if slashes < 2 then [] else [.plain (List.replicate (slashes / 2) '\\')]
  -- one that is left over makes plain text of the tag
  if slashes % 2 == 1 then shown ++ [.plain (written body)]
  else shown ++ [.tag body (position + slashes)]

/-- The chunks of pieces that begin at a position; `run` is the plain text since the last tag. -/
def chunksFrom (position : Nat) (run : List Char) : List Piece → List Chunk
  | [] => if run.isEmpty then [] else [.plain run]
  | .char c :: rest => chunksFrom (position + 1) (run ++ [c]) rest
  | .tag slashes body :: rest =>
      (if run.isEmpty then [] else [.plain run]) ++ tagChunks position slashes body ++
        chunksFrom (position + (Piece.tag slashes body).width) [] rest

def chunks (text : String) : List Chunk :=
  chunksFrom 0 [] (pieces text)

/-- Plain text without the backslashes that stand right before brackets. -/
def unescaped : List Char → List Char
  | '\\' :: '[' :: rest => '[' :: unescaped rest
  | c :: rest => c :: unescaped rest
  | [] => []

end Markup
end SandboxLint
