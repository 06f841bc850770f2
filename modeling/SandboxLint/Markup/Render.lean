import SandboxLint.Markup.Emoji
import SandboxLint.Markup.Literal.Check
import SandboxLint.Markup.StyleName
import SandboxLint.Markup.Tag
import SandboxLint.Text.Cells
import SandboxLint.Text.Word
import SandboxLint.Value.Display

/-!
Rendering of marked-up text. The text is kept and the tags are dropped; a tag that
closes must have an open one to close. Names of emoji in the text are replaced, and
tabs are filled up to the next tab stop. Tags that begin with an at sign are for
handlers, whose parameters are written as literals.
-/

namespace SandboxLint
namespace Markup

inductive MarkupError where
  | unmatched (tag : String) (position : Nat)
  | nothingOpen (position : Nat)
  | badGrammar (literal parameters reason : String)
  | badValue (parameters reason : String)
  | missingComponent
  | longComponent (digits : Nat)
  deriving DecidableEq, Repr

def MarkupError.message : MarkupError → String
  | .unmatched tag position =>
      "closing tag '" ++ tag ++ "' at position " ++ toString position ++
        " doesn't match any open tag"
  | .nothingOpen position =>
      "closing tag '[/]' at position " ++ toString position ++ " has nothing to close"
  | .badGrammar literal parameters reason =>
      "error parsing " ++ Text.quoted literal ++ " in " ++ Text.quoted parameters ++ "; " ++ reason
  | .badValue parameters reason => "error parsing " ++ Text.quoted parameters ++ "; " ++ reason
  | .missingComponent => "invalid literal for int() with base 10: ''"
  | .longComponent digits =>
      "Exceeds the limit (" ++ toString WrittenInteger.sizeLimit ++
        " digits) for integer string conversion: value has " ++ toString digits ++
        " digits; use sys.set_int_max_str_digits() to increase the limit"

/-- An open tag by the name that closes it, with what stands behind its equals sign. -/
structure OpenTag where
  name : String
  parameters : Option String := none
  deriving DecidableEq, Repr

namespace OpenTag

def isHandler (tag : OpenTag) : Bool :=
  Text.startsWith tag.name "@"

/-- The words of a tag's style. -/
def style (tag : OpenTag) : String :=
  match tag.parameters with
  | some parameters => tag.name ++ " " ++ parameters
  | none => tag.name

end OpenTag

/-- The literal in a handler's parameters: what stands in brackets behind the handler's name, the
empty brackets when there is only a name, else all of it. -/
def handlerLiteral (parameters : String) : String :=
  let cs := Text.trim parameters.toList
  let name := cs.takeWhile fun c => Text.isWordChar c || c == '.'
  match cs.drop name.length with
  | [] => "()"
  | '(' :: rest =>
      if rest.getLast? == some ')' && !rest.contains '\n' then String.ofList ('(' :: rest)
      else String.ofList cs
  | _ => String.ofList cs

def checkHandler (parameters : String) : Except MarkupError Unit :=
  if parameters == "" then .ok ()
  else
    let literal := handlerLiteral parameters
    let source := String.ofList (literal.toList.dropWhile fun c => c == ' ' || c == '\t')
    match Literal.check source with
    | .ok _ => .ok ()
    | .error (.grammar message) => .error (.badGrammar literal parameters message)
    | .error (.value e) => .error (.badValue parameters e.message)

/-- What a fault in the words of a style means for marked-up text: words that describe no style
are no style, and no error. -/
def ofFault? : Style.Fault → Option MarkupError
  | .unknown => none
  | .missingComponent => some .missingComponent
  | .longComponent digits => some (.longComponent digits)

/-- The name by which a tag is closed. -/
def closingName (name : String) : Except MarkupError String :=
  match Style.normalized name with
  | .ok name => .ok name
  | .error fault => .error ((ofFault? fault).getD .missingComponent)

def checkStyle (tag : OpenTag) : Except MarkupError Unit :=
  match Style.ofText tag.style with
  | .ok _ => .ok ()
  | .error fault => ((ofFault? fault).map .error).getD (.ok ())

/-- Control characters that are not printed. -/
def isDropped (c : Char) : Bool :=
  [7, 8, 11, 12, 13].contains c.toNat

/-- A stretch of text with the tag that gives its style: the numbers of the characters before it
and up to its end. -/
structure Styled where
  start : Nat
  stop : Nat
  tag : OpenTag
  deriving DecidableEq, Repr

/-- The text rendered so far, the open tags with their places, the last opened first, and the
stretches of closed ones, the last closed first. -/
structure Rendering where
  text : List Char := []
  opened : List (Nat × OpenTag) := []
  closed : List Styled := []

namespace Rendering

/-- Closes an open tag that began at a place. -/
def close (r : Rendering) (start : Nat) (tag : OpenTag) (opened : List (Nat × OpenTag)) :
    Except MarkupError Rendering := do
  if tag.isHandler then
    checkHandler (tag.parameters.getD "")
    return { r with opened }
  else return { r with opened, closed := { start, stop := r.text.length, tag } :: r.closed }

def apply (r : Rendering) (body : List Char) (position : Nat) : Except MarkupError Rendering := do
  match Text.beforeFirst '=' body with
  | '/' :: name =>
      let name := Text.trim name
      if name.isEmpty then
        match r.opened with
        | (start, tag) :: rest => r.close start tag rest
        | [] => throw (.nothingOpen position)
      else
        let name ← closingName (String.ofList name)
        match r.opened.find? (·.2.name == name) with
        | some (start, tag) => r.close start tag (r.opened.eraseP (·.2.name == name))
        | none => throw (.unmatched (String.ofList (written body)) position)
  | name =>
      let parameters :=
        if body.contains '=' then some (String.ofList (Text.afterFirst '=' body)) else none
      let name ← closingName (String.ofList name)
      return { r with opened := (r.text.length, { name, parameters }) :: r.opened }

def step (r : Rendering) : Chunk → Except MarkupError Rendering
  | .plain text =>
      .ok { r with text := r.text ++ (Emoji.replace (unescaped text)).filter (!isDropped ·) }
  | .tag body position => r.apply body position

/-- The stretches of all tags in the order in which they begin; of those that begin together, the
one that is closed last comes first. -/
def stretches (r : Rendering) : List Styled :=
  -- tags left open end with the text
  let left := r.opened.map fun (start, tag) => { start, stop := r.text.length, tag }
  (left.reverse ++ r.closed).mergeSort fun a b => a.start ≤ b.start

/-- The stretches whose styles are looked at. -/
def shown (r : Rendering) : List Styled :=
  if r.text.contains '\n' || r.text.contains '\t' then
    -- of a stretch only what it has of a part counts, unless that is empty
    (parts 0 0 r.text).flatMap fun (first, last) =>
      r.stretches.filter fun s => max s.start first < min s.stop last
  else r.stretches
where
  /-- The parts of a text by where they begin and end; `first` is where the part that is being read
  begins, and `here` is the place reached. -/
  parts (first here : Nat) : List Char → List (Nat × Nat)
    | [] => [(first, here)]
    | c :: rest =>
        if c == '\n' then (first, here) :: parts (here + 1) (here + 1) rest
        else if c == '\t' then (first, here + 1) :: parts (here + 1) (here + 1) rest
        else parts first (here + 1) rest

end Rendering

/-- The distance of tab stops. -/
def tabSize : Nat := 8

/-- The parts of a line between its tabs, with the tabs filled up to the next tab stop; `column` is
where the first part begins. -/
def expandParts (column : Nat) : List (List Char) → List Char
  | [] => []
  | [last] => last
  | part :: rest =>
      -- a tab takes one cell at least
      let shown := part ++ [' ']
      let stop := column + Text.cells shown
      let fill := (tabSize - stop % tabSize) % tabSize
      shown ++ List.replicate fill ' ' ++ expandParts (stop + fill) rest

/-- A text with tabs filled up, line by line. -/
def expandTabs (cs : List Char) : List Char :=
  ['\n'].intercalate ((Text.splitAt '\n' cs).map fun line => expandParts 0 (Text.splitAt '\t' line))

/-- Marked-up text as printed. -/
def render (text : String) : Except MarkupError String := do
  let r ← (chunks text).foldlM Rendering.step {}
  r.shown.forM fun s => checkStyle s.tag
  return String.ofList (expandTabs r.text)

end Markup
end SandboxLint
