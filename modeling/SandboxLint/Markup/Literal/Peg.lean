import SandboxLint.Markup.Literal.Formatted
import SandboxLint.Markup.Literal.Node
import SandboxLint.Text.PlainLetter

/-!
Reading of tokens by a grammar of ordered rules. The alternatives of a rule are tried one
after the other, and the first that matches counts. What a rule gave at a token is kept, so
that it is not read again there. Some alternatives describe mistakes, and most of those
are tried only while mistakes are looked for.
-/

namespace SandboxLint
namespace Literal

/-- What is read: an expression, a word as written, or several of them. With an expression comes how
deep it is nested, and with a word how deep the expressions are that it stands for. -/
inductive Part where
  | node (expr : Node) (depth : Nat := 1)
  | word (text : String) (depth : Nat := 0)
  | row (parts : List Part)
  deriving Repr, Inhabited

namespace Part

mutual

/-- The expressions and words of a part, commas left out. -/
def leaves : Part → List Part
  | .row parts => leavesOf parts
  | .word text depth => if text == "," then [] else [.word text depth]
  | .node expr depth => [.node expr depth]

def leavesOf : List Part → List Part
  | [] => []
  | part :: rest => part.leaves ++ leavesOf rest

end

mutual

/-- How deep the expressions of a part are nested. -/
def depth : Part → Nat
  | .node _ depth => depth
  | .word _ depth => depth
  | .row parts => depthOf parts

def depthOf : List Part → Nat
  | [] => 0
  | part :: rest => max part.depth (depthOf rest)

end

/-- The expression that a part is. -/
def node? : Part → Option Node
  | .node expr _ => some expr
  | _ => none

def nodes (part : Part) : List Node :=
  part.leaves.filterMap node?

def toNode (part : Part) : Node :=
  part.nodes.headD (.other "")

/-- The pairs of expressions in a row of such pairs. -/
def pairs : Part → List (Node × Node)
  | .row parts => parts.filterMap fun part =>
      match part.nodes with
      | [key, value] => some (key, value)
      | _ => none
  | _ => []

end Part

namespace Peg

/-- What the alternative of a rule is made of; the rules have names in `ρ`. A `faultless` rule is
read without a look for mistakes, what is `listed` has commas between, an item `ahead` is looked
for but not taken, and behind a `commit` no other alternative is tried. -/
inductive Item (ρ : Type) where
  | name
  | softWord
  | number
  | text
  | texts
  | symbol (text : String)
  | newline
  | finish
  | rule (rule : ρ)
  | faultless (rule : ρ)
  | maybe (item : Item ρ)
  | many (item : Item ρ)
  | several (item : Item ρ)
  | listed (item : Item ρ)
  | ahead (item : Item ρ)
  | notAhead (item : Item ρ)
  | oneOf (options : List (List (Item ρ)))
  | commit

/-- What an alternative matched: its parts, and how many brackets are open behind it. -/
structure Found where
  parts : List Part
  brackets : Nat

namespace Found

def part (found : Found) (i : Nat) : Part :=
  found.parts[i]?.getD (.row [])

def node (found : Found) (i : Nat) : Node :=
  (found.part i).toNode

end Found

/-- What an alternative that matched amounts to: a part, the failure of its rule, or a mistake. -/
inductive Reply where
  | part (part : Part)
  | nothing
  | mistake (message : String)

/-- An alternative of a rule. One for mistakes only is tried while these are looked for. -/
structure Alternative (ρ : Type) where
  items : List (Item ρ)
  reply : Found → Reply := fun found => .part (found.part 0)
  forMistakes : Bool := false

/-- A rule: a choice of alternatives, or one to which others are added as long as they match. -/
inductive Shape (ρ : Type) where
  | choice (alternatives : List (Alternative ρ))
  | growing (first additions : List (Alternative ρ))

/-- Rules by their names, and which of them are kept. -/
structure Grammar (ρ : Type) where
  shape : ρ → Shape ρ
  isKept : ρ → Bool

/-- Why reading stops: a mistake, one in an expression in a formatted text, tokens that end before
their time or cannot be read on, or rules within rules beyond the limit. -/
inductive Stop where
  | mistake (message : String)
  | inner (error : LiteralError)
  | cut (ending : Ending) (brackets : List (Char × Nat))
  | broken (error : TokenError)
  | tooDeep
  deriving DecidableEq, Repr

/-- What is read: tokens, and how expressions in formatted texts are checked. -/
structure Source where
  tokens : Array Token
  check : ExpressionCheck

/-- Where reading has come: the position, how many tokens have been looked at, how many levels of
rules are being read, whether mistakes are looked for, and what rules gave at the tokens. -/
structure State (ρ : Type) where
  position : Nat := 0
  reached : Nat := 0
  level : Nat := 0
  seeking : Bool := false
  kept : Array (List (ρ × Option (Part × Nat))) := #[]

namespace State

variable {ρ : Type}

/-- What a rule gave at the position before. -/
def keptAt? [BEq ρ] (s : State ρ) (rule : ρ) : Option (Option (Part × Nat)) :=
  List.lookup rule ((s.kept[s.position]?).getD [])

/-- A state that keeps what a rule gave at a position. -/
def keep (s : State ρ) (position : Nat) (rule : ρ) (given : Option (Part × Nat)) : State ρ :=
  { s with kept := s.kept.modify position ((rule, given) :: ·) }

end State

/-- Reading changes the state, which stays known when it stops. -/
abbrev Reader (ρ : Type) := ExceptT Stop (StateM (State ρ))

/-- How many digits a whole number may have. -/
def sizeLimit : Nat := 4300

def sizeMessage (size : Nat) : String :=
  "Exceeds the limit (" ++ toString sizeLimit ++
    " digits) for integer string conversion: value has " ++ toString size ++
    " digits; use sys.set_int_max_str_digits() to increase the limit - Consider hexadecimal " ++
    "for huge integer literals to avoid decimal conversion limits."

/-- Words that are names elsewhere. -/
def softWords : List String := ["_", "case", "match"]

/-- Whether a word is one of these, or has begun to be. -/
def isSoftWord (text : String) : Bool :=
  softWords.any fun word => text.toList.isPrefixOf word.toList

section

variable {ρ : Type}

def position : Reader ρ Nat := do
  return (← get).position

def moveTo (position : Nat) : Reader ρ Unit :=
  modify fun s => { s with position }

/-- How many levels of rules may be read. -/
def levelLimit : Nat := 6000

/-- Reads something some levels further down. -/
@[inline] def within {α : Type} (levels : Nat) (reader : Reader ρ α) : Reader ρ α := do
  if levelLimit < (← get).level + levels then throw .tooDeep
  modify fun s => { s with level := s.level + levels }
  let result ← reader
  modify fun s => { s with level := s.level - levels }
  return result

def peek (source : Source) : Reader ρ Token := do
  modify fun s => { s with reached := max s.reached (s.position + 1) }
  match source.tokens[← position]? with
  | none => return { kind := .finish }
  | some token =>
      match token.kind with
      | .cut ending => throw (.cut ending token.brackets)
      | .broken error => throw (.broken error)
      | _ => return token

/-- Goes beyond the next token. -/
def skip : Reader ρ Unit :=
  modify fun s => { s with position := s.position + 1 }

/-- Takes the next token if a part can be made of it. -/
def take (source : Source) (part? : Token → Option Part) : Reader ρ (Option (List Part)) := do
  match part? (← peek source) with
  | some part =>
      skip
      return some [part]
  | none => return none

/-- Takes quoted texts that follow one another; `taken` are those before, the last first. -/
def takeTexts (source : Source) : Nat → List Quoted → Reader ρ (List Quoted)
  | 0, taken => return taken.reverse
  | fuel + 1, taken => do
      match (← peek source).kind with
      | .text quoted =>
          skip
          takeTexts source fuel (quoted :: taken)
      | _ => return taken.reverse

def takeText (source : Source) : Reader ρ (Option (List Part)) := do
  let texts ← takeTexts source source.tokens.size []
  match textsFault? source.check texts with
  | some (.own message) => throw (.mistake message)
  | some (.inner error) => throw (.inner error)
  | none =>
      if texts.isEmpty then return none
      else if texts.any (·.isFormatted) then return some [.node (.other "f-string expression")]
      else return some [.node (.constant "literal")]

def takeNumber (source : Source) : Reader ρ (Option (List Part)) := do
  match (← peek source).kind with
  | .number imaginary size =>
      if sizeLimit < size then throw (.mistake (sizeMessage size))
      skip
      return some [.node (.number imaginary)]
  | _ => return none

/-- Items matched in a row, with their parts, or not; then no other alternative of the rule may be
tried if the row went beyond a commitment. -/
inductive Attempt where
  | matched (parts : List Part)
  | failed (committed : Bool)

/-- How many brackets are open behind the last token taken. -/
def bracketsBehind (source : Source) : Reader ρ Nat := do
  let last := source.tokens[(← position) - 1]?
  return (last.map fun token => token.brackets.length).getD 0

/-- Several parts as one. -/
def rowOf : List Part → Part
  | [part] => part
  | parts => .row parts

/-- Whether an item is a commitment. -/
def Item.isCommit : Item ρ → Bool
  | .commit => true
  | _ => false

variable [BEq ρ]

mutual

def readItem (g : Grammar ρ) (source : Source) : Nat → Item ρ → Reader ρ (Option (List Part))
  | 0, _ => return none
  | fuel + 1, item => do
      match item with
      | .name => take source fun token =>
          if token.kind == .name then some (.node (.name (Text.plainName token.text))) else none
      | .softWord => take source fun token =>
          if token.kind == .name && isSoftWord token.text then some (.word token.text) else none
      | .number => takeNumber source
      | .text => take source fun token =>
          match token.kind with
          | .text _ => some (.word token.text)
          | _ => none
      | .texts => within 2 (takeText source)
      | .symbol text => take source fun token =>
          if token.isSymbol text then some (.word text) else none
      | .newline => take source fun token =>
          if token.kind == .newline then some (.row []) else none
      | .finish => take source fun token =>
          if token.kind == .finish then some (.row []) else none
      | .rule rule => return (← readRule g source fuel rule).map ([·])
      | .faultless rule =>
          let seeking := (← get).seeking
          modify fun s => { s with seeking := false }
          let part ← readRule g source fuel rule
          modify fun s => { s with seeking }
          return part.map ([·])
      | .maybe item =>
          let start ← position
          match ← readItem g source fuel item with
          | some parts => return some [rowOf parts]
          | none =>
              moveTo start
              return some [.row []]
      | .many item => return some [.row (← within 1 (readMany g source fuel item []))]
      | .several item =>
          let parts ← within 1 (readMany g source fuel item [])
          return if parts.isEmpty then none else some [.row parts]
      | .listed item =>
          match ← within 1 (readItem g source fuel item) with
          | none => return none
          | some first =>
              let parts ← within 2 (readListed g source fuel item [])
              return some [.row (first ++ parts)]
      | .ahead item =>
          let start ← position
          let parts ← readItem g source fuel item
          moveTo start
          return parts.map fun _ => []
      | .notAhead item =>
          let start ← position
          let parts ← readItem g source fuel item
          moveTo start
          return if parts.isSome then none else some []
      | .oneOf options => within 1 (readOptions g source fuel options)
      | .commit => return some []

/-- Reads an item as often as it matches; `parts` are those before, the last first. -/
def readMany (g : Grammar ρ) (source : Source) :
    Nat → Item ρ → List Part → Reader ρ (List Part)
  | 0, _, parts => return parts.reverse
  | fuel + 1, item, parts => do
      let start ← position
      match ← readItem g source fuel item with
      | some found => readMany g source fuel item (rowOf found :: parts)
      | none =>
          moveTo start
          return parts.reverse

/-- Reads an item behind a comma as often as it matches; `parts` are those before, the last
first. -/
def readListed (g : Grammar ρ) (source : Source) :
    Nat → Item ρ → List Part → Reader ρ (List Part)
  | 0, _, parts => return parts.reverse
  | fuel + 1, item, parts => do
      let start ← position
      match ← readRow g source fuel false [.symbol ",", item] [] with
      | .matched found => readListed g source fuel item (rowOf found :: parts)
      | .failed _ =>
          moveTo start
          return parts.reverse

/-- Reads the first of some rows of items that matches. -/
def readOptions (g : Grammar ρ) (source : Source) :
    Nat → List (List (Item ρ)) → Reader ρ (Option (List Part))
  | 0, _ | _, [] => return none
  | fuel + 1, items :: rest => do
      let start ← position
      match ← readRow g source fuel false items [] with
      | .matched parts => return some (if parts.isEmpty then [] else [rowOf parts])
      | .failed _ =>
          moveTo start
          readOptions g source fuel rest

/-- Reads items in a row; `parts` are those before, the last first. -/
def readRow (g : Grammar ρ) (source : Source) :
    Nat → Bool → List (Item ρ) → List Part → Reader ρ Attempt
  | 0, committed, _, _ => return .failed committed
  | _, _, [], parts => return .matched parts.reverse
  | fuel + 1, committed, item :: rest, parts => do
      match ← readItem g source fuel item with
      | some found => readRow g source fuel (committed || item.isCommit) rest (found ++ parts)
      | none => return .failed committed

/-- Reads the first alternative that matches behind parts that have been read. -/
def readChoice (g : Grammar ρ) (source : Source) :
    Nat → List (Alternative ρ) → List Part → Reader ρ (Option Part)
  | 0, _, _ | _, [], _ => return none
  | fuel + 1, alternative :: rest, parts => do
      if alternative.forMistakes && !(← get).seeking then readChoice g source fuel rest parts
      else
        let start ← position
        match ← readRow g source fuel false alternative.items parts with
        | .matched parts =>
            match alternative.reply { parts, brackets := ← bracketsBehind source } with
            | .part part => return some part
            | .nothing => return none
            | .mistake message => throw (.mistake message)
        | .failed true => return none
        | .failed false =>
            moveTo start
            readChoice g source fuel rest parts

/-- Reads additions to a part as long as they match. -/
def readAdditions (g : Grammar ρ) (source : Source) :
    Nat → List (Alternative ρ) → Part → Reader ρ Part
  | 0, _, part => return part
  | fuel + 1, additions, part => do
      let start ← position
      match ← readChoice g source fuel additions [part] with
      | some part => readAdditions g source fuel additions part
      | none =>
          moveTo start
          return part

def readShape (g : Grammar ρ) (source : Source) : Nat → Shape ρ → Reader ρ (Option Part)
  | 0, _ => return none
  | fuel + 1, .choice alternatives => readChoice g source fuel alternatives []
  | fuel + 1, .growing first additions => within 1 do
      match ← readChoice g source fuel first [] with
      | some part => return some (← readAdditions g source fuel additions part)
      | none => return none

/-- Reads a rule, or takes what it gave before. -/
def readRule (g : Grammar ρ) (source : Source) : Nat → ρ → Reader ρ (Option Part)
  | 0, _ => return none
  | fuel + 1, rule => within 1 do
      if g.isKept rule then
        match (← get).keptAt? rule with
        | some (some (part, stop)) =>
            moveTo stop
            return some part
        | some none => return none
        | none =>
            let start ← position
            let part ← readShape g source fuel (g.shape rule)
            let stop ← position
            modify fun s => s.keep start rule (part.map (·, stop))
            return part
      else readShape g source fuel (g.shape rule)

end

/-- Reads the rule that everything begins with, and tells how many tokens were looked at. -/
def readWhole (g : Grammar ρ) (source : Source) (start : ρ) (seeking : Bool) (reached : Nat) :
    Except Stop (Option Part) × Nat :=
  let size := source.tokens.size
  -- more fuel than rules can go down, each a few steps before it takes a token
  let (result, s) := (readRule g source (1000 * size + 1000) start).run.run
    { seeking, reached, kept := Array.replicate (size + 1) [] }
  (result, s.reached)

end

end Peg
end Literal
end SandboxLint
