import SandboxLint.Markup.Literal.Grammar

/-!
Which texts are literals. A text is read twice when it is no expression: the second time
mistakes are looked for, so that the message can tell what is wrong. Tokens that cannot be
read count more than mistakes, wherever they stand.
-/

namespace SandboxLint
namespace Literal

def openMessage (bracket : Char) : String :=
  "'" ++ String.singleton bracket ++ "' was never closed"

/-- The words for a text that ends before its time, with brackets open. -/
def Ending.message (ending : Ending) (brackets : List (Char × Nat)) : String :=
  match ending, brackets with
  | .brokenLine, _ => "unexpected character after line continuation character"
  | .openBracket, (bracket, _) :: _ => openMessage bracket
  | _, _ => "unexpected EOF while parsing"

/-- Where an expression stands: on its own, or in a formatted text. -/
inductive Setting where
  | alone
  | inText
  deriving DecidableEq, Repr

namespace Setting

def start : Setting → Rule
  | .alone => .whole
  | .inText => .embedded

/-- The message for a mistake in an expression. -/
def words (setting : Setting) (message : String) : String :=
  match setting with
  | .alone => message
  | .inText => "f-string: " ++ message

end Setting

/-- What is wrong with tokens when a mistake has been found after some of them: a fault in any
token, a bracket left open on an earlier line, or the mistake. -/
def messageAfter (setting : Setting) (tokens : Array Token) (reached : Nat) (message : String) :
    String :=
  let line := ((tokens[reached - 1]?).map (·.line)).getD 1
  match tokens.back? with
  | none => message
  | some last =>
      match last.kind, last.brackets with
      | .broken error, _ => error.message
      | .cut _, (bracket, opened) :: _ =>
          if opened < line then setting.words (openMessage bracket) else message
      | _, _ => message

/-- What is wrong with tokens when a mistake with a message of its own has been found after some of
them. -/
def ownMessage (setting : Setting) (tokens : Array Token) (reached : Nat) (message : String) :
    String :=
  -- counts most when the end of the text has been seen
  if (tokens[reached - 1]?).any (·.seesEnd) then message
  else messageAfter setting tokens reached message

/-- The error for a reading that stopped. -/
def stopError (setting : Setting) (tokens : Array Token) (reached : Nat) : Peg.Stop → LiteralError
  | .mistake message => .grammar (ownMessage setting tokens reached (setting.words message))
  | .inner (.grammar message) => .grammar (ownMessage setting tokens reached message)
  | .inner (.value error) => .value error
  | .cut ending brackets => .grammar (setting.words (ending.message brackets))
  | .broken error => .grammar error.message
  | .tooDeep => .value .tooDeep

/-- The error for tokens that are no expression, of which some were looked at. -/
def mistakeError (setting : Setting) (source : Peg.Source) (reached : Nat) : LiteralError :=
  let tokens := source.tokens
  match Peg.readWhole grammar source setting.start true reached with
  | (.error stop, later) => stopError setting tokens later stop
  | (.ok _, later) =>
      if (tokens[reached - 1]?).any (·.kind == .indentation) then
        .grammar (setting.words "unexpected indent")
      else .grammar (messageAfter setting tokens later (setting.words "invalid syntax"))

/-- How deep an expression may be nested. -/
def nestingLimit : Nat := 2900

def readExpression (setting : Setting) (check : ExpressionCheck) (cs : List Char) :
    Except LiteralError Node :=
  let source : Peg.Source := { tokens := (tokens cs).toArray, check }
  match Peg.readWhole grammar source setting.start false 0 with
  | (.ok (some part), _) =>
      if nestingLimit < part.depth then .error (.value .tooNested) else .ok part.toNode
  | (.ok none, reached) => .error (mistakeError setting source reached)
  | (.error stop, reached) => .error (stopError setting source.tokens reached stop)

/-- Checks expressions in formatted texts, which may hold such texts again, to a depth. -/
def checkEmbedded : Nat → ExpressionCheck
  | 0, _ => none
  | depth + 1, cs =>
      match readExpression .inText (checkEmbedded depth) ('(' :: cs ++ [')', '\n']) with
      | .ok _ => none
      | .error error => some (.inner error)

/-- Checks that a text is a literal. -/
def check (text : String) : Except LiteralError Unit := do
  let cs := text.toList
  if cs.contains (Char.ofNat 0) then throw (.value .nullCharacter)
  match kindOf (← readExpression .alone (checkEmbedded cs.length) cs) with
  | .ok _ => return ()
  | .error error => throw (.value error)

end Literal
end SandboxLint
