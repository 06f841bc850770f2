import SandboxLint.Markup.Literal.Escape
import SandboxLint.Markup.Literal.Node

/-!
Formatted texts: plain text with expressions in braces. Behind an expression may stand an
equals sign, a conversion behind an exclamation mark, and a format behind a colon, which
may hold expressions again. Two braces of a kind stand for one in the plain text.
-/

namespace SandboxLint
namespace Literal

/-- What is wrong with a quoted text: something in it, or something in an expression in it, which
is then said in the words for that expression. -/
inductive TextFault where
  | own (message : String)
  | inner (error : LiteralError)
  deriving DecidableEq, Repr

/-- What is wrong with an expression in a formatted text, if anything is. -/
abbrev ExpressionCheck := List Char → Option TextFault

namespace Formatted

/-- Fails with a fault of the text itself. -/
def fail {α : Type} (message : String) : Except TextFault α :=
  .error (.own ("f-string: " ++ message))

def missingBrace {α : Type} : Except TextFault α :=
  fail "expecting '\x7d'"

/-- Plain text up to an expression or the end; it goes on when a doubled brace ended it. -/
structure PlainRun where
  text : List Char
  goesOn : Bool := false
  rest : List Char := []

/-- What a character does to a run of plain text that holds others, the last of them first. -/
def plainStep (inFormat : Bool) (text : List Char) (c : Char) (rest : List Char) :
    Except TextFault (Option PlainRun) :=
  if c == '\x7b' || c == '\x7d' then
    -- doubled braces are known outside of formats only
    if !inFormat && rest.head? == some c then
      .ok (some { text := (c :: text).reverse, goesOn := true, rest := rest.drop 1 })
    else if !inFormat && c == '\x7d' then fail "single '\x7d' is not allowed"
    else .ok (some { text := text.reverse, rest := c :: rest })
  else .ok none

/-- A run of plain text; `text` is what has been read, the last character first. -/
def plainRun (isRaw inFormat : Bool) (text : List Char) (fuel : Nat) (cs : List Char) :
    Except TextFault PlainRun :=
  match fuel, cs with
  | fuel + 1, c :: rest =>
      match if isRaw || c != '\\' then [] else rest with
      -- the braces of a character's name open no expression
      | 'N' :: '\x7b' :: more =>
          let name := more.takeWhile (· != '\x7d')
          let taken := (more.take (name.length + 1)).reverse
          plainRun isRaw inFormat (taken ++ '\x7b' :: 'N' :: c :: text) fuel
            (more.drop (name.length + 1))
      | 'N' :: d :: more => plainRun isRaw inFormat (d :: 'N' :: c :: text) fuel more
      | d :: more => do
          match ← plainStep inFormat (c :: text) d more with
          | some run => return run
          | none => plainRun isRaw inFormat (d :: c :: text) fuel more
      | [] => do
          match ← plainStep inFormat text c rest with
          | some run => return run
          | none => plainRun isRaw inFormat (c :: text) fuel rest
  | _, _ => .ok { text := text.reverse }

/-- Whether a character ends an expression outside of brackets and quotes, by the one behind it. -/
def endsExpression (c : Char) (rest : List Char) : Bool :=
  c == ':' || c == '\x7d' || ((c == '!' || c == '=') && rest.head? != some '=')

/-- Whether two characters are an operator that ends in an equals sign. -/
def isOperator (c : Char) (rest : List Char) : Bool :=
  (c == '!' || c == '=' || c == '<' || c == '>') && rest.head? == some '='

/-- Where the search for the end of an expression has come: the open brackets, the innermost first,
and the open quote, which may be a triple one. -/
structure Nesting where
  brackets : List Char := []
  quote : Option (Char × Bool) := none

namespace Nesting

/-- The nesting behind a bracket. -/
def afterBracket (nesting : Nesting) (c : Char) : Except TextFault Nesting :=
  if isOpening c then
    if Place.depthLimit ≤ nesting.brackets.length then fail "too many nested parenthesis"
    else .ok { nesting with brackets := c :: nesting.brackets }
  else
    match openingOf? c, nesting.brackets with
    | none, _ => .ok nesting
    | some _, [] => fail ("unmatched '" ++ String.singleton c ++ "'")
    | some opening, found :: rest =>
        if found == opening then .ok { nesting with brackets := rest }
        else
          fail ("closing parenthesis '" ++ String.singleton c ++
            "' does not match opening parenthesis '" ++ String.singleton found ++ "'")

def atEnd {α : Type} (nesting : Nesting) : Except TextFault α :=
  match nesting.quote, nesting.brackets with
  | some _, _ => fail "unterminated string"
  | none, bracket :: _ => fail ("unmatched '" ++ String.singleton bracket ++ "'")
  | none, [] => missingBrace

end Nesting

/-- An expression and what stands behind it; `taken` is what has been read, the last character
first. -/
def expressionEnd (nesting : Nesting) (taken : List Char) (fuel : Nat) (cs : List Char) :
    Except TextFault (List Char × List Char) :=
  match fuel, cs with
  | fuel + 1, c :: rest =>
      if c == '\\' then .error (.own "f-string expression part cannot include a backslash")
      else
        let tripled := [c, c].isPrefixOf rest
        match nesting.quote with
        | some (quote, triple) =>
            if c == quote && triple && tripled then
              expressionEnd { nesting with quote := none } (c :: c :: c :: taken) fuel
                (rest.drop 2)
            else
              let quote := if c == quote && !triple then none else nesting.quote
              expressionEnd { nesting with quote } (c :: taken) fuel rest
        | none =>
            if c == '\'' || c == '"' then
              if tripled then
                expressionEnd { nesting with quote := some (c, true) } (c :: c :: c :: taken) fuel
                  (rest.drop 2)
              else expressionEnd { nesting with quote := some (c, false) } (c :: taken) fuel rest
            else if c == '#' then
              .error (.own "f-string expression part cannot include '#'")
            else if nesting.brackets.isEmpty && isOperator c rest then
              expressionEnd nesting ('=' :: c :: taken) fuel (rest.drop 1)
            else if nesting.brackets.isEmpty && endsExpression c rest then
              .ok (taken.reverse, c :: rest)
            else do
              let nesting ← nesting.afterBracket c
              expressionEnd nesting (c :: taken) fuel rest
  | _, _ => nesting.atEnd

/-- Checks that an expression before a character is none of blanks only. -/
def checkNotBlank (expression : List Char) (behind : List Char) : Except TextFault Unit :=
  if !expression.all fun c => c == '\n' || isSpace c then .ok ()
  else
    match behind with
    | '\x7d' :: _ | [] => fail "empty expression not allowed"
    | c :: _ => fail ("expression required before '" ++ String.singleton c ++ "'")

def afterEquals : List Char → Except TextFault (List Char)
  | '=' :: rest =>
      match rest.dropWhile fun c => isSpace c || c == '\n' || c.toNat == 11 with
      | [] => missingBrace
      | rest => .ok rest
  | cs => .ok cs

def afterConversion : List Char → Except TextFault (List Char)
  | '!' :: c :: rest =>
      if c == 's' || c == 'r' || c == 'a' then .ok rest
      else fail "invalid conversion character: expected 's', 'r', or 'a'"
  | '!' :: [] => missingBrace
  | cs => .ok cs

/-- The depth at which expressions are nested too deeply. -/
def formatLimit : Nat := 2

mutual

/-- Checks a formatted text, or a format at a depth, and gives what stands behind it. -/
def textEnd (check : ExpressionCheck) (isRaw : Bool) :
    Nat → Nat → List Char → Except TextFault (List Char)
  | 0, _, cs => .ok cs
  | fuel + 1, depth, cs => do
      let run ← plainRun isRaw (depth != 0) [] (cs.length + 1) cs
      match plainFault? isRaw run.text with
      | some message => throw (.own message)
      | none =>
          if run.goesOn then textEnd check isRaw fuel depth run.rest
          else
            match run.rest with
            | '\x7b' :: rest =>
                let behind ← fieldEnd check isRaw fuel depth rest
                textEnd check isRaw fuel depth behind
            | '\x7d' :: rest => return '\x7d' :: rest
            | _ => if depth == 0 then return [] else missingBrace

/-- Checks an expression behind its opening brace, with all that belongs to it, and gives what
stands behind its closing brace. -/
def fieldEnd (check : ExpressionCheck) (isRaw : Bool) :
    Nat → Nat → List Char → Except TextFault (List Char)
  | 0, _, cs => .ok cs
  | fuel + 1, depth, cs => do
      if formatLimit ≤ depth then fail "expressions nested too deeply"
      let (expression, behind) ← expressionEnd {} [] (cs.length + 1) cs
      checkNotBlank expression behind
      match check expression with
      | some fault => throw fault
      | none =>
          let behind ← afterConversion (← afterEquals behind)
          let behind ← match behind with
            | ':' :: [] => missingBrace
            | ':' :: format => textEnd check isRaw fuel (depth + 1) format
            | _ => pure behind
          match behind with
          | '\x7d' :: rest => return rest
          | _ => missingBrace

end

end Formatted

def formattedFault? (check : ExpressionCheck) (quoted : Quoted) : Option TextFault :=
  match Formatted.textEnd check quoted.isRaw (2 * quoted.body.length + 2) 0 quoted.body with
  | .ok _ => none
  | .error fault => some fault

/-- What is wrong with neighbouring quoted texts, which are one text. -/
def textsFault? (check : ExpressionCheck) : List Quoted → Option TextFault
  | [] => none
  | first :: rest => faultFrom first.isBytes (first :: rest)
where
  faultFrom (isBytes : Bool) : List Quoted → Option TextFault
    | [] => none
    | quoted :: rest =>
        let decoded : Option TextFault :=
          if quoted.isFormatted then none
          else if quoted.isBytes then (bytesFault? quoted).map .own
          else (plainFault? quoted.isRaw quoted.body).map .own
        let mixed : Option TextFault :=
          -- all of them are bytes or none is
          if quoted.isBytes != isBytes then some (.own "cannot mix bytes and nonbytes literals")
          else none
        let formatted := if quoted.isFormatted then formattedFault? check quoted else none
        decoded.orElse fun _ => mixed.orElse fun _ => formatted.orElse fun _ =>
          faultFrom isBytes rest

end Literal
end SandboxLint
