import SandboxLint.Text.Identifier
import SandboxLint.Text.Printable

/-!
The tokens of written literals: names, numbers, quoted texts and symbols. Brackets
must match; a text ends on the line it begins on unless it stands in triple quotes.
Line breaks inside brackets separate nothing. What cannot be read ends the tokens, as
the last of them.
-/

namespace SandboxLint
namespace Literal

/-- Why tokens cannot be read on. -/
inductive TokenError where
  | unterminated (line : Nat)
  | unterminatedTriple (line : Nat)
  | unmatched (bracket : Char)
  | mismatched (closing opening : Char) (line : Option Nat)
  | tooDeep
  | badNumber (kind : String)
  | badDigit (digit : Char) (kind : String)
  | leadingZeros
  | badCharacter (c : Char)
  deriving DecidableEq, Repr

/-- A quoted text: what stands between the quotes, and what the letters before them say. -/
structure Quoted where
  body : List Char
  isBytes : Bool := false
  isRaw : Bool := false
  isFormatted : Bool := false
  deriving DecidableEq, Repr

/-- How a text may end before its time: behind a backslash that continues no line, behind one that
continues the last line, or inside brackets. -/
inductive Ending where
  | brokenLine
  | missingLine
  | openBracket
  deriving DecidableEq, Repr

/-- What a token is. Words with a meaning of their own are symbols. Of a whole number in decimal
digits the number of digits is kept. The last token tells whether the text ended in its order. -/
inductive TokenKind where
  | name
  | number (imaginary : Bool) (size : Nat)
  | text (quoted : Quoted)
  | symbol
  | newline
  | indentation
  | finish
  | cut (ending : Ending)
  | broken (error : TokenError)
  deriving DecidableEq, Repr

/-- A token as written, the line it begins on, the brackets that are open behind it with their
lines, the innermost first, and whether the end of the text had to be seen to know that the token
does not go on. -/
structure Token where
  kind : TokenKind
  text : String := ""
  line : Nat := 1
  brackets : List (Char × Nat) := []
  seesEnd : Bool := false
  deriving DecidableEq, Repr

def Token.isSymbol (token : Token) (text : String) : Bool :=
  token.kind == .symbol && token.text == text

/-- The hexadecimal digits of a code point in capitals, at least four. -/
def codePoint (c : Char) : String :=
  let digits := (Nat.toDigits 16 c.toNat).map Char.toUpper
  "U+" ++ String.ofList (List.replicate (4 - digits.length) '0' ++ digits)

def TokenError.message : TokenError → String
  | .unterminated line => "unterminated string literal (detected at line " ++ toString line ++ ")"
  | .unterminatedTriple line =>
      "unterminated triple-quoted string literal (detected at line " ++ toString line ++ ")"
  | .unmatched bracket => "unmatched '" ++ String.singleton bracket ++ "'"
  | .mismatched closing opening line =>
      "closing parenthesis '" ++ String.singleton closing ++
        "' does not match opening parenthesis '" ++ String.singleton opening ++ "'" ++
        (match line with
        | some line => " on line " ++ toString line
        | none => "")
  | .tooDeep => "too many nested parentheses"
  | .badNumber kind => "invalid " ++ kind ++ " literal"
  | .badDigit digit kind =>
      "invalid digit '" ++ String.singleton digit ++ "' in " ++ kind ++ " literal"
  | .leadingZeros =>
      "leading zeros in decimal integer literals are not permitted; " ++
        "use an 0o prefix for octal integers"
  | .badCharacter c =>
      if Text.isPrintable c then
        "invalid character '" ++ String.singleton c ++ "' (" ++ codePoint c ++ ")"
      else "invalid non-printable character " ++ codePoint c

/-! Numbers. Every reader takes the characters that are left and gives those behind what it
read. -/

def isDigit (c : Char) : Bool :=
  '0' ≤ c && c ≤ '9'

def isOctal (c : Char) : Bool :=
  '0' ≤ c && c ≤ '7'

def isBinary (c : Char) : Bool :=
  c == '0' || c == '1'

def isHex (c : Char) : Bool :=
  isDigit c || ('a' ≤ c && c ≤ 'f') || ('A' ≤ c && c ≤ 'F')

/-- Whether a character may stand in a name, as far as its code tells. -/
def inName (c : Char) : Bool :=
  isDigit c || ('a' ≤ c && c ≤ 'z') || ('A' ≤ c && c ≤ 'Z') || c == '_' || 128 ≤ c.toNat

/-- Whether a character may begin a name, as far as its code tells. -/
def beginsName (c : Char) : Bool :=
  inName c && !isDigit c

/-- Words that may follow a number without a space, and of which nothing need be behind. -/
def wordsAfterNumber : List String :=
  ["if", "in", "is"]

/-- Words that may follow a number without a space when no name goes on behind them. -/
def wholeWordsAfterNumber : List String :=
  ["and", "else", "for", "not", "or"]

/-- Whether a word that may follow a number does so. -/
def hasWordAfterNumber (cs : List Char) : Bool :=
  wordsAfterNumber.any (fun word => word.toList.isPrefixOf cs) ||
    wholeWordsAfterNumber.any fun word =>
      word.toList.isPrefixOf cs && !(cs.drop word.length).head?.any inName

/-- The end of a number: no name may follow directly. -/
def numberEnd (kind : String) (cs : List Char) : Except TokenError (List Char) :=
  if cs.head?.any inName && !hasWordAfterNumber cs then .error (.badNumber kind) else .ok cs

/-- Digits of a kind with single underscores between them, behind at least one digit or an
underscore. -/
def digitTail (isIn : Char → Bool) (error : TokenError) : List Char → Except TokenError (List Char)
  | '_' :: c :: rest => if isIn c then digitTail isIn error rest else .error error
  | '_' :: [] => .error error
  | c :: rest => if isIn c then digitTail isIn error rest else .ok (c :: rest)
  | [] => .ok []

def basedNumber (kind : String) (isIn : Char → Bool) (cs : List Char) :
    Except TokenError (List Char) :=
  let digits := match cs with
    | '_' :: rest => rest
    | _ => cs
  match digits with
  | c :: rest =>
      if isIn c then do
        let rest ← digitTail isIn (.badNumber kind) rest
        match rest with
        | d :: _ => if isDigit d then .error (.badDigit d kind) else numberEnd kind rest
        | [] => .ok []
      else if isDigit c then .error (.badDigit c kind)
      else .error (.badNumber kind)
  | [] => .error (.badNumber kind)

def decimalTail (cs : List Char) : Except TokenError (List Char) :=
  digitTail isDigit (.badNumber "decimal") cs

/-- An exponent, if there is one, and whether there was. -/
def exponent (cs : List Char) : Except TokenError (Bool × List Char) :=
  match cs with
  | e :: rest =>
      if e == 'e' || e == 'E' then
        match rest with
        | c :: more =>
            if isDigit c then (decimalTail more).map (true, ·)
            else if c == '+' || c == '-' then
              match more with
              | d :: more =>
                  if isDigit d then (decimalTail more).map (true, ·)
                  else .error (.badNumber "decimal")
              | [] => .error (.badNumber "decimal")
            else .ok (false, cs)
        | [] => .ok (false, cs)
      else .ok (false, cs)
  | [] => .ok (false, [])

/-- What follows the whole part of a number and its fraction: an exponent and a letter for imaginary
numbers. The first result tells whether it is imaginary, the second whether anything followed. -/
def numberTail (cs : List Char) : Except TokenError (Bool × Bool × List Char) := do
  let (hasExponent, cs) ← exponent cs
  match cs with
  | c :: rest =>
      if c == 'j' || c == 'J' then return (true, true, ← numberEnd "imaginary" rest)
      else return (false, hasExponent, cs)
  | [] => return (false, hasExponent, [])

def fraction (cs : List Char) : Except TokenError (List Char) :=
  match cs with
  | c :: rest => if isDigit c then decimalTail rest else .ok cs
  | [] => .ok []

def hasExponentLetter (cs : List Char) : Bool :=
  cs.head?.any fun c => c == 'e' || c == 'E'

/-- A decimal number behind its whole part. -/
def decimalRest (zerosInFront : Bool) (cs : List Char) : Except TokenError (Bool × List Char) := do
  let (hasPoint, cs) ← match cs with
    | '.' :: rest => do pure (true, ← fraction rest)
    | _ => pure (false, cs)
  let (imaginary, hasTail, cs) ← numberTail cs
  -- zeros stand in front of other digits only when something follows
  if zerosInFront && !hasPoint && !hasTail && !hasExponentLetter cs then throw .leadingZeros
  else if imaginary then return (true, cs)
  else return (false, ← numberEnd "decimal" cs)

/-- Zeros with single underscores between them, behind a zero. -/
def zeroTail : List Char → Except TokenError (List Char)
  | '_' :: c :: rest =>
      if c == '0' then zeroTail rest
      else if isDigit c then .ok (c :: rest)
      else .error (.badNumber "decimal")
  | '_' :: [] => .error (.badNumber "decimal")
  | '0' :: rest => zeroTail rest
  | cs => .ok cs

/-- A number that begins with a digit, and whether it is imaginary. -/
def number (first : Char) (rest : List Char) : Except TokenError (Bool × List Char) :=
  if first == '0' then
    match rest with
    | 'x' :: more | 'X' :: more => (basedNumber "hexadecimal" isHex more).map (false, ·)
    | 'o' :: more | 'O' :: more => (basedNumber "octal" isOctal more).map (false, ·)
    | 'b' :: more | 'B' :: more => (basedNumber "binary" isBinary more).map (false, ·)
    | _ => do
        let behind ← zeroTail rest
        match behind with
        | c :: more =>
            if isDigit c then decimalRest true (← decimalTail more) else decimalRest false behind
        | [] => decimalRest false []
  else do decimalRest false (← decimalTail rest)

/-! Texts and symbols. -/

/-- The letters that may stand right before a quoted text. -/
def isTextMark (letters : String) : Bool :=
  ["", "b", "u", "r", "f", "br", "rb", "fr", "rf"].contains letters

/-- What a quoted text holds and what stands behind it. -/
structure QuotedEnd where
  body : List Char
  line : Nat
  rest : List Char

/-- The rest of a quoted text; `line` is the line that has been reached, and `body` what has been
read, the last character first. -/
def textEnd (quote : Char) (triple : Bool) (body : List Char) :
    Nat → List Char → Except TokenError QuotedEnd
  | line, [] => .error (if triple then .unterminatedTriple line else .unterminated line)
  | line, c :: rest =>
      if c == '\\' then
        match rest with
        -- a backslash takes the character behind it along
        | d :: more =>
            textEnd quote triple (d :: c :: body) (if d == '\n' then line + 1 else line) more
        | [] => .error (if triple then .unterminatedTriple line else .unterminated line)
      else if c == '\n' && !triple then .error (.unterminated line)
      else if c == quote && (!triple || [quote, quote].isPrefixOf rest) then
        .ok { body := body.reverse, line, rest := if triple then rest.drop 2 else rest }
      else textEnd quote triple (c :: body) (if c == '\n' then line + 1 else line) rest

/-- A quoted text of which the first quote has been read. -/
def quotedEnd (quote : Char) (line : Nat) (cs : List Char) : Except TokenError QuotedEnd :=
  match cs with
  | a :: b :: rest =>
      if a == quote && b == quote then textEnd quote true [] line rest
      else if a == quote then .ok { body := [], line, rest := b :: rest }
      else textEnd quote false [] line cs
  | _ => textEnd quote false [] line cs

def keywords : List String :=
  ["False", "None", "True", "and", "as", "assert", "async", "await", "break", "class", "continue",
    "def", "del", "elif", "else", "except", "finally", "for", "from", "global", "if", "import",
    "in", "is", "lambda", "nonlocal", "not", "or", "pass", "raise", "return", "try", "while",
    "with", "yield"]

/-- Symbols of more than one character, longer ones first. -/
def longSymbols : List String :=
  ["...", "**=", "//=", "<<=", ">>=", "**", "//", "<<", ">>", "<=", ">=", "==", "!=", "->", "+=",
    "-=", "*=", "/=", "%=", "&=", "|=", "^=", "@=", ":=", "<>"]

def symbolText (cs : List Char) : String :=
  (longSymbols.find? fun symbol => symbol.toList.isPrefixOf cs).getD (String.ofList (cs.take 1))

/-- The bracket that a bracket closes. -/
def openingOf? (c : Char) : Option Char :=
  match c with
  | ')' => some '('
  | ']' => some '['
  | '\x7d' => some '\x7b'
  | _ => none

def isOpening (c : Char) : Bool :=
  c == '(' || c == '[' || c == '\x7b'

/-- The quote and what stands behind it, when letters are the mark of a quoted text. -/
def textStart? (letters : String) (behind : List Char) : Option (Char × List Char) :=
  match behind with
  | quote :: more =>
      if (quote == '\'' || quote == '"') && isTextMark letters then some (quote, more) else none
  | [] => none

/-- How many digits a number has if it is a whole one in decimal digits, else none at all. -/
def wholeSize (written : List Char) : Nat :=
  if written.all (fun c => isDigit c || c == '_') && written.head? != some '0' then
    (written.filter isDigit).length
  else 0

/-- Where the reading of tokens has come: the line, the open brackets with their lines, the
innermost first, whether only blanks have been read of a line, how many they are, and how many
stood before the first backslash that continued such a line. -/
structure Place where
  line : Nat := 1
  brackets : List (Char × Nat) := []
  fresh : Bool := true
  blanks : Nat := 0
  firstBlanks : Nat := 0

namespace Place

/-- How many brackets may be open at once. -/
def depthLimit : Nat := 200

def token (place : Place) (kind : TokenKind) (text : List Char) : Token :=
  { kind, text := String.ofList text, line := place.line, brackets := place.brackets }

def afterSymbol (place : Place) (c : Char) : Except TokenError Place :=
  if isOpening c then
    if depthLimit ≤ place.brackets.length then .error .tooDeep
    else .ok { place with brackets := (c, place.line) :: place.brackets }
  else
    match openingOf? c, place.brackets with
    | none, _ => .ok place
    | some _, [] => .error (.unmatched c)
    | some opening, (found, line) :: rest =>
        if found == opening then .ok { place with brackets := rest }
        else .error (.mismatched c found (if line == place.line then none else some line))

def nextLine (place : Place) : Place :=
  { place with line := place.line + 1, fresh := true, blanks := 0, firstBlanks := 0 }

/-- The place on the next line behind a backslash that continues the line. -/
def continued (place : Place) : Place :=
  let firstBlanks := if place.firstBlanks == 0 then place.blanks else place.firstBlanks
  { place with line := place.line + 1, firstBlanks }

def afterBlank (place : Place) (c : Char) : Place :=
  -- a form feed goes back to the margin
  { place with blanks := if c.toNat == 12 then 0 else place.blanks + 1 }

/-- Whether what comes next is indented, which counts outside of brackets only. -/
def isIndented (place : Place) : Bool :=
  place.fresh && place.brackets.isEmpty &&
    (if place.firstBlanks == 0 then place.blanks else place.firstBlanks) != 0

/-- The token at the end of a text. -/
def lastToken (place : Place) (continues : Bool) : Token :=
  let kind : TokenKind :=
    if !place.brackets.isEmpty then .cut .openBracket
    else if continues then .cut .missingLine
    else .finish
  place.token kind []

end Place

/-- A token with the place and the characters behind it. -/
structure Scanned where
  token : Token
  place : Place
  rest : List Char

/-- Whether a token might go on with more characters: closing quotes end a text, and no symbol has
more than three characters. -/
def Token.mayGoOn (token : Token) : Bool :=
  match token.kind with
  | .text _ => false
  | .symbol => token.text.length != 3 || !longSymbols.contains token.text
  | _ => true

/-- The token, which has seen the end of the text if nothing stands behind it. -/
def Scanned.marked (found : Scanned) : Token :=
  { found.token with seesEnd := found.rest.isEmpty && found.token.mayGoOn }

/-- The quoted text that begins at a place with letters and a quote, which have been read. -/
def scanQuoted (place : Place) (letters : String) (quote : Char) (rest : List Char) :
    Except TokenError Scanned := do
  let found ← quotedEnd quote place.line rest
  let has := fun (c : Char) => letters.toList.contains c
  let quoted : Quoted :=
    { body := found.body, isBytes := has 'b', isRaw := has 'r', isFormatted := has 'f' }
  return {
    token := place.token (.text quoted) []
    place := { place with line := found.line }
    rest := found.rest }

/-- The name, or quoted text with letters before it, that begins with a character. -/
def scanName (place : Place) (c : Char) (rest : List Char) : Except TokenError Scanned :=
  let name := (c :: rest).takeWhile inName
  let behind := (c :: rest).drop name.length
  let letters := (String.ofList name).toLower
  match textStart? letters behind with
  | some (quote, more) => scanQuoted place letters quote more
  | none =>
      match Text.nameFault? name with
      | some c => .error (.badCharacter c)
      | none =>
          let kind : TokenKind := if keywords.contains (String.ofList name) then .symbol else .name
          .ok { token := place.token kind name, place, rest := behind }

def scanNumber (place : Place) (c : Char) (rest : List Char) : Except TokenError Scanned := do
  let (imaginary, behind) ←
    if c == '.' then decimalRest false (c :: rest) else number c rest
  let written := (c :: rest).take (rest.length + 1 - behind.length)
  let kind : TokenKind := .number imaginary (wholeSize written)
  return { token := place.token kind written, place, rest := behind }

def scanSymbol (place : Place) (c : Char) (rest : List Char) : Except TokenError Scanned := do
  if !Text.isPrintable c then throw (.badCharacter c)
  let text := symbolText (c :: rest)
  let place ← place.afterSymbol c
  return {
    token := { place.token .symbol text.toList with text }
    place
    rest := rest.drop (text.length - 1) }

/-- The token that begins with a character, which neither ends a line nor is blank. -/
def scan (place : Place) (c : Char) (rest : List Char) : Except TokenError Scanned :=
  if beginsName c then scanName place c rest
  else if c == '\'' || c == '"' then scanQuoted place "" c rest
  else if isDigit c || (c == '.' && rest.head?.any isDigit) then scanNumber place c rest
  else scanSymbol place c rest

def isSpace (c : Char) : Bool :=
  c == ' ' || c == '\t' || c.toNat == 12

/-- The tokens of a text from a place on. The fuel is the number of characters. -/
def tokensFrom (place : Place) : Nat → List Char → List Token
  | 0, _ | _, [] => [place.lastToken false]
  | fuel + 1, c :: rest =>
      if c == '\n' then
        let behind := tokensFrom place.nextLine fuel rest
        if place.brackets.isEmpty && !place.fresh then place.token .newline [] :: behind
        else behind
      else if c == '#' then tokensFrom place fuel (rest.dropWhile (· != '\n'))
      else if isSpace c then tokensFrom (place.afterBlank c) fuel rest
      else if c == '\\' then
        match rest with
        | ['\n'] => [place.lastToken true]
        | '\n' :: more => tokensFrom place.continued fuel more
        | _ => [place.token (.cut .brokenLine) []]
      else
        let indentation := if place.isIndented then [place.token .indentation []] else []
        match scan { place with fresh := false } c rest with
        | .ok found => indentation ++ found.marked :: tokensFrom found.place fuel found.rest
        | .error error => indentation ++ [place.token (.broken error) []]

/-- The line breaks of a text, all written as one character. -/
def plainBreaks : List Char → List Char
  | '\r' :: '\n' :: rest => '\n' :: plainBreaks rest
  | c :: rest => (if c == '\r' then '\n' else c) :: plainBreaks rest
  | [] => []

def tokens (cs : List Char) : List Token :=
  let cs := plainBreaks cs
  tokensFrom {} (cs.length + 1) cs

end Literal
end SandboxLint
