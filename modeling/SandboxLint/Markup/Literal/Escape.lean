import SandboxLint.Markup.Literal.Token
import SandboxLint.Text.CharacterName

/-!
Escapes in quoted texts. A backslash and a letter with hexadecimal digits, or with the
name of a character in braces, stand for a character. Places are counted in a text in
which characters beyond the first 128 are themselves written as escapes.
-/

namespace SandboxLint
namespace Literal

/-- What is wrong with an escape. -/
inductive EscapeFault where
  | truncated (letter : Char) (digits : Nat)
  | beyondUnicode
  | malformedName
  | unknownName
  deriving DecidableEq, Repr

def EscapeFault.message : EscapeFault → String
  | .truncated letter digits =>
      "truncated \\" ++ String.ofList (letter :: List.replicate digits 'X') ++ " escape"
  | .beyondUnicode => "illegal Unicode character"
  | .malformedName => "malformed \\N character escape"
  | .unknownName => "unknown Unicode character name"

/-- A faulty escape by where it begins and where the fault is certain. -/
structure BadEscape where
  start : Nat
  stop : Nat
  fault : EscapeFault
  deriving DecidableEq, Repr

def BadEscape.message (bad : BadEscape) : String :=
  "(unicode error) 'unicodeescape' codec can't decode bytes in position " ++
    toString bad.start ++ "-" ++ toString (bad.stop - 1) ++ ": " ++ bad.fault.message

/-- A number in hexadecimal digits, at least as many as the width. -/
def hexDigits (width n : Nat) : List Char :=
  let digits := Nat.toDigits 16 n
  List.replicate (width - digits.length) '0' ++ digits

/-- A text with characters beyond the first 128 written as escapes, and with them the backslashes
that stand before such characters or at the end. -/
def widened : List Char → List Char
  | [] => []
  | '\\' :: rest =>
      match rest with
      | [] => "\\u005c".toList
      | c :: more =>
          if 128 ≤ c.toNat then
            "\\u005c\\U".toList ++ hexDigits 8 c.toNat ++ widened more
          else '\\' :: c :: widened more
  | c :: rest =>
      if 128 ≤ c.toNat then "\\U".toList ++ hexDigits 8 c.toNat ++ widened rest
      else c :: widened rest

/-- How many hexadecimal digits follow the letter of an escape. -/
def digitsOf? (letter : Char) : Option Nat :=
  match letter with
  | 'x' => some 2
  | 'u' => some 4
  | 'U' => some 8
  | _ => none

def hexValue (c : Char) : Nat :=
  if isDigit c then c.toNat - '0'.toNat else c.toLower.toNat - 'a'.toNat + 10

def ofHexDigits (digits : List Char) : Nat :=
  digits.foldl (fun n c => n * 16 + hexValue c) 0

/-- The first code point that is none of Unicode. -/
def unicodeEnd : Nat := 0x110000

/-- Checks an escape behind its backslash and letter: how many characters it takes besides them,
and what is wrong with it. -/
def escapeAt (letter : Char) (rest : List Char) : Nat × Option EscapeFault :=
  match digitsOf? letter with
  | some count =>
      let digits := (rest.take count).takeWhile isHex
      if digits.length < count then (digits.length, some (.truncated letter count))
      else if unicodeEnd ≤ ofHexDigits digits then (count, some .beyondUnicode)
      else (count, none)
  | none =>
      if letter != 'N' then (0, none)
      else
        match rest with
        | '\x7b' :: more =>
            let name := more.takeWhile (· != '\x7d')
            if name.length == more.length then (1 + name.length, some .malformedName)
            else if name.isEmpty then (1, some .malformedName)
            else if Text.isCharacterName name then (2 + name.length, none)
            else (2 + name.length, some .unknownName)
        | _ => (0, some .malformedName)

/-- The first faulty escape behind a number of characters. -/
def badEscapeFrom (fuel : Nat) (here : Nat) (cs : List Char) : Option BadEscape :=
  match fuel, cs with
  | fuel + 1, '\\' :: letter :: rest =>
      match escapeAt letter rest with
      | (taken, some fault) => some { start := here, stop := here + 2 + taken, fault }
      | (taken, none) => badEscapeFrom fuel (here + 2 + taken) (rest.drop taken)
  | fuel + 1, _ :: rest => badEscapeFrom fuel (here + 1) rest
  | _, _ => none

def badEscape? (body : List Char) : Option BadEscape :=
  let cs := widened body
  badEscapeFrom (cs.length + 1) 0 cs

/-- Where the first faulty escape of bytes begins. -/
def badByteFrom (here : Nat) : List Char → Option Nat
  | '\\' :: 'x' :: a :: b :: rest =>
      if isHex a && isHex b then badByteFrom (here + 4) rest else some here
  | '\\' :: 'x' :: _ => some here
  | '\\' :: _ :: rest => badByteFrom (here + 2) rest
  | _ :: rest => badByteFrom (here + 1) rest
  | [] => none

/-- What is wrong with what stands between the quotes of bytes. -/
def bytesFault? (quoted : Quoted) : Option String :=
  if quoted.body.any (128 ≤ ·.toNat) then some "bytes can only contain ASCII literal characters"
  else if quoted.isRaw then none
  else
    (badByteFrom 0 quoted.body).map fun here =>
      "(value error) invalid \\x escape at position " ++ toString here

/-- What is wrong with plain text between quotes. -/
def plainFault? (isRaw : Bool) (body : List Char) : Option String :=
  if isRaw then none else (badEscape? body).map (·.message)

end Literal
end SandboxLint
