/-!
Blank characters and what is cut at them. A character is blank when the Unicode
tables call it white space or when it is one of the four information
separators U+001C to U+001F. Everything here works on lists of characters;
the `String` forms at the end only wrap them.
-/

namespace SandboxLint.Text

/-- White space of Unicode, together with the four information separators. -/
def isBlank (c : Char) : Bool :=
  let n := c.toNat
  (0x09 ≤ n && n ≤ 0x0D) || (0x1C ≤ n && n ≤ 0x20) || n == 0x85 || n == 0xA0 ||
    n == 0x1680 || (0x2000 ≤ n && n ≤ 0x200A) || n == 0x2028 || n == 0x2029 ||
    n == 0x202F || n == 0x205F || n == 0x3000

/-- The list without the longest final segment whose characters satisfy `p`. -/
def dropEndWhile (p : Char → Bool) (cs : List Char) : List Char :=
  (cs.reverse.dropWhile p).reverse

/-- The list without its longest initial and final segments that satisfy `p`. -/
def dropAroundWhile (p : Char → Bool) (cs : List Char) : List Char :=
  dropEndWhile p (cs.dropWhile p)

def trim (cs : List Char) : List Char :=
  dropAroundWhile isBlank cs

def trimEnd (cs : List Char) : List Char :=
  dropEndWhile isBlank cs

/-- The maximal runs of characters that are not blank; `word` is the run read so far. -/
def wordsFrom (word : List Char) : List Char → List (List Char)
  | [] => if word.isEmpty then [] else [word]
  | c :: rest =>
      if isBlank c then
        if word.isEmpty then wordsFrom [] rest else word :: wordsFrom [] rest
      else wordsFrom (word ++ [c]) rest

/-- The words of a text: its maximal runs of characters that are not blank. -/
def words (text : String) : List String :=
  (wordsFrom [] text.toList).map String.ofList

end SandboxLint.Text
