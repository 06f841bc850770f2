import SandboxLint.Text.CharacterName.AtoC
import SandboxLint.Text.CharacterName.DtoK
import SandboxLint.Text.CharacterName.LtoR
import SandboxLint.Text.CharacterName.StoZ
import SandboxLint.Text.Split

/-!
The names of characters. They are kept as a tree of words: the words that may follow a word
stand in brackets behind it, and a point tells that a name may end there. Words that differ
in a number only are one entry with the first and the last of the numbers; between these
stands a tilde if they are decimal and a circumflex if they are hexadecimal. The names of
ideographs and of Hangul syllables follow rules. Capitals matter in these names only.
-/

namespace SandboxLint
namespace Text

/-- The value of a digit in a name. -/
def nameDigit (c : Char) : Nat :=
  if c.isDigit then c.toNat - '0'.toNat else c.toNat - 'A'.toNat + 10

/-- The number that digits in a name denote. Decimal digits are taken for hexadecimal ones, which
keeps the order of numbers with equally many digits. -/
def nameNumber (digits : List Char) : Nat :=
  digits.foldl (fun n c => n * 16 + nameDigit c) 0

/-- Whether a character is a hexadecimal digit in a name. -/
def isNameHex (c : Char) : Bool :=
  c.isDigit || ('A' ≤ c && c ≤ 'F')

/-- Whether a word is what an entry of the tree stands for. -/
def fitsEntry (entry word : List Char) : Bool :=
  let first := entry.takeWhile fun c => c != '~' && c != '^'
  match entry.drop first.length with
  | [] => word == first
  | mark :: last =>
      let stem := first.take (first.length - last.length)
      let digits := word.drop stem.length
      let isIn := if mark == '^' then isNameHex else Char.isDigit
      stem.isPrefixOf word && digits.length == last.length && digits.all isIn &&
        nameNumber (first.drop stem.length) ≤ nameNumber digits &&
        nameNumber digits ≤ nameNumber last

/-- The search for a name in a tree: its words, the entry that is being read, the last character
first, how deep it stands, how many words of the name have led there, and whether the name has been
found. -/
structure NameSearch where
  words : List (List Char)
  entry : List Char := []
  depth : Nat := 0
  matched : Nat := 0
  found : Bool := false

namespace NameSearch

/-- Whether the entry is the next word of the name. -/
def fits (s : NameSearch) : Bool :=
  s.matched == s.depth && !s.entry.isEmpty &&
    (s.words[s.depth]?).any (fitsEntry s.entry.reverse)

/-- The search behind an entry that nothing follows. -/
def afterEntry (s : NameSearch) : NameSearch :=
  { s with entry := [], found := s.found || (s.depth + 1 == s.words.length && s.fits) }

/-- The search behind another character of the tree. -/
def step (s : NameSearch) (c : Char) : NameSearch :=
  match c with
  | '(' =>
      let matched := if s.fits then s.depth + 1 else s.matched
      { s with entry := [], depth := s.depth + 1, matched }
  | ')' =>
      let s := s.afterEntry
      { s with depth := s.depth - 1, matched := min s.matched (s.depth - 1) }
  | ' ' => s.afterEntry
  | '.' => { s with found := s.found || (s.matched == s.depth && s.depth == s.words.length) }
  | c => { s with entry := c :: s.entry }

/-- The search behind another line of the tree. -/
def afterLine (s : NameSearch) (line : String) : NameSearch :=
  (line.foldl step s).afterEntry

end NameSearch

/-- Whether words are a name in a tree. -/
def hasName (tree : List String) (words : List (List Char)) : Bool :=
  (tree.foldl NameSearch.afterLine { words }).found

/-- The trees of all names. -/
def nameTrees : List (List String) :=
  [wordsAToC, wordsDToK, wordsLToR, wordsSToZ]

/-- The code points of ideographs that are named by them, first and last. -/
def ideographs : List (Nat × Nat) :=
  [(0x3400, 0x4DBF), (0x4E00, 0x9FFF), (0x20000, 0x2A6DF), (0x2A700, 0x2B738), (0x2B740, 0x2B81D),
    (0x2B820, 0x2CEA1), (0x2CEB0, 0x2EBE0), (0x30000, 0x3134A)]

/-- Whether digits name an ideograph. -/
def isIdeograph (digits : List Char) : Bool :=
  (digits.length == 4 || digits.length == 5) && digits.all isNameHex &&
    ideographs.any fun (first, last) =>
      first ≤ nameNumber digits && nameNumber digits ≤ last

/-- What Hangul syllables may begin with. -/
def leadingSounds : List String :=
  ["", "G", "GG", "N", "D", "DD", "R", "M", "B", "BB", "S", "SS", "J", "JJ", "C", "K", "T", "P",
    "H"]

/-- What Hangul syllables have in the middle. -/
def middleSounds : List String :=
  ["A", "AE", "YA", "YAE", "EO", "E", "YEO", "YE", "O", "WA", "WAE", "OE", "YO", "U", "WEO", "WE",
    "WI", "YU", "EU", "YI", "I"]

/-- What Hangul syllables may end with. -/
def trailingSounds : List String :=
  ["", "G", "GG", "GS", "N", "NJ", "NH", "D", "L", "LG", "LM", "LB", "LS", "LT", "LP", "LH", "M",
    "B", "BS", "S", "SS", "NG", "J", "C", "K", "T", "P", "H"]

/-- Whether sounds are those of a Hangul syllable. -/
def isSyllable (sounds : List Char) : Bool :=
  leadingSounds.any fun leading =>
    leading.toList.isPrefixOf sounds &&
      middleSounds.any fun middle =>
        let begun := (leading ++ middle).toList
        begun.isPrefixOf sounds &&
          trailingSounds.any fun trailing => trailing.toList == sounds.drop begun.length

/-- Whether a character has a name. -/
def isCharacterName (name : List Char) : Bool :=
  let ideograph := "CJK UNIFIED IDEOGRAPH-".toList
  let syllable := "HANGUL SYLLABLE ".toList
  if ideograph.isPrefixOf name then isIdeograph (name.drop ideograph.length)
  else if syllable.isPrefixOf name then isSyllable (name.drop syllable.length)
  else
    let words := splitAt ' ' (name.map Char.toUpper)
    nameTrees.any fun tree => hasName tree words

end Text
end SandboxLint
