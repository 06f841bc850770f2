/-!
Letters in other styles: raised, lowered, wide, or drawn as mathematics has them. In a name
they stand for the plain letters of the alphabet.
-/

namespace SandboxLint.Text

/-- Runs of such letters outside of the mathematical alphabets: the code point of the first, the
letter that it stands for, and how many follow in the order of the alphabet. -/
def styledLetters : List (Nat × Char × Nat) :=
  [
    (0xAA, 'a', 1), (0xBA, 'o', 1), (0x17F, 's', 1), (0x2B0, 'h', 1), (0x2B2, 'j', 1),
    (0x2B3, 'r', 1), (0x2B7, 'w', 1), (0x2B8, 'y', 1), (0x2E1, 'l', 1), (0x2E2, 's', 1),
    (0x2E3, 'x', 1), (0x1D2C, 'A', 1), (0x1D2E, 'B', 1), (0x1D30, 'D', 2), (0x1D33, 'G', 8),
    (0x1D3C, 'O', 1), (0x1D3E, 'P', 1), (0x1D3F, 'R', 1), (0x1D40, 'T', 2), (0x1D42, 'W', 1),
    (0x1D43, 'a', 1), (0x1D47, 'b', 1), (0x1D48, 'd', 2), (0x1D4D, 'g', 1), (0x1D4F, 'k', 1),
    (0x1D50, 'm', 1), (0x1D52, 'o', 1), (0x1D56, 'p', 1), (0x1D57, 't', 2), (0x1D5B, 'v', 1),
    (0x1D62, 'i', 1), (0x1D63, 'r', 1), (0x1D64, 'u', 2), (0x1D9C, 'c', 1), (0x1DA0, 'f', 1),
    (0x1DBB, 'z', 1), (0x2071, 'i', 1), (0x207F, 'n', 1), (0x2090, 'a', 1), (0x2091, 'e', 1),
    (0x2092, 'o', 1), (0x2093, 'x', 1), (0x2095, 'h', 1), (0x2096, 'k', 4), (0x209A, 'p', 1),
    (0x209B, 's', 2), (0x2102, 'C', 1), (0x210A, 'g', 1), (0x210B, 'H', 1), (0x210C, 'H', 1),
    (0x210D, 'H', 1), (0x210E, 'h', 1), (0x2110, 'I', 1), (0x2111, 'I', 1), (0x2112, 'L', 1),
    (0x2113, 'l', 1), (0x2115, 'N', 1), (0x2119, 'P', 3), (0x211C, 'R', 1), (0x211D, 'R', 1),
    (0x2124, 'Z', 1), (0x2128, 'Z', 1), (0x212A, 'K', 1), (0x212C, 'B', 2), (0x212F, 'e', 1),
    (0x2130, 'E', 2), (0x2133, 'M', 1), (0x2134, 'o', 1), (0x2139, 'i', 1), (0x2145, 'D', 1),
    (0x2146, 'd', 2), (0x2148, 'i', 2), (0x2160, 'I', 1), (0x2164, 'V', 1), (0x2169, 'X', 1),
    (0x216C, 'L', 1), (0x216D, 'C', 2), (0x216F, 'M', 1), (0x2170, 'i', 1), (0x2174, 'v', 1),
    (0x2179, 'x', 1), (0x217C, 'l', 1), (0x217D, 'c', 2), (0x217F, 'm', 1), (0x2C7C, 'j', 1),
    (0x2C7D, 'V', 1), (0xA7F2, 'C', 1), (0xA7F3, 'F', 1), (0xA7F4, 'Q', 1), (0xFF21, 'A', 26),
    (0xFF41, 'a', 26), (0x107A5, 'q', 1)
  ]

/-- The first code point of the mathematical alphabets and the first behind them. -/
def mathLetters : Nat × Nat :=
  (0x1D400, 0x1D6A4)

/-- The plain letter that a character stands for, or the character itself. -/
def plainLetter (c : Char) : Char :=
  let code := c.toNat
  if code < 128 then c
  else if mathLetters.1 ≤ code && code < mathLetters.2 then
    -- an alphabet has the capitals first and then the small letters
    let place := (code - mathLetters.1) % 52
    if place < 26 then Char.ofNat ('A'.toNat + place) else Char.ofNat ('a'.toNat + (place - 26))
  else
    match styledLetters.find? fun (first, _, count) => first ≤ code && code < first + count with
    | some (first, letter, _) => Char.ofNat (letter.toNat + (code - first))
    | none => c

def plainName (name : String) : String :=
  name.map plainLetter

end SandboxLint.Text
