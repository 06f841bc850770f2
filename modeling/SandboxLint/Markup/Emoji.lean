import SandboxLint.Markup.EmojiNames
import SandboxLint.Text.Blank
import SandboxLint.Text.Lowercase
import SandboxLint.Text.Split

/-!
Emoji by name. A name between two colons stands for its emoji; behind the name a
dash may ask for its presentation as text or as a picture. A name that is unknown
stays as it is written.
-/

namespace SandboxLint
namespace Emoji

def digitValue (c : Char) : Nat :=
  if '0' ≤ c && c ≤ '9' then c.toNat - '0'.toNat else c.toNat - 'a'.toNat + 10

/-- The characters that code points joined by dashes denote. -/
def ofCodes (codes : List Char) : List Char :=
  (Text.splitAt '-' codes).map fun digits =>
    Char.ofNat (digits.foldl (fun n c => n * 16 + digitValue c) 0)

/-- The characters and the tones of the emoji that an entry gives a name, if the entry is of that
name. -/
def ofItem? (name item : List Char) : Option (List Char × Bool) :=
  if name.isPrefixOf item then
    match item.drop name.length with
    | '=' :: codes => some (ofCodes codes, false)
    | '~' :: codes => some (ofCodes codes, true)
    | _ => none
  else none

/-- The emoji of a name in the table, and whether it comes in tones of skin. -/
def known? (name : List Char) : Option (List Char × Bool) :=
  entryLines.findSome? fun line => (Text.splitAt ' ' line.toList).findSome? (ofItem? name)

/-- Asks for the presentation as text. -/
def textSelector : Char := Char.ofNat 0xFE0E

/-- Asks for the presentation as a picture. -/
def pictureSelector : Char := Char.ofNat 0xFE0F

/-- The endings of names with a tone, and the modifiers they stand for. -/
def tones : List (String × Char) :=
  [("_medium-light_skin_tone", Char.ofNat 0x1F3FC), ("_medium-dark_skin_tone", Char.ofNat 0x1F3FE),
    ("_dark_skin_tone", Char.ofNat 0x1F3FF), ("_light_skin_tone", Char.ofNat 0x1F3FB),
    ("_medium_skin_tone", Char.ofNat 0x1F3FD)]

/-- An emoji in a tone: the modifier stands behind its first character, in place of a
selector. -/
def toned (modifier : Char) : List Char → List Char
  | first :: rest => first :: modifier :: rest.dropWhile (· == pictureSelector)
  | [] => []

/-- The emoji of a name that ends in a tone. -/
def inTone? (name : List Char) : Option (List Char) :=
  tones.findSome? fun (ending, modifier) =>
    if ending.toList.isSuffixOf name then
      match known? (Text.dropEnding ending.toList name) with
      | some (emoji, true) => some (toned modifier emoji)
      | _ => none
    else none

/-- The emoji of a name in small letters. -/
def named? (name : List Char) : Option (List Char) :=
  match known? name with
  | some (emoji, _) => some emoji
  | none => inTone? name

/-- What stands between two colons as a name and the selector that its ending asks for. -/
def selected (code : List Char) : List Char × List Char :=
  if "-emoji".toList.isSuffixOf code then (Text.dropEnding "-emoji".toList code, [pictureSelector])
  else if "-text".toList.isSuffixOf code then (Text.dropEnding "-text".toList code, [textSelector])
  else (code, [])

/-- What stands between two colons, replaced by its emoji if it has one. -/
def replaced (code : List Char) : List Char :=
  let (name, selector) := selected code
  match named? (Text.lower (String.ofList name)).toList with
  | some emoji => emoji ++ selector
  | none => ':' :: code ++ [':']

/-- A text with emoji in place of their names. -/
def replace (cs : List Char) : List Char :=
  match cs with
  | [] => []
  | c :: rest =>
      -- names hold no blanks
      let code := rest.takeWhile fun c => c != ':' && !Text.isBlank c
      if c == ':' && (rest.drop code.length).head? == some ':' then
        -- the colon that ends a name begins no other
        replaced code ++ replace (rest.drop (code.length + 1))
      else c :: replace rest
termination_by cs.length
decreasing_by all_goals simp; try omega

end Emoji
end SandboxLint
