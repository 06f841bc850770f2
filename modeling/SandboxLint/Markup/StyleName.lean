import SandboxLint.Number.Written
import SandboxLint.Text.Blank
import SandboxLint.Text.Digit
import SandboxLint.Text.Lowercase
import SandboxLint.Text.Split

/-!
The names of styles. A style is written as words: traits, some with short names
and all with `not` in front to turn them off, a colour, `on` with the colour of the
ground, and `link` with an address. Names that describe the same style are the same
name; a name that describes none is taken as written, in small letters.
-/

namespace SandboxLint
namespace Style

def traits : List String :=
  ["bold", "dim", "italic", "underline", "blink", "blink2", "reverse", "conceal", "strike",
    "underline2", "frame", "encircle", "overline"]

/-- Short names of traits. -/
def shortNames : List (String × String) :=
  [("b", "bold"), ("d", "dim"), ("i", "italic"), ("u", "underline"), ("r", "reverse"),
    ("c", "conceal"), ("s", "strike"), ("uu", "underline2"), ("o", "overline")]

def trait? (word : String) : Option String :=
  if traits.contains word then some word else List.lookup word shortNames

/-- Colours with names of their own. -/
def colorNames : List String :=
  [
    "black", "red", "green", "yellow", "blue", "magenta", "cyan", "white", "bright_black",
    "bright_red", "bright_green", "bright_yellow", "bright_blue", "bright_magenta",
    "bright_cyan", "bright_white", "grey0", "gray0", "navy_blue", "dark_blue", "blue3", "blue1",
    "dark_green", "deep_sky_blue4", "dodger_blue3", "dodger_blue2", "green4", "spring_green4",
    "turquoise4", "deep_sky_blue3", "dodger_blue1", "green3", "spring_green3", "dark_cyan",
    "light_sea_green", "deep_sky_blue2", "deep_sky_blue1", "spring_green2", "cyan3",
    "dark_turquoise", "turquoise2", "green1", "spring_green1", "medium_spring_green", "cyan2",
    "cyan1", "dark_red", "deep_pink4", "purple4", "purple3", "blue_violet", "orange4", "grey37",
    "gray37", "medium_purple4", "slate_blue3", "royal_blue1", "chartreuse4", "dark_sea_green4",
    "pale_turquoise4", "steel_blue", "steel_blue3", "cornflower_blue", "chartreuse3",
    "cadet_blue", "sky_blue3", "steel_blue1", "pale_green3", "sea_green3", "aquamarine3",
    "medium_turquoise", "chartreuse2", "sea_green2", "sea_green1", "aquamarine1",
    "dark_slate_gray2", "dark_magenta", "dark_violet", "purple", "light_pink4", "plum4",
    "medium_purple3", "slate_blue1", "yellow4", "wheat4", "grey53", "gray53", "light_slate_grey",
    "light_slate_gray", "medium_purple", "light_slate_blue", "dark_olive_green3",
    "dark_sea_green", "light_sky_blue3", "sky_blue2", "dark_sea_green3", "dark_slate_gray3",
    "sky_blue1", "chartreuse1", "light_green", "pale_green1", "dark_slate_gray1", "red3",
    "medium_violet_red", "magenta3", "dark_orange3", "indian_red", "hot_pink3", "medium_orchid3",
    "medium_orchid", "medium_purple2", "dark_goldenrod", "light_salmon3", "rosy_brown", "grey63",
    "gray63", "medium_purple1", "gold3", "dark_khaki", "navajo_white3", "grey69", "gray69",
    "light_steel_blue3", "light_steel_blue", "yellow3", "dark_sea_green2", "light_cyan3",
    "light_sky_blue1", "green_yellow", "dark_olive_green2", "dark_sea_green1", "pale_turquoise1",
    "deep_pink3", "magenta2", "hot_pink2", "orchid", "medium_orchid1", "orange3", "light_pink3",
    "pink3", "plum3", "violet", "light_goldenrod3", "tan", "misty_rose3", "thistle3", "plum2",
    "khaki3", "light_goldenrod2", "light_yellow3", "grey84", "gray84", "light_steel_blue1",
    "yellow2", "dark_olive_green1", "honeydew2", "light_cyan1", "red1", "deep_pink2",
    "deep_pink1", "magenta1", "orange_red1", "indian_red1", "hot_pink", "dark_orange", "salmon1",
    "light_coral", "pale_violet_red1", "orchid2", "orchid1", "orange1", "sandy_brown",
    "light_salmon1", "light_pink1", "pink1", "plum1", "gold1", "navajo_white1", "misty_rose1",
    "thistle1", "yellow1", "light_goldenrod1", "khaki1", "wheat1", "cornsilk1", "grey100",
    "gray100", "grey3", "gray3", "grey7", "gray7", "grey11", "gray11", "grey15", "gray15",
    "grey19", "gray19", "grey23", "gray23", "grey27", "gray27", "grey30", "gray30", "grey35",
    "gray35", "grey39", "gray39", "grey42", "gray42", "grey46", "gray46", "grey50", "gray50",
    "grey54", "gray54", "grey58", "gray58", "grey62", "gray62", "grey66", "gray66", "grey70",
    "gray70", "grey74", "gray74", "grey78", "gray78", "grey82", "gray82", "grey85", "gray85",
    "grey89", "gray89", "grey93", "gray93"
  ]

/-- What may be wrong with the words of a style: they describe none, or a part of a colour has no
digits, or more than a number may have. -/
inductive Fault where
  | unknown
  | missingComponent
  | longComponent (digits : Nat)
  deriving DecidableEq, Repr

def isDigit (c : Char) : Bool :=
  '0' ≤ c && c ≤ '9'

/-- What stands between a word's beginning and the closing parenthesis at its end. -/
def between? (start : String) (word : List Char) : Option (List Char) :=
  let inner := (word.drop start.length).dropLast
  if start.toList.isPrefixOf word && word.getLast? == some ')' && !inner.isEmpty then some inner
  else none

def isHexColor (word : List Char) : Bool :=
  match word with
  | '#' :: digits =>
      digits.length == 6 && digits.all fun c => isDigit c || ('a' ≤ c && c ≤ 'f')
  | _ => false

def isNumberedColor (word : List Char) : Bool :=
  (between? "color(" word).any fun digits =>
    digits.all isDigit && digits.length ≤ 3 && Text.ofDecimals digits ≤ 255

/-- The number that a component of a colour denotes. -/
def component (digits : List Char) : Except Fault Nat :=
  if digits.isEmpty then .error .missingComponent
  else if WrittenInteger.sizeLimit < digits.length then .error (.longComponent digits.length)
  else .ok (Text.ofDecimals digits)

/-- Checks a colour by its three components, which is all that is left when a word is no other
colour. -/
def checkComponents (word : List Char) : Except Fault Unit :=
  match between? "rgb(" word with
  | some inner =>
      -- the digits may be those of any script
      if !inner.all fun c => Text.isDecimal c || c == ',' then .error .unknown
      else
        match Text.splitAt ',' inner with
        | [red, green, blue] => do
            let components ← [red, green, blue].mapM component
            if components.all (· ≤ 255) then .ok () else .error .unknown
        | _ => .error .unknown
  | none => .error .unknown

/-- The name of the colour that a word is. -/
def color (word : String) : Except Fault String := do
  let name := Text.lower word
  let cs := name.toList
  if name == "default" || colorNames.contains name || isHexColor cs || isNumberedColor cs then
    return name
  else
    checkComponents cs
    return name

/-- A style: traits that are turned on or off, colours and an address. -/
structure Description where
  traits : List (String × Bool) := []
  color : Option String := none
  ground : Option String := none
  link : Option String := none
  deriving DecidableEq, Repr

namespace Description

/-- A style with a trait turned on or off. -/
def turn (d : Description) (trait : String) (isOn : Bool) : Description :=
  { d with traits := (trait, isOn) :: d.traits }

/-- The words that name a trait's state. -/
def traitWords (d : Description) (trait : String) : List String :=
  match List.lookup trait d.traits with
  | some true => [trait]
  | some false => ["not " ++ trait]
  | none => []

def name (d : Description) : String :=
  let words := Style.traits.flatMap d.traitWords ++ d.color.toList ++
    (d.ground.map ("on " ++ ·)).toList ++ (d.link.map ("link " ++ ·)).toList
  if words.isEmpty then "none" else " ".intercalate words

end Description

/-- The style that words describe, added to what the words before them did. -/
def describe (d : Description) : List String → Except Fault Description
  | [] => .ok d
  | word :: rest =>
      match Text.lower word, rest with
      | "on", ground :: rest => do describe { d with ground := some (← color ground) } rest
      | "on", [] => .error .unknown
      | "not", name :: rest =>
          match trait? name with
          | some trait => describe (d.turn trait false) rest
          | none => .error .unknown
      | "not", [] => .error .unknown
      | "link", address :: rest => describe { d with link := some address } rest
      | "link", [] => .error .unknown
      | name, rest =>
          match trait? name with
          | some trait => describe (d.turn trait true) rest
          | none => do describe { d with color := some (← color name) } rest

/-- The style of a text; `none` alone is the style that changes nothing. -/
def ofText (text : String) : Except Fault Description :=
  match Text.words text with
  | ["none"] => .ok {}
  | words => describe {} words

/-- The name by which a style is known. -/
def normalized (text : String) : Except Fault String :=
  match ofText text with
  | .ok d => .ok d.name
  | .error .unknown => .ok (Text.lower (String.ofList (Text.trim text.toList)))
  | .error fault => .error fault

end Style
end SandboxLint
