/-!
Written integers. Around an integer there may be white space, and before it a sign.
Zeros behind a point are dropped, and zeros in front are dropped together with the
underscores among them; a minus sign may also stand behind such zeros. Single
underscores may stand between what is left.
-/

namespace SandboxLint
namespace WrittenInteger

/-- White space as trimmed around written integers. -/
def isSpace (c : Char) : Bool :=
  let n := c.toNat
  (0x09 ≤ n && n ≤ 0x0D) || n == 0x20 || n == 0x85 || n == 0xA0 || n == 0x1680 ||
    (0x2000 ≤ n && n ≤ 0x200A) || n == 0x2028 || n == 0x2029 || n == 0x202F || n == 0x205F ||
    n == 0x3000

/-- Why a text is no integer. -/
inductive Defect where
  | malformed
  | tooLong
  deriving DecidableEq, Repr

/-- How many digits an integer may have. -/
def sizeLimit : Nat := 4300

/-- The text without space around it and without a plus sign; none when a minus sign follows. -/
def unsigned? (cs : List Char) : Option (List Char) :=
  match ((cs.dropWhile isSpace).reverse.dropWhile isSpace).reverse with
  | '+' :: '-' :: _ => none
  | '+' :: rest => some rest
  | cs => some cs

/-- The text without a point and the zeros behind it. -/
def wholePart (cs : List Char) : List Char :=
  let tail := (cs.dropWhile (· != '.')).drop 1
  if !tail.isEmpty && tail.all (· == '0') then cs.takeWhile (· != '.') else cs

/-- Whether a character can stand at the beginning of an integer without zeros in front. -/
def begins (c : Char) : Bool :=
  ('1' ≤ c && c ≤ '9') || c == '-'

/-- The text without zeros in front; of nothing but zeros the last character stays. -/
def withoutZeros? : List Char → Option (List Char)
  | [] => none
  | '0' :: rest =>
      match rest.dropWhile fun c => c == '0' || c == '_' with
      | [] => ('0' :: rest).getLast?.map ([·])
      | c :: more => if begins c then some (c :: more) else none
  | c :: rest => if begins c then some (c :: rest) else none

def hasDouble : List Char → Bool
  | a :: b :: rest => (a == '_' && b == '_') || hasDouble (b :: rest)
  | _ => false

/-- The text without its underscores, when none stands at an end or beside another. -/
def withoutUnderscores (cs : List Char) : List Char :=
  if cs.head? == some '_' || cs.getLast? == some '_' || hasDouble cs then cs
  else cs.filter (· != '_')

/-- The text in its shortest form, if it has one. -/
def cleaned? (text : String) : Option (List Char) := do
  match wholePart (← unsigned? text.toList) with
  | '-' :: rest => return withoutUnderscores ('-' :: (← withoutZeros? rest))
  | cs => return withoutUnderscores (← withoutZeros? cs)

def isDigit (c : Char) : Bool :=
  '0' ≤ c && c ≤ '9'

def ofDigits (digits : List Char) : Nat :=
  digits.foldl (fun n c => n * 10 + (c.toNat - '0'.toNat)) 0

/-- Digits of which the first is zero only when it stands alone. -/
def natural? (limit : Nat) (cs : List Char) : Except Defect Nat :=
  let digits := cs.takeWhile isDigit
  if digits.isEmpty || (digits.head? == some '0' && 1 < digits.length) then .error .malformed
  else if limit < digits.length then .error .tooLong
  else if digits.length < cs.length then .error .malformed
  else .ok (ofDigits digits)

def parse (text : String) : Except Defect Int :=
  match cleaned? text with
  | none => .error .malformed
  | some ('-' :: rest) => (natural? sizeLimit rest).map fun n => -(n : Int)
  | some cs => (natural? sizeLimit cs).map Int.ofNat

end WrittenInteger
end SandboxLint
