import SandboxLint.Number.Binary64

/-!
The shortest decimals of floating-point numbers. Around every number lie the reals
that are read as it, from halfway to the number below to halfway to the number
above. Of the decimals among them the one with the fewest digits is taken, and of
several the nearest. It is written positionally from one ten-thousandth up to ten to
the sixteenth, else with an exponent.
-/

namespace SandboxLint

/-- Digits times a power of ten. -/
structure Decimal where
  digits : Nat
  power : Int
  deriving DecidableEq, Repr

namespace Decimal

/-- How a decimal compares with a multiple of a power of two. -/
def compareTo (d : Decimal) (multiple : Nat) (exponent : Int) : Ordering :=
  compare (d.digits * Nat.pow 10 d.power.toNat * Nat.pow 2 (-exponent).toNat)
    (multiple * Nat.pow 2 exponent.toNat * Nat.pow 10 (-d.power).toNat)

/-- Whether a decimal is read as the positive number of a mantissa and an exponent. -/
def readsAs (d : Decimal) (mantissa : Nat) (exponent : Int) : Bool :=
  let narrow := mantissa == Binary64.fullMantissa && Binary64.leastExponent < exponent
  -- below the least mantissa of 53 bits the numbers lie twice as close
  let low := if narrow then 4 * mantissa - 1 else 4 * mantissa - 2
  let below := d.compareTo low (exponent - 2)
  let above := d.compareTo (4 * mantissa + 2) (exponent - 2)
  (below == .gt && above == .lt) ||
    (mantissa % 2 == 0 && ((below == .eq && above == .lt) || (below == .gt && above == .eq)))

/-- The number of digits that a positive number has before the point, negative for zeros behind
it. -/
def pointOf (mantissa : Nat) (exponent : Int) : Int :=
  let guess := (Nat.log2 mantissa + exponent) * 30103 / 100000
  let isAbove := fun (point : Int) => Decimal.compareTo ⟨1, point⟩ mantissa exponent == .gt
  if isAbove guess then guess else if isAbove (guess + 1) then guess + 1 else guess + 2

/-- The decimal of a number of digits that is read as a positive number, the nearer of two. -/
def ofLength? (mantissa : Nat) (exponent : Int) (length : Nat) : Option Decimal :=
  let power := pointOf mantissa exponent - length
  let num := mantissa * Nat.pow 2 exponent.toNat * Nat.pow 10 (-power).toNat
  let den := Nat.pow 2 (-exponent).toNat * Nat.pow 10 power.toNat
  let lower : Decimal := ⟨num / den, power⟩
  let upper : Decimal := ⟨num / den + 1, power⟩
  match lower.readsAs mantissa exponent, upper.readsAs mantissa exponent with
  | true, true => some ⟨Binary64.nearest num den, power⟩
  | true, false => some lower
  | false, true => some upper
  | false, false => none

/-- The shortest decimal that is read as a positive number. -/
def shortest (mantissa : Nat) (exponent : Int) : Decimal :=
  -- seventeen digits are always enough
  ((List.range 17).findSome? fun n => ofLength? mantissa exponent (n + 1)).getD
    ⟨mantissa * Nat.pow 2 exponent.toNat * Nat.pow 5 (-exponent).toNat, min exponent 0⟩

/-- The digits of a number with the point before the `point`th of them, zeros filled in. -/
def positional (digits : List Char) (point : Int) : List Char :=
  if point ≤ 0 then '0' :: '.' :: (List.replicate (-point).toNat '0' ++ digits)
  else
    let point := point.toNat
    let whole := digits.take point ++ List.replicate (point - digits.length) '0'
    let part := digits.drop point
    whole ++ '.' :: (if part.isEmpty then ['0'] else part)

/-- The digits of a number as one digit, a point and the rest, with an exponent of at least two
digits. -/
def scientific (digits : List Char) (exponent : Int) : List Char :=
  let mantissa :=
    match digits with
    | first :: next :: rest => first :: '.' :: next :: rest
    | digits => digits
  let size := Nat.toDigits 10 exponent.natAbs
  mantissa ++ ['e', if exponent < 0 then '-' else '+'] ++
    List.replicate (2 - size.length) '0' ++ size

def written (d : Decimal) : List Char :=
  let all := Nat.toDigits 10 d.digits
  let digits := (all.reverse.dropWhile (· == '0')).reverse
  let point : Int := all.length + d.power
  if -4 < point && point ≤ 16 then positional digits point else scientific digits (point - 1)

end Decimal

namespace Binary64

/-- The text of a number by its shortest decimal. -/
def display : Binary64 → String
  | .finite negative mantissa exponent =>
      let size :=
        if mantissa == 0 then "0.0".toList else (Decimal.shortest mantissa exponent).written
      String.ofList (if negative then '-' :: size else size)
  | .infinite negative => if negative then "-inf" else "inf"
  | .nan => "nan"

/-- The text of a number in a JSON document. -/
def json : Binary64 → String
  | .infinite negative => if negative then "-Infinity" else "Infinity"
  | .nan => "NaN"
  | number => number.display

end Binary64
end SandboxLint
