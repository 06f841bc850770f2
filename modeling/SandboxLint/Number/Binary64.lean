/-!
Floating-point numbers of 64 bits. A finite number is a whole multiple of a power of
two; a decimal is read as the number nearest to it, a tie going to the even
multiple, and as an infinity when it is beyond the largest number.
-/

namespace SandboxLint

/-- A number of 64 bits: a signed multiple of a power of two, an infinity, or no number. The
mantissa is below two to the power 53, and the exponent is the least unless the mantissa fills
its 53 bits. -/
inductive Binary64 where
  | finite (negative : Bool) (mantissa : Nat) (exponent : Int)
  | infinite (negative : Bool)
  | nan
  deriving DecidableEq, Repr, Inhabited

namespace Binary64

def leastExponent : Int := -1074

def greatestExponent : Int := 971

/-- The least mantissa of 53 bits. -/
def fullMantissa : Nat := Nat.pow 2 52

def zero (negative : Bool) : Binary64 :=
  .finite negative 0 leastExponent

/-- The greatest power of two, as an exponent, that is not above a quotient of positive numbers. -/
def floorLog (num den : Nat) : Int :=
  let guess : Int := (Nat.log2 num : Int) - (Nat.log2 den : Int)
  if den * Nat.pow 2 guess.toNat ≤ num * Nat.pow 2 (-guess).toNat then guess else guess - 1

/-- The whole number nearest to a quotient, the even one of two that are equally near. -/
def nearest (num den : Nat) : Nat :=
  let quotient := num / den
  let twice := 2 * (num % den)
  if twice < den || (twice == den && quotient % 2 == 0) then quotient else quotient + 1

/-- The number nearest to a quotient. -/
def ofQuotient (negative : Bool) (num den : Nat) : Binary64 :=
  if num == 0 then zero negative
  else
    let exponent := max (floorLog num den - 52) leastExponent
    let mantissa := nearest (num * Nat.pow 2 (-exponent).toNat) (den * Nat.pow 2 exponent.toNat)
    let carried := mantissa == 2 * fullMantissa
    let exponent := if carried then exponent + 1 else exponent
    if greatestExponent < exponent then .infinite negative
    else .finite negative (if carried then fullMantissa else mantissa) exponent

/-- How many decimal digits before the point make a number certainly too large, and how many
zeros behind it certainly too small. -/
def decimalReach : Int := 400

/-- The number nearest to digits times a power of ten. -/
def ofDecimal (negative : Bool) (digits : Nat) (power : Int) : Binary64 :=
  let size : Int := (Nat.toDigits 10 digits).length + power
  if digits == 0 || size < -decimalReach then zero negative
  else if decimalReach < size then .infinite negative
  else ofQuotient negative (digits * Nat.pow 10 power.toNat) (Nat.pow 10 (-power).toNat)

def isZero : Binary64 → Bool
  | .finite _ mantissa _ => mantissa == 0
  | _ => false

/-- The whole number that a number is, if it is one. -/
def toInt? : Binary64 → Option Int
  | .finite negative mantissa exponent =>
      let den := Nat.pow 2 (-exponent).toNat
      if mantissa % den == 0 then
        let size : Int := (mantissa / den * Nat.pow 2 exponent.toNat : Nat)
        some (if negative then -size else size)
      else none
  | _ => none

end Binary64
end SandboxLint
