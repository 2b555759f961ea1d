import TagSearch.Number.Rounding

/-!
# Binary floating-point numbers, exactly

A `Binary64` is one of the values of the 64-bit binary format, held as what it denotes and not as a
bit pattern: `finite s m e` is `±m · 2 ^ e`.  Numbers enter the format through `ofRatio`, which
rounds the exact quotient of two whole numbers once, so that every later question (`ceil`,
`toInt?`, the sign) is answered exactly.
-/

namespace TagSearch

/-- A value of the 64-bit binary floating-point format. -/
inductive Binary64
  /-- Not a number. -/
  | nan
  /-- An infinity. -/
  | infinite (negative : Bool)
  /-- The number `mantissa · 2 ^ exponent`, or its negation. -/
  | finite (negative : Bool) (mantissa : Nat) (exponent : Int)
  deriving DecidableEq, Repr

namespace Binary64

/-- Zero, which has a sign in this format. -/
def zero (negative : Bool) : Binary64 := .finite negative 0 0

/-- A power of two. -/
def twoPow (n : Nat) : Nat := Nat.pow 2 n

/-- A power of ten. -/
def tenPow (n : Nat) : Nat := Nat.pow 10 n

/-- The least mantissa with all 53 places: those of `finite` stay below its double. -/
def fullMantissa : Nat := twoPow 52

/-- The quotient `(num / den) / 2 ^ e` as a pair of whole numbers. -/
def scaled (num den : Nat) (e : Int) : Nat × Nat :=
  if 0 ≤ e then (num, den * twoPow e.toNat) else (num * twoPow (-e).toNat, den)

/-- The exponent of the largest power of two that is at most `num / den`. -/
def binade (num den : Nat) : Int :=
  let guess : Int := (num.log2 : Int) - den.log2
  let q := scaled num den guess
  if q.2 ≤ q.1 then guess else guess - 1

/-- The exponent of the last binary place that the format keeps of `num / den`: 53 places in all,
and none below `2 ^ -1074`. -/
def lastPlace (num den : Nat) : Int := max (binade num den - 52) (-1074)

/-- A rounded mantissa at its exponent, put into the format: a carry moves to the next binade, and
what lies above the largest finite value is infinite. -/
def assemble (negative : Bool) (mantissa : Nat) (exponent : Int) : Binary64 :=
  if mantissa = 0 then zero negative
  else if mantissa = 2 * fullMantissa then
    if 970 < exponent then .infinite negative else .finite negative fullMantissa (exponent + 1)
  else if 971 < exponent then .infinite negative
  else .finite negative mantissa exponent

/-- The value of the format nearest to `±num / den`, ties to the even mantissa. -/
def ofRatio (negative : Bool) (num den : Nat) : Binary64 :=
  if num = 0 then zero negative
  else
    let e := lastPlace num den
    let q := scaled num den e
    assemble negative (divHalfEven q.1 q.2) e

/-- The value nearest to a whole number. -/
def ofInt (n : Int) : Binary64 := ofRatio (n < 0) n.natAbs 1

/-- How many decimal digits a number is written with. -/
def digitCount (n : Nat) : Nat := (Nat.toDigits 10 n).length

/-- The value nearest to `±digits · 10 ^ exponent`.  Numbers far outside the format's range are
settled by their magnitude, without computing the power. -/
def ofDecimal (negative : Bool) (digits : Nat) (exponent : Int) : Binary64 :=
  let magnitude := digitCount digits + exponent
  if digits = 0 then zero negative
  else if 310 < magnitude then .infinite negative
  else if magnitude < -330 then zero negative
  else if 0 ≤ exponent then ofRatio negative (digits * tenPow exponent.toNat) 1
  else ofRatio negative digits (tenPow (-exponent).toNat)

/-- A magnitude with a sign. -/
def signed (negative : Bool) (n : Nat) : Int := if negative then -(n : Int) else n

/-- The whole number that a value is, if it is one. -/
def toInt? : Binary64 → Option Int
  | .finite s m e =>
    if 0 ≤ e then some (signed s (m * twoPow e.toNat))
    else
      let d := twoPow (-e).toNat
      if m % d = 0 then some (signed s (m / d)) else none
  | _ => none

/-- The least whole number that is not below a finite value. -/
def ceil? : Binary64 → Option Int
  | .finite s m e =>
    if 0 ≤ e then some (signed s (m * twoPow e.toNat))
    else
      let d := twoPow (-e).toNat
      some (if s then -((m / d : Nat) : Int) else (((m + d - 1) / d : Nat) : Int))
  | _ => none

/-- Neither infinite nor NaN. -/
def isFinite : Binary64 → Bool
  | .finite .. => true
  | _ => false

/-- Greater than zero; NaN is not. -/
def isPositive : Binary64 → Bool
  | .nan => false
  | .infinite s => !s
  | .finite s m _ => !s && m != 0

/-- Less than zero; NaN is not, and neither is negative zero. -/
def isNegative : Binary64 → Bool
  | .nan => false
  | .infinite s => s
  | .finite s m _ => s && m != 0

/-- The value nearest to `x` rounded to hundredths, the exact value of `x` being rounded with ties
to the even hundredth. -/
def roundHundredths : Binary64 → Binary64
  | .finite s m e =>
    if 0 ≤ e then .finite s m e
    else ofRatio s (divHalfEven (100 * m) (twoPow (-e).toNat)) 100
  | x => x

end Binary64

end TagSearch
