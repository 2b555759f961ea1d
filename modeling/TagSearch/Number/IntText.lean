/-!
# Whole numbers in decimal

`intText` is the text of a whole number.  Numbers with more than `maxDigits` digits are neither put into
messages and logs nor read back (`fitsText`); only a record's own text has them with all their digits.
-/

namespace TagSearch

/-- The most digits of a whole number that is turned into text or read from it. -/
def maxDigits : Nat := 4300

/-- The decimal digits of a whole number, behind a minus if it is negative. -/
def intText : Int → List Char
  | .ofNat n => Nat.toDigits 10 n
  | .negSucc n => '-' :: Nat.toDigits 10 (n + 1)

/-- Whether a whole number has few enough digits to be written. -/
def fitsText (n : Int) : Bool := (Nat.toDigits 10 n.natAbs).length ≤ maxDigits

/-- A sign is not counted. -/
theorem fitsText_natAbs (n : Int) : fitsText n.natAbs = fitsText n := by
  rw [fitsText, fitsText, Int.natAbs_natCast]

end TagSearch
