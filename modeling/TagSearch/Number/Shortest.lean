import TagSearch.Number.Binary64

/-!
# The shortest decimal that reads back

A finite value of the format is written with the fewest decimal digits that still round to it, and
among those with the digits nearest to it.  `shortest` tries one to seventeen digits on the value's
own decimal grid in exact arithmetic; `toText` lays the digits out, positionally for decimal
exponents from -4 to 15 and with an exponent part otherwise.
-/

namespace TagSearch

/-- The number `digits · 10 ^ exponent`. -/
structure Decimal where
  digits : Nat
  exponent : Int
  deriving DecidableEq, Repr

/-- The digits without their trailing zeros, and the exponent of the last one kept. -/
def Decimal.significant (d : Decimal) : List Char × Int :=
  let digits := Nat.toDigits 10 d.digits
  let kept := (digits.reverse.dropWhile (· == '0')).reverse
  (kept, d.exponent + Int.ofNat (digits.length - kept.length))

namespace Binary64

/-- The exponent of the largest power of ten that is at most `num / den`. -/
def decade (num den : Nat) : Int :=
  if den ≤ num then Int.ofNat (digitCount (num / den)) - 1
  else Int.negOfNat (digitCount ((den + num - 1) / num - 1))

/-- The reals that round to a positive value: their bounds in quarters of the last binary place, and
whether the bounds belong to them. -/
structure RoundingInterval where
  low : Nat
  value : Nat
  high : Nat
  closed : Bool

/-- Half a place below and above; below a power of two the places are half as wide. -/
def interval (m : Nat) (e : Int) : RoundingInterval where
  low := if m = fullMantissa ∧ -1074 < e then 4 * m - 1 else 4 * m - 2
  value := 4 * m
  high := 4 * m + 2
  closed := m % 2 = 0

/-- Whether `c` units lie in the interval, a unit being `den / num` quarters of a place. -/
def RoundingInterval.holds (i : RoundingInterval) (num den c : Nat) : Bool :=
  if i.closed then i.low * num ≤ c * den && c * den ≤ i.high * num
  else i.low * num < c * den && c * den < i.high * num

/-- The nearest number on the grid of `10 ^ exponent` that rounds to the value, if one does. -/
def onGrid (m : Nat) (e exponent : Int) : Option Decimal :=
  let i := interval m e
  let unit : Nat × Nat :=
    if 0 ≤ exponent then (1, tenPow exponent.toNat) else (tenPow (-exponent).toNat, 1)
  let quarter := scaled unit.1 unit.2 (2 - e)
  let below := i.value * quarter.1 / quarter.2
  let belowGap := i.value * quarter.1 - below * quarter.2
  let aboveGap := (below + 1) * quarter.2 - i.value * quarter.1
  let pick (c : Nat) : Option Decimal := some ⟨c, exponent⟩
  match i.holds quarter.1 quarter.2 below, i.holds quarter.1 quarter.2 (below + 1) with
  | true, false => pick below
  | false, true => pick (below + 1)
  | true, true =>
    if belowGap < aboveGap then pick below
    else if aboveGap < belowGap then pick (below + 1)
    else pick (below + below % 2)
  | false, false => none

/-- The fewest digits that round to `m · 2 ^ e`, for `m` above zero. -/
def shortest (m : Nat) (e : Int) : Decimal :=
  let q := scaled m 1 (-e)
  let top := decade q.1 q.2
  let candidates := (List.range 17).map fun (n : Nat) => top - Int.ofNat n
  (candidates.findSome? (onGrid m e)).getD ⟨0, 0⟩

/-- The exponent part: a sign and at least two digits. -/
def exponentText (e : Int) : String :=
  let digits := toString e.natAbs
  "e" ++ (if e < 0 then "-" else "+") ++ (if digits.length < 2 then "0" ++ digits else digits)

/-- Digits with their last one at `10 ^ exponent`, laid out as text. -/
def layout (digits : List Char) (exponent : Int) : String :=
  let point := digits.length + exponent
  if -4 ≤ point - 1 ∧ point - 1 < 16 then
    if point ≤ 0 then
      "0." ++ String.ofList (List.replicate (-point).toNat '0' ++ digits)
    else if 0 ≤ exponent then
      String.ofList (digits ++ List.replicate exponent.toNat '0') ++ ".0"
    else
      String.ofList (digits.take point.toNat) ++ "." ++ String.ofList (digits.drop point.toNat)
  else
    let tail := digits.drop 1
    String.ofList (digits.take 1) ++ (if tail.isEmpty then "" else "." ++ String.ofList tail)
      ++ exponentText (point - 1)

/-- The text of a value. -/
def toText : Binary64 → String
  | .nan => "nan"
  | .infinite s => if s then "-inf" else "inf"
  | .finite s m e =>
    let body :=
      if m = 0 then "0.0"
      else
        let d := (shortest m e).significant
        layout d.1 d.2
    if s then "-" ++ body else body

end Binary64

end TagSearch
