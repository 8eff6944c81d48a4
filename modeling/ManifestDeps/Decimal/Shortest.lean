/-
ManifestDeps.Decimal.Shortest — the shortest decimal that reads back as a
given floating-point number.

The reals that round to a number form an interval around it, whose ends
belong to it when the mantissa is even. For 1, 2, … 17 digits the two
neighbours of the value on that decimal grid are tested; the first grid
with a hit wins, and of two hits the nearer one. `Binary64.text` writes
the digits positionally while the decimal point stands at most 16 places
to the right and 4 to the left of them, and with an exponent otherwise.
-/
import ManifestDeps.Decimal.Binary64

namespace ManifestDeps.Decimal

/-- An interval of fractions over one denominator, with the value inside. -/
structure Neighbourhood where
  /-- Lower end. -/
  low : Nat
  /-- The value itself. -/
  mid : Nat
  /-- Upper end. -/
  high : Nat
  /-- Common denominator. -/
  den : Nat
  /-- The ends belong to the interval. -/
  closed : Bool

/-- The fractions that round to `m · 2 ^ e`. Below a power of two the
numbers lie twice as close. -/
def neighbourhood (m : Nat) (e : Int) : Neighbourhood :=
  let gap := if m = Nat.pow 2 52 ∧ Binary64.minExponent < e then 1 else 2
  let (num, den) := if 0 ≤ e then (4 <<< e.toNat, 4) else (4, 4 <<< (-e).toNat)
  let unit := num / 4
  { low := num * m - gap * unit, mid := num * m, high := num * m + 2 * unit,
    den := den, closed := m % 2 == 0 }

/-- The fraction `digits · 10 ^ k` lies in the interval. -/
def Neighbourhood.holds (i : Neighbourhood) (digits : Nat) (k : Int) : Bool :=
  let (x, s) := if 0 ≤ k then (digits * Nat.pow 10 k.toNat * i.den, 1)
    else (digits * i.den, Nat.pow 10 (-k).toNat)
  if i.closed then i.low * s ≤ x && x ≤ i.high * s else i.low * s < x && x < i.high * s

/-- The multiple of `10 ^ k` in the interval that is nearest to the value,
if one of the value's two neighbours lies in it. -/
def Neighbourhood.onGrid? (i : Neighbourhood) (k : Int) : Option Nat :=
  let (num, den) := if 0 ≤ k then (i.mid, i.den * Nat.pow 10 k.toNat)
    else (i.mid * Nat.pow 10 (-k).toNat, i.den)
  let below := num / den
  let near := roundHalfEven num den
  let far := if near = below then below + 1 else below
  if i.holds near k then some near
  else if i.holds far k then some far
  else none

/-- Digits of a positive number: `digits · 10 ^ k` with as few digits as
possible. `places` is the decimal place above the leading digit, and
`n` counts the digits up from 17 - `fuel`. -/
def Neighbourhood.search (i : Neighbourhood) (places : Int) : Nat → Nat × Int
  | 0 => (roundHalfEven i.mid i.den, 0)
  | fuel + 1 =>
    let k := places - (17 - fuel : Nat)
    match i.onGrid? k with
    | some digits => (digits, k)
    | none => i.search places fuel

/-- Drop trailing zeros of `digits`, raising the exponent. -/
def stripZeros : Nat → Nat → Int → Nat × Int
  | 0, digits, k => (digits, k)
  | fuel + 1, digits, k =>
    if digits ≠ 0 ∧ digits % 10 = 0 then stripZeros fuel (digits / 10) (k + 1) else (digits, k)

/-- Number of decimal digits before the point of `num / den`; zero or less
for a fraction below one. -/
def decimalPlaces (num den : Nat) : Int :=
  if den ≤ num then (Nat.toDigits 10 (num / den)).length
  else 1 - (Nat.toDigits 10 (den / num)).length

/-- The shortest decimal `digits · 10 ^ k` that reads back as `m · 2 ^ e`. -/
def shortest (m : Nat) (e : Int) : Nat × Int :=
  let i := neighbourhood m e
  let (digits, k) := i.search (decimalPlaces i.mid i.den) 17
  stripZeros 20 digits k

/-- Write digits with the decimal point `point` places behind their start. -/
def writePoint (digits : List Char) (point : Int) : List Char :=
  let n : Int := digits.length
  if 16 < point ∨ point < -3 then
    let e := point - 1
    let exponent := Nat.toDigits 10 e.natAbs
    let mantissa := match digits with
      | [d] => [d]
      | d :: rest => d :: '.' :: rest
      | [] => []
    mantissa ++ 'e' :: (if e < 0 then '-' else '+') ::
      (List.replicate (2 - exponent.length) '0' ++ exponent)
  else if point ≤ 0 then '0' :: '.' :: (List.replicate (-point).toNat '0' ++ digits)
  else if n ≤ point then digits ++ List.replicate (point - n).toNat '0' ++ ['.', '0']
  else digits.take point.toNat ++ '.' :: digits.drop point.toNat

/-- The text of a number: the shortest decimal that reads back as it. -/
def Binary64.text : Binary64 → String
  | .nan => "nan"
  | .infinite negative => if negative then "-inf" else "inf"
  | .finite negative m e =>
    let body :=
      if m = 0 then ['0', '.', '0']
      else
        let (digits, k) := shortest m e
        let ds := Nat.toDigits 10 digits
        writePoint ds (ds.length + k)
    String.ofList (if negative then '-' :: body else body)

end ManifestDeps.Decimal
