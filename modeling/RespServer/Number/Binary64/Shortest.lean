import RespServer.Number.Binary64.Reading

/-!
Contract: the shortest decimal text of a floating-point number.

Owns:
- the numbers that round to a finite member;
- the fewest digits of such a number, the nearest if there are several, and of two equally near
  the greater;
- the positional text of the digits, without exponent.

Does not own: the texts of infinity and of no number, which no reply holds.
-/

namespace RespServer.Binary64

/-- A decimal number in the interval of a member, `digits * 10 ^ exponent`. -/
abbrev Candidate := Scientific

/-- A positive ratio divided by a power of ten, as a ratio. -/
def scaleDownDecimal (exponent : Int) (numerator denominator : Nat) : Nat × Nat :=
  match exponent with
  | .ofNat power => (numerator, denominator * Nat.pow 10 power)
  | .negSucc power => (numerator * Nat.pow 10 (power + 1), denominator)

/-- The exponent of the leading decimal digit of a positive ratio. -/
def leadingExponent (numerator denominator : Nat) : Int :=
  if denominator ≤ numerator then
    Int.ofNat (Decimal.digits (numerator / denominator)).length - 1
  else
    let places := (Decimal.digits (denominator / numerator)).length
    if denominator ≤ numerator * Nat.pow 10 (places - 1) then 1 - Int.ofNat places
    else -(Int.ofNat places)

/-- A positive member with the interval of the numbers that round to it, all over one
denominator. -/
structure Interval where
  low : Nat
  value : Nat
  high : Nat
  denominator : Nat
  /-- Whether the ends round to the member as well. -/
  closed : Bool

/-- The interval of the member `significand * 2 ^ exponent`. It ends half-way to the neighbours;
the lower neighbour of a power of two is half as far away, unless it has the least exponent. -/
def intervalOf (significand : Nat) (exponent : Int) : Interval :=
  let (value, denominator) := scaleDown (-exponent) (4 * significand) 4
  let (unit, _) := scaleDown (-exponent) 4 4
  let quarter := unit / 4
  let below :=
    if significand = Nat.pow 2 52 ∧ leastExponent < exponent then quarter else 2 * quarter
  ⟨value - below, value, value + 2 * quarter, denominator, significand % 2 = 0⟩

def Interval.contains (interval : Interval) (candidate : Candidate) : Bool :=
  -- both sides over a common denominator
  let (scaled, unit) :=
    match candidate.exponent with
    | .ofNat power => (candidate.digits * Nat.pow 10 power * interval.denominator, 1)
    | .negSucc power => (candidate.digits * interval.denominator, Nat.pow 10 (power + 1))
  if interval.closed then
    decide (interval.low * unit ≤ scaled) && decide (scaled ≤ interval.high * unit)
  else decide (interval.low * unit < scaled) && decide (scaled < interval.high * unit)

/-- The nearest of the member's two neighbours with so many digits, if one lies in the
interval. -/
def Interval.withDigits? (interval : Interval) (count : Nat) : Option Candidate :=
  let exponent := leadingExponent interval.value interval.denominator - Int.ofNat (count - 1)
  let (scaled, unit) := scaleDownDecimal exponent interval.value interval.denominator
  let below : Candidate := ⟨scaled / unit, exponent⟩
  let above : Candidate := ⟨scaled / unit + 1, exponent⟩
  let aboveIsNearer := unit ≤ 2 * (scaled % unit)
  match interval.contains below, interval.contains above with
  | true, true => some (if aboveIsNearer then above else below)
  | true, false => some below
  | false, true => some above
  | false, false => none

/-- The fewest digits that lie in the interval; seventeen always do. -/
def Interval.shortest (interval : Interval) : Candidate :=
  ((List.range 17).findSome? fun count => interval.withDigits? (count + 1)).getD ⟨0, 0⟩

/-- Digits without the zeros at their end, and how many there were. -/
def dropTrailingZeros (digits : Bytes) : Bytes × Nat :=
  let reversed := digits.reverse
  ((reversed.dropWhile (· = 48)).reverse, (reversed.takeWhile (· = 48)).length)

/-- The positional text of a decimal number: no exponent, and a point only before a digit other
than zero. -/
def positional (number : Scientific) : Bytes :=
  let (digits, zeros) := dropTrailingZeros (Decimal.digits number.digits)
  let exponent := number.exponent + Int.ofNat zeros
  match exponent with
  | .ofNat power => digits ++ List.replicate power 48
  | .negSucc power =>
      let places := power + 1
      if places < digits.length then
        digits.take (digits.length - places) ++ 46 :: digits.drop (digits.length - places)
      else [48, 46] ++ List.replicate (places - digits.length) 48 ++ digits

/-- The text of a member: the shortest that reads back as it, in positional notation. -/
def text : Binary64 → Bytes
  | .finite negative significand exponent =>
      let sign : Bytes := if negative then [45] else []
      if significand = 0 then sign ++ [48]
      else sign ++ positional (intervalOf significand exponent).shortest
  | .infinite negative => Bytes.ofText (if negative then "-inf" else "inf")
  | .notANumber => Bytes.ofText "NaN"

end RespServer.Binary64
