/-!
Contract: the numbers of the 64-bit binary floating-point format and their sum.

Owns:
- the type `Binary64`, whose finite members are exact products of a significand and a power of
  two;
- rounding a ratio to the nearest member, ties to the even significand;
- the rounded sum.

Does not own: decimal text (`Binary64.read?`, `Binary64.text`). Everything is exact arithmetic on
natural numbers and integers.
-/

namespace RespServer

/-- A member of the format. -/
inductive Binary64 where
  /-- The number `significand * 2 ^ exponent`, or its negation. Members that rounding yields
  have a significand below `2 ^ 53`. -/
  | finite (negative : Bool) (significand : Nat) (exponent : Int)
  | infinite (negative : Bool)
  | notANumber
deriving DecidableEq, Repr

namespace Binary64

def leastExponent : Int :=
  -1074

def greatestExponent : Int :=
  971

/-- Zero; it keeps a sign. -/
def zero (negative : Bool) : Binary64 :=
  .finite negative 0 leastExponent

/-- Whether the member is a number and not infinite. -/
def isFinite : Binary64 → Bool
  | .finite .. => true
  | _ => false

/-- The ratio divided by a power of two, as a ratio. -/
def scaleDown (exponent : Int) (numerator denominator : Nat) : Nat × Nat :=
  match exponent with
  | .ofNat power => (numerator, denominator * Nat.pow 2 power)
  | .negSucc power => (numerator * Nat.pow 2 (power + 1), denominator)

/-- The natural number nearest to a ratio; of two, the even one. -/
def nearest (numerator denominator : Nat) : Nat :=
  let quotient := numerator / denominator
  let twice := 2 * (numerator % denominator)
  if twice < denominator ∨ (twice = denominator ∧ quotient % 2 = 0) then quotient
  else quotient + 1

/-- The exponent at which a positive ratio has a significand of 53 bits, or the least one. -/
def exponentFor (numerator denominator : Nat) : Int :=
  let estimate := max leastExponent (Int.ofNat numerator.log2 - Int.ofNat denominator.log2 - 53)
  let (scaled, unit) := scaleDown estimate numerator denominator
  if Nat.pow 2 53 ≤ scaled / unit then estimate + 1 else estimate

/-- The member nearest to a ratio; of two, the one with the even significand. Ratios too large
for a finite member become infinite. -/
def round (negative : Bool) (numerator denominator : Nat) : Binary64 :=
  if numerator = 0 then zero negative
  else
    let exponent := exponentFor numerator denominator
    let (scaled, unit) := scaleDown exponent numerator denominator
    let significand := nearest scaled unit
    let (significand, exponent) :=
      if significand = Nat.pow 2 53 then (Nat.pow 2 52, exponent + 1) else (significand, exponent)
    if greatestExponent < exponent then .infinite negative
    else .finite negative significand exponent

def signed (negative : Bool) (significand : Nat) : Int :=
  if negative then -(Int.ofNat significand) else Int.ofNat significand

/-- The sum, rounded. A sum of zero is negative only if both summands are. -/
def add : Binary64 → Binary64 → Binary64
  | .notANumber, _ => .notANumber
  | _, .notANumber => .notANumber
  | .infinite left, .infinite right => if left = right then .infinite left else .notANumber
  | .infinite left, .finite .. => .infinite left
  | .finite .., .infinite right => .infinite right
  | .finite leftNegative left leftExponent, .finite rightNegative right rightExponent =>
      let exponent := min leftExponent rightExponent
      let sum :=
        signed leftNegative (left * Nat.pow 2 (leftExponent - exponent).toNat) +
          signed rightNegative (right * Nat.pow 2 (rightExponent - exponent).toNat)
      if sum = 0 then zero (leftNegative && rightNegative)
      else
        let (numerator, denominator) := scaleDown (-exponent) sum.natAbs 1
        round (decide (sum < 0)) numerator denominator

instance : Add Binary64 :=
  ⟨add⟩

end Binary64

end RespServer
