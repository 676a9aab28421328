import RespServer.Number.Binary64.Basic
import RespServer.Number.Integer

/-!
Contract: reading a floating-point number from its text.

Owns:
- the grammar: a sign, then a word for infinity or no number, or digits with an optional point
  and an optional exponent;
- the bound on exponents, behind which digits of an exponent do not count;
- the correctly rounded value.

Does not own: printing (`Binary64.text`).

Texts may be long. All but the first digits of a number only tell on which side of them the number
lies, so that the arithmetic is on numbers of limited size.
-/

namespace RespServer.Binary64

/-- A decimal number, `digits * 10 ^ exponent`. -/
structure Scientific where
  digits : Nat
  exponent : Int
deriving DecidableEq, Repr

/-- An exponent of this size or more takes no further digit. -/
def exponentBound : Nat :=
  Nat.pow 2 16

/-- The size of an exponent. Digits that follow once the bound is reached do not count: `700010`
is read as `70001`. -/
def exponentSize (digits : Bytes) : Nat :=
  digits.foldl
    (fun size octet => if size < exponentBound then 10 * size + (octet.toNat - 48) else size) 0

/-- Reads the size of an exponent from at least one digit. -/
def exponentSize? (digits : Bytes) : Option Nat :=
  if digits ≠ [] ∧ digits.all Decimal.isDigit = true then some (exponentSize digits) else none

/-- Reads an exponent: a letter, an optional sign and at least one digit. No text at all is the
exponent zero. -/
def exponent? : Bytes → Option Int
  | [] => some 0
  | letter :: octets =>
      if letter = 101 ∨ letter = 69 then
        match octets with
        | 43 :: digits => (exponentSize? digits).map Int.ofNat
        | 45 :: digits => (exponentSize? digits).map fun size => -(Int.ofNat size)
        | digits => (exponentSize? digits).map Int.ofNat
      else none

/-- How many significant digits are kept. A member, or a point midway between two members, has at
most 767. -/
def keptDigits : Nat :=
  800

/-- A number with few digits that rounds like the number with the given digits and exponent. The
digits beyond those kept stand for a single one behind them, unless they are all zero: no member
and no midway point lies between the two numbers. -/
def shorten (digits : Bytes) (exponent : Int) : Scientific :=
  let significant := Decimal.significant digits
  let kept := Decimal.value (significant.take keptDigits)
  let further := significant.drop keptDigits
  if further.all fun octet => octet = 48 then ⟨kept, exponent + Int.ofNat further.length⟩
  else ⟨10 * kept + 1, exponent + Int.ofNat further.length - 1⟩

/-- Reads digits with an optional point, at least one digit beside it, and an exponent. -/
def scientific? (octets : Bytes) : Option Scientific :=
  let whole := octets.takeWhile Decimal.isDigit
  let afterWhole := octets.dropWhile Decimal.isDigit
  let (fraction, afterFraction) :=
    match afterWhole with
    | 46 :: rest => (rest.takeWhile Decimal.isDigit, rest.dropWhile Decimal.isDigit)
    | rest => ([], rest)
  if whole.isEmpty && fraction.isEmpty then none
  else (exponent? afterFraction).map fun exponent =>
    shorten (whole ++ fraction) (exponent - Int.ofNat fraction.length)

/-- The member nearest to a decimal number. Exponents that leave only zero or infinity are told
by the number of digits, so that no power beyond the range is computed. -/
def ofScientific (negative : Bool) (number : Scientific) : Binary64 :=
  if number.digits = 0 then zero negative
  else
    let size := Int.ofNat (Decimal.digits number.digits).length + number.exponent
    if 310 < size then .infinite negative
    else if size < -330 then zero negative
    else match number.exponent with
      | .ofNat power => round negative (number.digits * Nat.pow 10 power) 1
      | .negSucc power => round negative number.digits (Nat.pow 10 (power + 1))

/-- The octets with ASCII capitals replaced by small letters. -/
def smallLetters (octets : Bytes) : Bytes :=
  octets.map fun octet => if 65 ≤ octet ∧ octet ≤ 90 then octet + 32 else octet

def unsigned? (negative : Bool) (octets : Bytes) : Option Binary64 :=
  let word := smallLetters octets
  if word = Bytes.ofText "inf" ∨ word = Bytes.ofText "infinity" then some (.infinite negative)
  else if word = Bytes.ofText "nan" then some .notANumber
  else (scientific? octets).map (ofScientific negative)

def read? : Bytes → Option Binary64
  | 43 :: octets => unsigned? false octets
  | 45 :: octets => unsigned? true octets
  | octets => unsigned? false octets

end RespServer.Binary64
