import RespServer.Bytes

/-!
Contract: decimal text of whole numbers.

Owns:
- the canonical decimal digits of a number and their reading;
- fixed-width integer types with their range, and the texts each of them reads.

Does not own: fractions and exponents (`Number.Binary64`).
-/

namespace RespServer

namespace Decimal

def digit (value : Nat) : UInt8 :=
  UInt8.ofNat (48 + value % 10)

/-- The octets `0` to `9`. -/
def isDigit (octet : UInt8) : Bool :=
  48 ≤ octet && octet ≤ 57

/-- The shortest decimal digits of a natural number. -/
def digits (value : Nat) : Bytes :=
  if value < 10 then [digit value] else digits (value / 10) ++ [digit value]

/-- The decimal text of a whole number: a sign only if it is negative. -/
def text : Int → Bytes
  | .ofNat value => digits value
  | .negSucc value => 45 :: digits (value + 1)

/-- The number that digits denote; other octets count by their distance from `0`. -/
def value (octets : Bytes) : Nat :=
  octets.foldl (fun number octet => 10 * number + (octet.toNat - 48)) 0

/-- Reads one or more digits, leading zeros allowed, and nothing else. -/
def digits? (octets : Bytes) : Option Nat :=
  if octets ≠ [] ∧ octets.all isDigit = true then some (value octets) else none

/-! ### Reading back canonical digits -/

theorem toNat_digit (value : Nat) : (digit value).toNat = 48 + value % 10 := by
  have small : 48 + value % 10 < 256 := by omega
  simp [digit, UInt8.toNat_ofNat', Nat.mod_eq_of_lt small]

theorem isDigit_digit (value : Nat) : isDigit (digit value) = true := by
  simp only [isDigit, Bool.and_eq_true, decide_eq_true_eq, UInt8.le_iff_toNat_le, toNat_digit]
  constructor
  · simp
  · have small : value % 10 < 10 := Nat.mod_lt _ (by decide)
    simp
    omega

theorem digits_ne_nil (value : Nat) : digits value ≠ [] := by
  unfold digits
  split <;> simp

theorem all_isDigit_digits (number : Nat) : (digits number).all isDigit = true := by
  induction number using digits.induct with
  | case1 number small =>
      rw [digits, if_pos small]
      simp [isDigit_digit]
  | case2 number large inductionHypothesis =>
      rw [digits, if_neg large]
      simp [isDigit_digit, inductionHypothesis]

theorem value_append_digit (octets : Bytes) (last : Nat) :
    value (octets ++ [digit last]) = 10 * value octets + last % 10 := by
  simp [value, List.foldl_append, toNat_digit]

theorem value_digits (number : Nat) : value (digits number) = number := by
  induction number using digits.induct with
  | case1 number small =>
      rw [digits, if_pos small]
      have read := value_append_digit [] number
      simp only [List.nil_append] at read
      rw [read, Nat.mod_eq_of_lt small]
      simp [value]
  | case2 number large inductionHypothesis =>
      rw [digits, if_neg large, value_append_digit, inductionHypothesis]
      omega

/-- The canonical digits of a number read back as that number. -/
@[simp] theorem digits?_digits (number : Nat) : digits? (digits number) = some number := by
  simp only [digits?, ne_eq, digits_ne_nil, not_false_eq_true, all_isDigit_digits, and_self,
    if_true, value_digits]

/-! ### Numbers of limited size -/

/-- The digits from the first that is not zero. -/
def significant (octets : Bytes) : Bytes :=
  octets.dropWhile fun octet => octet = 48

/-- Reads digits of a number below `10 ^ places`. Digits in excess are counted and not evaluated,
so that the time is linear in their number. -/
def digitsBelow? (places : Nat) (octets : Bytes) : Option Nat :=
  if places < (significant octets).length then none else digits? octets

theorem ten_pow_succ (places : Nat) : Nat.pow 10 (places + 1) = 10 * Nat.pow 10 places :=
  Nat.mul_comm _ _

theorem ten_pow_le {fewer places : Nat} (le : fewer ≤ places) :
    Nat.pow 10 fewer ≤ Nat.pow 10 places :=
  Nat.pow_le_pow_right (by decide) le

theorem foldl_value (octets : Bytes) (start : Nat) :
    octets.foldl (fun number octet => 10 * number + (octet.toNat - 48)) start
      = start * Nat.pow 10 octets.length + value octets := by
  induction octets generalizing start with
  | nil => simp [value]
  | cons octet rest inductionHypothesis =>
      simp only [value, List.foldl_cons, List.length_cons]
      rw [inductionHypothesis, inductionHypothesis (10 * 0 + _), ten_pow_succ]
      grind

theorem value_cons (octet : UInt8) (rest : Bytes) :
    value (octet :: rest) = (octet.toNat - 48) * Nat.pow 10 rest.length + value rest := by
  have folded := foldl_value rest (octet.toNat - 48)
  simpa [value] using folded

theorem value_significant (octets : Bytes) : value (significant octets) = value octets := by
  induction octets with
  | nil => rfl
  | cons octet rest inductionHypothesis =>
      by_cases isZero : octet = 48
      · subst isZero
        rw [value_cons, ← inductionHypothesis]
        simp [significant]
      · simp [significant, isZero]

theorem ne_zero_of_significant {octets rest : Bytes} {first : UInt8}
    (shape : significant octets = first :: rest) : first ≠ 48 := by
  induction octets with
  | nil => simp [significant] at shape
  | cons octet octets inductionHypothesis =>
      by_cases isZero : octet = 48
      · exact inductionHypothesis (by simpa [significant, isZero] using shape)
      · simp only [significant, List.dropWhile_cons, isZero, decide_false, Bool.false_eq_true,
          if_false, List.cons.injEq] at shape
        exact shape.1 ▸ isZero

theorem value_lt {octets : Bytes} (allDigits : octets.all isDigit = true) :
    value octets < Nat.pow 10 octets.length := by
  induction octets with
  | nil => simp [value]
  | cons octet rest inductionHypothesis =>
      simp only [List.all_cons, Bool.and_eq_true] at allDigits
      have below := inductionHypothesis allDigits.2
      have small : octet.toNat - 48 ≤ 9 := by
        have bounds := allDigits.1
        simp only [isDigit, Bool.and_eq_true, decide_eq_true_eq, UInt8.le_iff_toNat_le] at bounds
        have atMost : octet.toNat ≤ 57 := bounds.2
        omega
      rw [value_cons, List.length_cons, ten_pow_succ]
      have scaled := Nat.mul_le_mul_right (Nat.pow 10 rest.length) small
      omega

theorem le_value_of_significant {octets : Bytes} {places : Nat}
    (allDigits : octets.all isDigit = true) (long : places < (significant octets).length) :
    Nat.pow 10 places ≤ value octets := by
  rw [← value_significant]
  cases shape : significant octets with
  | nil => simp [shape] at long
  | cons first rest =>
      have member : first ∈ octets := by
        have suffix : significant octets <:+ octets := List.dropWhile_suffix _
        exact suffix.subset (by simp [shape])
      have firstIsDigit := List.all_eq_true.mp allDigits first member
      have notZero := ne_zero_of_significant shape
      have positive : 1 ≤ first.toNat - 48 := by
        simp only [isDigit, Bool.and_eq_true, decide_eq_true_eq, UInt8.le_iff_toNat_le]
          at firstIsDigit
        have atLeast : 48 ≤ first.toNat := firstIsDigit.1
        have different : first.toNat ≠ 48 := fun same => notZero (UInt8.toNat_inj.mp same)
        omega
      rw [value_cons]
      have enough : places ≤ rest.length := by
        rw [shape, List.length_cons] at long
        omega
      have powers := ten_pow_le enough
      have scaled := Nat.mul_le_mul_right (Nat.pow 10 rest.length) positive
      omega

/-- The bound on the number of digits is a bound on the number. -/
theorem digitsBelow?_eq_filter (places : Nat) (octets : Bytes) :
    digitsBelow? places octets
      = (digits? octets).filter fun number => number < Nat.pow 10 places := by
  unfold digitsBelow? digits?
  by_cases areDigits : octets ≠ [] ∧ octets.all isDigit = true
  · rw [if_pos areDigits]
    by_cases long : places < (significant octets).length
    · have large := le_value_of_significant areDigits.2 long
      rw [if_pos long, Option.filter_some, if_neg (by simpa using large)]
    · have significantDigits : (significant octets).all isDigit = true := by
        rw [List.all_eq_true] at *
        intro octet member
        exact areDigits.2 octet ((List.dropWhile_suffix _).subset member)
      have small := value_lt significantDigits
      rw [value_significant] at small
      have powers := ten_pow_le (Nat.le_of_not_lt long)
      have below := Nat.lt_of_lt_of_le small powers
      rw [if_neg long, Option.filter_some, if_pos (by simpa using below)]
  · rw [if_neg areDigits]
    simp

end Decimal

/-- A fixed-width integer type, signed in two's complement or unsigned. -/
structure IntegerType where
  signed : Bool
  bits : Nat
deriving DecidableEq, Repr

namespace IntegerType

def int8 : IntegerType := ⟨true, 8⟩

def int32 : IntegerType := ⟨true, 32⟩

def int64 : IntegerType := ⟨true, 64⟩

def uint8 : IntegerType := ⟨false, 8⟩

def uint64 : IntegerType := ⟨false, 64⟩

def least (type : IntegerType) : Int :=
  if type.signed then -(Int.pow 2 (type.bits - 1)) else 0

def greatest (type : IntegerType) : Int :=
  if type.signed then Int.pow 2 (type.bits - 1) - 1 else Int.pow 2 type.bits - 1

def Holds (type : IntegerType) (number : Int) : Prop :=
  type.least ≤ number ∧ number ≤ type.greatest

instance (type : IntegerType) (number : Int) : Decidable (type.Holds number) := by
  unfold Holds
  infer_instance

/-- The number that a sign and a magnitude denote, given how magnitudes are read. A minus sign
belongs to signed types only, a plus sign to all. -/
def withSign? (type : IntegerType) (magnitude? : Bytes → Option Nat) : Bytes → Option Int
  | 43 :: octets => (magnitude? octets).map Int.ofNat
  | 45 :: octets =>
      if type.signed then (magnitude? octets).map fun number => -(Int.ofNat number) else none
  | octets => (magnitude? octets).map Int.ofNat

/-- The number that a sign and digits denote, without regard to the range. -/
def unbounded? (type : IntegerType) : Bytes → Option Int :=
  type.withSign? Decimal.digits?

/-- Reads a number of the type from its text. Of a number with more digits than the type has
bits, and one, only the number of digits matters. -/
def read? (type : IntegerType) (octets : Bytes) : Option Int :=
  (type.withSign? (Decimal.digitsBelow? (type.bits + 1)) octets).filter fun number =>
    decide (type.Holds number)

/-- The magnitudes of the numbers of a type are below the bound up to which digits are
evaluated. -/
theorem natAbs_lt_of_holds {type : IntegerType} {number : Int} (holds : type.Holds number) :
    number.natAbs < Nat.pow 10 (type.bits + 1) := by
  have half : Nat.pow 2 (type.bits - 1) ≤ Nat.pow 2 type.bits :=
    Nat.pow_le_pow_right (by decide) (by omega)
  have powers : Nat.pow 2 type.bits ≤ Nat.pow 10 type.bits := Nat.pow_le_pow_left (by decide) _
  have positive : 0 < Nat.pow 10 type.bits := Nat.pow_pos (by decide)
  have next := Decimal.ten_pow_succ type.bits
  have inNat : ∀ bits, Int.pow 2 bits = (Nat.pow 2 bits : Int) := fun bits =>
    (Int.natCast_pow 2 bits).symm
  unfold Holds least greatest at holds
  rw [inNat, inNat] at holds
  split at holds <;> omega

/-- What is read is what a sign and digits denote, if it lies in the range. -/
theorem read?_eq_filter (type : IntegerType) (octets : Bytes) :
    type.read? octets = (type.unbounded? octets).filter fun number =>
      decide (type.Holds number) := by
  have sameOnHeld : ∀ (found : Option Nat) (signed : Nat → Int),
      (∀ number, (signed number).natAbs = number) →
      ((found.filter fun number => decide (number < Nat.pow 10 (type.bits + 1))).map signed).filter
          (fun number => decide (type.Holds number))
        = (found.map signed).filter fun number => decide (type.Holds number) := by
    intro found signed magnitude
    cases found with
    | none => rfl
    | some number =>
        by_cases holds : type.Holds (signed number)
        · have below := natAbs_lt_of_holds holds
          rw [magnitude] at below
          simp [Option.filter_some, below, -Nat.pow_eq]
        · simp [Option.filter_some, holds]
  unfold read? unbounded? withSign?
  simp only [Decimal.digitsBelow?_eq_filter]
  split
  · exact sameOnHeld _ _ fun _ => rfl
  · split
    · exact sameOnHeld _ _ fun number => by simp
    · rfl
  · exact sameOnHeld _ _ fun _ => rfl

theorem holds_of_read? {type : IntegerType} {octets : Bytes} {number : Int}
    (read : type.read? octets = some number) : type.Holds number := by
  simp only [read?_eq_filter, Option.filter_eq_some_iff, decide_eq_true_eq] at read
  exact read.2

/-- Digits denote their number in every type; they have no sign. -/
theorem unbounded?_digits (type : IntegerType) (value : Nat) :
    type.unbounded? (Decimal.digits value) = some (Int.ofNat value) := by
  have firstIsDigit := Decimal.all_isDigit_digits value
  have readBack := Decimal.digits?_digits value
  generalize Decimal.digits value = octets at firstIsDigit readBack
  unfold unbounded? withSign?
  split
  · simp [Decimal.isDigit] at firstIsDigit
  · simp [Decimal.isDigit] at firstIsDigit
  · simp [readBack]

/-- The canonical text of a number denotes that number. -/
theorem unbounded?_text {type : IntegerType} (signed : type.signed = true) (number : Int) :
    type.unbounded? (Decimal.text number) = some number := by
  cases number with
  | ofNat value => exact type.unbounded?_digits value
  | negSucc value =>
      simp only [Decimal.text, unbounded?, withSign?, signed, if_true, Decimal.digits?_digits,
        Option.map_some]
      rfl

/-- The canonical text of a number of a signed type reads back as that number. -/
theorem read?_text {type : IntegerType} (signed : type.signed = true) {number : Int}
    (holds : type.Holds number) : type.read? (Decimal.text number) = some number := by
  simp [read?_eq_filter, unbounded?_text signed, holds]

/-- The canonical text of a number beyond a signed type is not read. -/
theorem read?_text_of_beyond {type : IntegerType} (signed : type.signed = true) {number : Int}
    (beyond : ¬type.Holds number) : type.read? (Decimal.text number) = none := by
  simp [read?_eq_filter, unbounded?_text signed, beyond]

/-- Of the numbers in range only the least has no opposite in range. -/
theorem int64_holds_neg_iff {number : Int} (holds : int64.Holds number) :
    int64.Holds (-number) ↔ number ≠ int64.least := by
  have least : int64.least = -9223372036854775808 := rfl
  have greatest : int64.greatest = 9223372036854775807 := rfl
  unfold Holds at holds ⊢
  omega

end IntegerType

end RespServer
