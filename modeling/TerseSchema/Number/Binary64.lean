/-!
# Finite binary64 numbers

A finite binary64 number is a sign and a magnitude code.  Codes below
`magnitudeCount` are the finite magnitudes in increasing order, so a rounding
that passes a power of two reaches the next code by itself.  The code
`magnitudeCount` and those above it stand for magnitudes that are too large.

A magnitude is a natural number of units of `2 ^ -1074`.  All arithmetic here
is exact arithmetic on natural numbers followed by one rounding to the nearest
magnitude, a tie going to the even code.
-/

namespace TerseSchema
namespace Binary64

/-- Number of magnitudes between two powers of two. -/
def fractionCount : Nat := 1 <<< 52

/-- Number of finite magnitudes. -/
def magnitudeCount : Nat := 2047 * fractionCount

/-- Number of units in one. -/
def unitsPerOne : Nat := 1 <<< 1074

/-- The magnitude of a code in units. -/
def units (code : Nat) : Nat :=
  if code < fractionCount then code
  else (fractionCount + code % fractionCount) <<< (code / fractionCount - 1)

/-- The natural number nearest to a quotient.  A half goes to the even one. -/
def roundQuotient (numerator denominator : Nat) : Nat :=
  let quotient := numerator / denominator
  let doubled := 2 * (numerator % denominator)
  if doubled < denominator then quotient
  else if doubled = denominator ∧ quotient % 2 = 0 then quotient
  else quotient + 1

/-- The code of the magnitude nearest to a quotient of units. -/
def nearest (numerator denominator : Nat) : Nat :=
  let scale := (numerator / denominator).log2 - 52
  scale * fractionCount + roundQuotient numerator (denominator <<< scale)

/-- The code nearest to a natural number. -/
def ofNat (number : Nat) : Nat :=
  nearest (number * unitsPerOne) 1

/-- The code nearest to the product of two magnitudes. -/
def multiply (first second : Nat) : Nat :=
  nearest (units first * units second) unitsPerOne

/-- The code nearest to the quotient of two magnitudes. -/
def divide (first second : Nat) : Nat :=
  nearest (units first * unitsPerOne) (units second)

end Binary64

/-- A finite binary64 number. -/
structure Binary64 where
  negative : Bool
  code : Nat
  isFinite : code < Binary64.magnitudeCount
  deriving DecidableEq

namespace Binary64

/-- The number of a sign and a code, unless the magnitude is too large. -/
def ofCode? (negative : Bool) (code : Nat) : Option Binary64 :=
  if isFinite : code < magnitudeCount then some ⟨negative, code, isFinite⟩
  else none

/-- Whether the number is one of the two zeros. -/
def isZero (number : Binary64) : Bool :=
  number.code == 0

/-- Equality of values: the two zeros are equal, all other numbers differ. -/
def same (first second : Binary64) : Bool :=
  first.code == second.code &&
    (first.isZero || first.negative == second.negative)

/-- Equality of values holds of every number and itself. -/
@[simp] theorem same_self (number : Binary64) : number.same number = true := by
  simp [same]

end Binary64
end TerseSchema
