import TerseSchema.Number.Binary64

/-!
# Decimals and binary64 numbers

A decimal is a natural coefficient and a power of ten.  This module finds the
shortest decimal of a magnitude and the magnitude of a decimal, and lays out
the digits of a decimal with or without a separate exponent.
-/

namespace TerseSchema

/-- The decimal `coefficient * 10 ^ power`. -/
structure Decimal where
  coefficient : Nat
  power : Int
  deriving DecidableEq

namespace Decimal

/-! ## From magnitudes to decimals -/

/-- The grid on which magnitudes are measured has steps of `10 ^ -gridPower`;
every magnitude other than zero spans at least 17 of its digits. -/
def gridPower : Nat := 341

/-- Number of steps of the grid in one. -/
def gridPerOne : Nat := Nat.pow 10 gridPower

/-- Number of decimal digits of a natural number. -/
def digitCount (number : Nat) : Nat :=
  (Nat.toDigits 10 number).length

/-- The decimal with `coarseness` digits of the grid cut off. -/
def onGrid (coarseness coefficient : Nat) : Decimal :=
  ⟨coefficient, (coarseness : Int) - gridPower⟩

/-- Whether a decimal on the grid has a given magnitude as its nearest one. -/
def rounds (code coarseness coefficient : Nat) : Bool :=
  Binary64.nearest (coefficient * Nat.pow 10 coarseness * Binary64.unitsPerOne)
    gridPerOne == code

/-- The neighbours of a magnitude among the decimals with `coarseness` digits
of the grid cut off, the nearer one first. -/
def neighbours (code coarseness : Nat) : List Nat :=
  let numerator := Binary64.units code * gridPerOne
  let denominator := Binary64.unitsPerOne * Nat.pow 10 coarseness
  let below := numerator / denominator
  let nearer := Binary64.roundQuotient numerator denominator
  [nearer, if nearer = below then below + 1 else below]

/-- The nearest decimal with the fewest digits that has a given magnitude as
its nearest one.  Seventeen digits suffice for every magnitude. -/
def shortest (code : Nat) : Decimal :=
  let digits :=
    digitCount (Binary64.units code * gridPerOne / Binary64.unitsPerOne)
  let attempt (coarseness : Nat) : Option Decimal :=
    ((neighbours code coarseness).find? (rounds code coarseness)).map
      (onGrid coarseness)
  let finest := digits - 17
  ((List.range 16).findSome? fun cut => attempt (digits - 1 - cut)).getD
    (onGrid finest ((neighbours code finest).headD 0))

/-! ## From decimals to magnitudes -/

/-- The greatest power of ten that is a finite magnitude. -/
def greatestPower : Nat := 308

/-- The code of a power of ten. -/
def powerOfTen (power : Nat) : Nat :=
  Binary64.ofNat (Nat.pow 10 power)

/-- Divide a magnitude by a power of ten, in steps that are finite
magnitudes. -/
def scaleDown (code power : Nat) : Nat :=
  if power ≤ greatestPower then Binary64.divide code (powerOfTen power)
  else if code = 0 then 0
  else
    scaleDown (Binary64.divide code (powerOfTen greatestPower))
      (power - greatestPower)
  termination_by power
  decreasing_by simp only [greatestPower] at *; omega

/-- Multiply a magnitude by a power of ten.  A magnitude other than zero is
too large after multiplication by more than the greatest power. -/
def scaleUp (code power : Nat) : Nat :=
  if power ≤ greatestPower then Binary64.multiply code (powerOfTen power)
  else if code = 0 then 0
  else Binary64.magnitudeCount

/-- The code of the magnitude that a decimal is read as.  The coefficient, the
power of ten, and their product or quotient are rounded one after the other. -/
def toCode (decimal : Decimal) : Nat :=
  let code := Binary64.ofNat decimal.coefficient
  if 0 ≤ decimal.power then scaleUp code decimal.power.natAbs
  else scaleDown code decimal.power.natAbs

/-! ## Layout -/

/-- The digits of a decimal without zeros at the end. -/
def digits (decimal : Decimal) : List Char :=
  ((Nat.toDigits 10 decimal.coefficient).reverse.dropWhile (· == '0')).reverse

/-- The power of ten of the first digit. -/
def exponent (decimal : Decimal) : Int :=
  decimal.power + digitCount decimal.coefficient - 1

/-- Digits around a decimal point, with at least one on each side. -/
def positional (digits : List Char) (exponent : Int) : List Char :=
  if exponent < 0 then
    '0' :: '.' :: (List.replicate (exponent.natAbs - 1) '0' ++ digits)
  else
    let whole := exponent.natAbs + 1
    let fraction := digits.drop whole
    digits.take whole ++ List.replicate (whole - digits.length) '0' ++
      '.' :: (if fraction.isEmpty then ['0'] else fraction)

/-- Digits with a point after the first one, if others follow, and a signed
exponent. -/
def scientific (digits : List Char) (exponent : Int) : List Char :=
  let fraction := digits.drop 1
  digits.take 1 ++ (if fraction.isEmpty then [] else '.' :: fraction) ++
    'e' :: (if exponent < 0 then '-' else '+') ::
      Nat.toDigits 10 exponent.natAbs

end Decimal
end TerseSchema
