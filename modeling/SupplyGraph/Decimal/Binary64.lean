/-!
Finite binary floating-point numbers of 64 bits, held as their bits, and how a decimal literal
becomes one.
-/

namespace SupplyGraph.Decimal

/-- A finite 64-bit floating-point number. -/
structure Binary64 where
  bits : UInt64
deriving DecidableEq, Repr, Inhabited

namespace Binary64

def isNegative (number : Binary64) : Bool := number.bits >>> 63 = 1

/-- The biased exponent field. -/
def exponentField (number : Binary64) : Nat := ((number.bits >>> 52) &&& 0x7FF).toNat

/-- The fraction field. -/
def fractionField (number : Binary64) : Nat := (number.bits &&& 0xFFFFFFFFFFFFF).toNat

/-- The absolute value is `significand * 2 ^ exponent`. -/
def significand (number : Binary64) : Nat :=
  if number.exponentField = 0 then number.fractionField else 0x10000000000000 + number.fractionField

def exponent (number : Binary64) : Int :=
  if number.exponentField = 0 then -1074 else (number.exponentField : Int) - 1075

/-- The gap to the value below is half the gap to the value above: so it is above a power of two. -/
def narrowBelow (number : Binary64) : Bool :=
  number.fractionField = 0 && 1 < number.exponentField

def isZero (number : Binary64) : Bool := number.significand = 0

end Binary64

/-- Divides by powers of ten of at most 308 until the exponent is used up. -/
def scaleDown (value : Float) (exponent : Nat) : Float :=
  if exponent ≤ 308 then value / Float.ofScientific 1 false exponent
  else if value == 0 then value
  else scaleDown (value / Float.ofScientific 1 false 308) (exponent - 308)
termination_by exponent

/-- The value `significand * 10 ^ exponent`, with one rounding of the significand and one for each
power of ten that it is multiplied with or divided by. There is none beyond the finite range. -/
def scale? (significand : Nat) (exponent : Int) : Option Float :=
  let value := Float.ofNat significand
  if significand = 0 then some value
  else if exponent < 0 then some (scaleDown value exponent.natAbs)
  else if exponent ≤ 308 then
    let product := value * Float.ofScientific 1 false exponent.toNat
    if product.isInf then none else some product
  else none

/-- The number written with this sign, significand and decimal exponent. -/
def Binary64.ofDecimal? (negative : Bool) (significand : Nat) (exponent : Int)
    : Option Binary64 := do
  let value ← scale? significand exponent
  return ⟨(if negative then -value else value).toBits⟩

end SupplyGraph.Decimal
