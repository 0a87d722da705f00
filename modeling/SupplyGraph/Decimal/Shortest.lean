import SupplyGraph.Decimal.Binary64

/-!
The shortest decimal for a floating-point number: the fewest digits that read back as the number,
and among those the ones nearest to it. All comparisons are exact, on natural numbers.
-/

namespace SupplyGraph.Decimal

/-- The decimal `digits * 10 ^ exponent`. -/
structure Scaled where
  digits : Nat
  exponent : Int
deriving DecidableEq, Repr

/-- Compares `left * 10 ^ tens` with `right * 2 ^ twos`. -/
def compareScaled (left : Nat) (tens : Int) (right : Nat) (twos : Int) : Ordering :=
  compare (left * Nat.pow 10 tens.toNat * Nat.pow 2 (-twos).toNat)
    (right * Nat.pow 2 twos.toNat * Nat.pow 10 (-tens).toNat)

namespace Binary64

/-- The decimal lies among the reals that round to the number. The interval reaches halfway to
each neighbour, and its ends belong to it when the significand is even. -/
def readsBack (number : Binary64) (decimal : Scaled) : Bool :=
  let low := if number.narrowBelow then 4 * number.significand - 1 else 4 * number.significand - 2
  let high := 4 * number.significand + 2
  let closed := number.significand % 2 = 0
  let toLow := compareScaled decimal.digits decimal.exponent low (number.exponent - 2)
  let toHigh := compareScaled decimal.digits decimal.exponent high (number.exponent - 2)
  (toLow = .gt || (closed && toLow = .eq)) && (toHigh = .lt || (closed && toHigh = .eq))

/-- The integer part of the number over `10 ^ tens`. -/
def quotient (number : Binary64) (tens : Int) : Nat :=
  (number.significand * Nat.pow 2 number.exponent.toNat * Nat.pow 10 (-tens).toNat)
    / (Nat.pow 2 (-number.exponent).toNat * Nat.pow 10 tens.toNat)

/-- The least power of ten above the number, found from one that is certainly not below it. -/
def magnitudeBelow (number : Binary64) : Nat → Int → Int
  | 0, bound => bound
  | steps + 1, bound =>
      if compareScaled 1 (bound - 1) number.significand number.exponent = .gt
      then magnitudeBelow number steps (bound - 1)
      else bound

/-- The decimal exponent just above the leading digit. -/
def magnitude (number : Binary64) : Int := magnitudeBelow number 700 310

/-- Of the two neighbours of the number on a grid the one that reads back, the nearer if both do,
the even one if they are equally near. -/
def onGrid? (number : Binary64) (tens : Int) : Option Scaled :=
  let below := number.quotient tens
  let lower : Scaled := ⟨below, tens⟩
  let upper : Scaled := ⟨below + 1, tens⟩
  match number.readsBack lower, number.readsBack upper with
  | false, false => none
  | true, false => some lower
  | false, true => some upper
  | true, true =>
      match compareScaled (2 * below + 1) tens (2 * number.significand) number.exponent with
      | .gt => some lower
      | .lt => some upper
      | .eq => some (if below % 2 = 0 then lower else upper)

/-- The exact value, which certainly reads back. -/
def exact (number : Binary64) : Scaled :=
  ⟨number.significand * Nat.pow 2 number.exponent.toNat * Nat.pow 5 (-number.exponent).toNat,
    min number.exponent 0⟩

end Binary64

/-- Moves zeros at the end of the digits into the exponent. -/
def Scaled.strip (decimal : Scaled) : Scaled :=
  if h : decimal.digits ≠ 0 ∧ decimal.digits % 10 = 0 then
    strip ⟨decimal.digits / 10, decimal.exponent + 1⟩
  else decimal
termination_by decimal.digits
decreasing_by exact Nat.div_lt_self (Nat.pos_of_ne_zero h.1) (by decide)

/-- The decimal that a finite non-zero number is written with, its sign left aside. -/
def Binary64.shortest (number : Binary64) : Scaled :=
  let magnitude := number.magnitude
  let tried :=
    (List.range' 1 17).findSome? (fun (count : Nat) => number.onGrid? (magnitude - count))
  (tried.getD number.exact).strip

end SupplyGraph.Decimal
