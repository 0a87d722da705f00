import SupplyGraph.Decimal.Shortest

/-!
Numbers of JSON texts. An integer that fits 64 bits, signed or unsigned, is exact; every other
number is the floating-point number that its literal comes to.
-/

namespace SupplyGraph

open Decimal (Binary64)

namespace Json

inductive Number where
  | integer (value : Int)
  | real (value : Binary64)
deriving DecidableEq, Repr

/-- A number as it is written, digit by digit. -/
structure NumberLiteral where
  negative : Bool
  whole : List Nat
  fraction : Option (List Nat)
  exponent : Option Int
deriving DecidableEq, Repr

def isDigit (c : Char) : Bool := '0' ≤ c && c ≤ '9'

def digitValue (c : Char) : Nat := c.toNat - '0'.toNat

/-- The digits at the front of a text, and what comes after them. -/
def spanDigits (text : List Char) : List Nat × List Char :=
  ((text.takeWhile isDigit).map digitValue, text.dropWhile isDigit)

/-- At least one digit. -/
def spanDigits1 (text : List Char) : Option (List Nat × List Char) :=
  match spanDigits text with
  | ([], _) => none
  | digits => some digits

/-- A fraction, if a point is next. -/
def readFraction : List Char → Option (Option (List Nat) × List Char)
  | '.' :: rest => do
      let (digits, rest) ← spanDigits1 rest
      return (some digits, rest)
  | text => some (none, text)

/-- The sign of an exponent, which may be left out. -/
def readSign : List Char → Bool × List Char
  | '-' :: rest => (true, rest)
  | '+' :: rest => (false, rest)
  | text => (false, text)

def ofDigits (digits : List Nat) : Nat := digits.foldl (fun value digit => value * 10 + digit) 0

/-- An exponent, if its mark is next. -/
def readExponent : List Char → Option (Option Int × List Char)
  | mark :: rest =>
      if mark = 'e' ∨ mark = 'E' then do
        let (negative, rest) := readSign rest
        let (digits, rest) ← spanDigits1 rest
        let size : Int := ofDigits digits
        return (some (if negative then -size else size), rest)
      else some (none, mark :: rest)
  | [] => some (none, [])

/-- The digits before the point. A leading zero stands alone. -/
def readWhole (text : List Char) : Option (List Nat × List Char) :=
  match spanDigits text with
  | ([], _) => none
  | (0 :: _ :: _, _) => none
  | digits => some digits

def readUnsigned (negative : Bool) (text : List Char) : Option (NumberLiteral × List Char) := do
  let (whole, rest) ← readWhole text
  let (fraction, rest) ← readFraction rest
  let (exponent, rest) ← readExponent rest
  return (⟨negative, whole, fraction, exponent⟩, rest)

/-- The number literal at the front of a text, and what comes after it. -/
def NumberLiteral.read : List Char → Option (NumberLiteral × List Char)
  | '-' :: rest => readUnsigned true rest
  | text => readUnsigned false text

/-- The largest significand that is kept. -/
def significandLimit : Nat := UInt64.size - 1

/-- Takes digits into a significand as long as it stays within the limit. -/
def takeDigits (significand : Nat) : List Nat → Nat × List Nat
  | [] => (significand, [])
  | digit :: rest =>
      if significand * 10 + digit ≤ significandLimit
      then takeDigits (significand * 10 + digit) rest
      else (significand, digit :: rest)

/-- The value of a literal; none if it lies beyond the finite floating-point numbers. Digits that
the significand has no room for count by their place only. -/
def NumberLiteral.value? (literal : NumberLiteral) : Option Number :=
  let (whole, dropped) := takeDigits 0 literal.whole
  let real (significand : Nat) (exponent : Int) : Option Number :=
    (Binary64.ofDecimal? literal.negative significand exponent).map .real
  match literal.fraction, literal.exponent with
  | none, none =>
      if !dropped.isEmpty then real whole dropped.length
      else if !literal.negative then some (.integer whole)
      else if 0 < whole ∧ Int64.minValue.toInt ≤ -whole then some (.integer (-whole))
      else real whole 0
  | none, some exponent => real whole (dropped.length + exponent)
  | some fraction, exponent =>
      let (significand, ignored) := takeDigits whole fraction
      let places := fraction.length - ignored.length
      real significand (dropped.length - places + exponent.getD 0)

/-- The decimal digits of a natural number. -/
def renderNat (value : Nat) : List Char := Nat.toDigits 10 value

def renderInt (value : Int) : List Char :=
  if value < 0 then '-' :: renderNat value.natAbs else renderNat value.natAbs

/-- The exponent of a number behind its mark. It always has a sign. -/
def renderExponent (value : Int) : List Char :=
  if value < 0 then 'e' :: renderInt value else 'e' :: '+' :: renderInt value

/-- Lays out digits whose last one stands at the given power of ten. Leading digits from the fifth
decimal place up to the sixteenth digit before the point are written positionally, others with an
exponent, and a positional number always has a fraction. -/
def layOut (digits : List Char) (exponent : Int) : List Char :=
  let point := digits.length + exponent
  if 0 ≤ exponent ∧ point ≤ 16 then
    digits ++ List.replicate exponent.toNat '0' ++ ['.', '0']
  else if 0 < point ∧ point ≤ 16 then
    digits.take point.toNat ++ '.' :: digits.drop point.toNat
  else if -5 < point ∧ point ≤ 0 then
    '0' :: '.' :: List.replicate (-point).toNat '0' ++ digits
  else
    match digits with
    | [digit] => digit :: renderExponent (point - 1)
    | _ => digits.take 1 ++ '.' :: digits.drop 1 ++ renderExponent (point - 1)

def renderReal (number : Binary64) : List Char :=
  let size :=
    if number.isZero then ['0', '.', '0']
    else
      let decimal := number.shortest
      layOut (renderNat decimal.digits) decimal.exponent
  if number.isNegative then '-' :: size else size

def Number.render : Number → List Char
  | .integer value => renderInt value
  | .real value => renderReal value

end Json

end SupplyGraph
