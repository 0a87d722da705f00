import Mathlib.Algebra.Order.Field.Power
import Mathlib.Order.Monotone.Basic
import Mathlib.Tactic.FieldSimp
import Mathlib.Tactic.Linarith
import Mathlib.Tactic.MkIffOfInductiveProp
import Mathlib.Tactic.Positivity
import Mathlib.Tactic.Ring
import Mathlib.Tactic.SplitIfs
import SupplyGraph.Decimal.Shortest

/-!
Rounding intervals. The sizes of floating-point numbers are counted in ascending order; a decimal
reads back as the number with a size if it lies between the middles to the sizes next to it, where
a middle belongs to the even one of its two neighbours. So it reads back as one number only.
-/

namespace SupplyGraph.Decimal

-----------------------------------------------------------------------------------------
-- Sizes in ascending order
-----------------------------------------------------------------------------------------

/-- The significand of the size at a place. -/
def significandAt (place : Nat) : Nat :=
  if place / 2 ^ 52 = 0 then place % 2 ^ 52 else 2 ^ 52 + place % 2 ^ 52

def exponentAt (place : Nat) : Int :=
  if place / 2 ^ 52 = 0 then -1074 else ((place / 2 ^ 52 : Nat) : Int) - 1075

/-- The size at a place. -/
def sizeAt (place : Nat) : ℚ := significandAt place * 2 ^ exponentAt place

/-- From one size to the next the significand grows by one. Where it has no room left, it is halved
and the exponent grows instead. -/
theorem sizeAt_succ (place : Nat)
    : sizeAt (place + 1) = sizeAt place + 2 ^ exponentAt place := by
  by_cases hroom : place % 2 ^ 52 + 1 < 2 ^ 52 ∨ place / 2 ^ 52 = 0
  · have hsignificand : significandAt (place + 1) = significandAt place + 1 := by
      simp only [significandAt]
      split_ifs <;> omega
    have hexponent : exponentAt (place + 1) = exponentAt place := by
      simp only [exponentAt]
      split_ifs <;> omega
    rw [sizeAt, sizeAt, hsignificand, hexponent]
    push_cast
    ring
  · have hfull : significandAt place = 2 ^ 53 - 1 := by
      rw [significandAt]
      split_ifs <;> omega
    have hhalved : significandAt (place + 1) = 2 ^ 52 := by
      rw [significandAt]
      split_ifs <;> omega
    have hexponent : exponentAt (place + 1) = exponentAt place + 1 := by
      simp only [exponentAt]
      split_ifs <;> omega
    rw [sizeAt, sizeAt, hfull, hhalved, hexponent, zpow_add_one₀ (by norm_num)]
    norm_num
    ring

theorem sizeAt_strictMono
    : StrictMono sizeAt := by
  refine strictMono_nat_of_lt_succ (fun place => ?_)
  rw [sizeAt_succ]
  exact lt_add_of_pos_right _ (by positivity)

/-- The middle between the size at a place and the next one. -/
def middle (place : Nat) : ℚ := (sizeAt place + sizeAt (place + 1)) / 2

theorem middle_strictMono
    : StrictMono middle := by
  intro place later hlt
  have hfirst := sizeAt_strictMono hlt
  have hsecond := sizeAt_strictMono (Nat.succ_lt_succ hlt)
  simp only [middle]
  linarith

/-- A middle in quarters of the gap above the size. -/
theorem middle_eq (place : Nat)
    : middle place = (4 * significandAt place + 2) * 2 ^ (exponentAt place - 2) := by
  rw [middle, sizeAt_succ, sizeAt, zpow_sub₀ (by norm_num)]
  field_simp
  ring

/-- Only the least size is zero. -/
theorem significandAt_pos {place : Nat} (h : place ≠ 0)
    : 0 < significandAt place := by
  rw [significandAt]
  split_ifs <;> omega

/-- The low end of an interval, in quarters of the gap above the size. The gap below is half as wide
where the exponent changes. -/
theorem middle_pred_eq {place : Nat} (h : place ≠ 0)
    : middle (place - 1)
      = ((if place % 2 ^ 52 = 0 ∧ 1 < place / 2 ^ 52 then 4 * significandAt place - 1
            else 4 * significandAt place - 2 : Nat) : ℚ)
        * 2 ^ (exponentAt place - 2) := by
  have hpos := significandAt_pos h
  obtain ⟨below, rfl⟩ := Nat.exists_eq_add_one_of_ne_zero h
  have hsize := sizeAt_succ below
  have hnext
      : sizeAt (below + 1) = significandAt (below + 1) * 2 ^ exponentAt (below + 1) := rfl
  have hquarter
      : (2 : ℚ) ^ (exponentAt (below + 1) - 2) = 2 ^ exponentAt (below + 1) / 4 := by
    rw [zpow_sub₀ (by norm_num)]
    norm_num
  rw [Nat.add_sub_cancel, middle, hquarter]
  split_ifs with hnarrow
  · have hexponent : exponentAt below = exponentAt (below + 1) - 1 := by
      simp only [exponentAt]
      split_ifs <;> omega
    rw [hexponent, zpow_sub_one₀ (by norm_num)] at hsize
    push_cast [Nat.cast_sub (show 1 ≤ 4 * significandAt (below + 1) by omega)]
    linarith
  · have hexponent : exponentAt below = exponentAt (below + 1) := by
      simp only [exponentAt]
      split_ifs <;> omega
    rw [hexponent] at hsize
    push_cast [Nat.cast_sub (show 2 ≤ 4 * significandAt (below + 1) by omega)]
    linarith

/-- The value lies between the middles around the size at the place. A middle rounds to the even
one of its neighbours. -/
@[mk_iff]
structure RoundsTo (place : Nat) (value : ℚ) : Prop where
  low : middle (place - 1) < value ∨ place % 2 = 0 ∧ value = middle (place - 1)
  high : value < middle place ∨ place % 2 = 0 ∧ value = middle place

/-- No value rounds to two sizes. Intervals of sizes that are not neighbours are apart, and the
middle between neighbours belongs to one of them only. -/
theorem RoundsTo.unique {place other : Nat} {value : ℚ} (h : RoundsTo place value)
    (ho : RoundsTo other value)
    : place = other := by
  have hapart {place other : Nat} (h : RoundsTo place value) (ho : RoundsTo other value)
      : ¬ place < other := by
    intro hlt
    have hmiddles : middle place ≤ middle (other - 1) :=
      middle_strictMono.monotone (by omega)
    rcases h.high with hbelow | ⟨heven, hbelow⟩
    · rcases ho.low with habove | ⟨_, habove⟩ <;> linarith
    · rcases ho.low with habove | ⟨heven', habove⟩
      · linarith
      · have hadjacent := middle_strictMono.injective (hbelow.symm.trans habove)
        omega
  have hfirst := hapart h ho
  have hsecond := hapart ho h
  omega

-----------------------------------------------------------------------------------------
-- Comparisons
-----------------------------------------------------------------------------------------

def Scaled.value (decimal : Scaled) : ℚ := decimal.digits * 10 ^ decimal.exponent

theorem pow_toNat {base : ℚ} (h : base ≠ 0) (exponent : Int)
    : base ^ exponent.toNat = base ^ exponent * base ^ (-exponent).toNat := by
  rw [← zpow_natCast, ← zpow_natCast, ← zpow_add₀ h]
  congr 1
  omega

/-- Comparing on natural numbers is comparing the numbers that they stand for. -/
theorem compareScaled_eq (left : Nat) (tens : Int) (right : Nat) (twos : Int)
    : (compareScaled left tens right twos = .lt ↔ (left * 10 ^ tens : ℚ) < right * 2 ^ twos)
      ∧ (compareScaled left tens right twos = .eq ↔ (left * 10 ^ tens : ℚ) = right * 2 ^ twos)
      ∧ (compareScaled left tens right twos = .gt
        ↔ (right * 2 ^ twos : ℚ) < left * 10 ^ tens) := by
  have hscale : (0 : ℚ) < 10 ^ (-tens).toNat * 2 ^ (-twos).toNat := by positivity
  have hleft
      : ((left * Nat.pow 10 tens.toNat * Nat.pow 2 (-twos).toNat : Nat) : ℚ)
        = left * 10 ^ tens * (10 ^ (-tens).toNat * 2 ^ (-twos).toNat) := by
    push_cast [Nat.pow_eq]
    rw [pow_toNat (by norm_num)]
    ring
  have hright
      : ((right * Nat.pow 2 twos.toNat * Nat.pow 10 (-tens).toNat : Nat) : ℚ)
        = right * 2 ^ twos * (10 ^ (-tens).toNat * 2 ^ (-twos).toNat) := by
    push_cast [Nat.pow_eq]
    rw [pow_toNat (by norm_num)]
    ring
  rw [compareScaled, Nat.compare_eq_lt, Nat.compare_eq_eq, Nat.compare_eq_gt,
    ← Nat.cast_lt (α := ℚ), ← Nat.cast_inj (R := ℚ), ← Nat.cast_lt (α := ℚ), hleft, hright,
    mul_lt_mul_iff_left₀ hscale, mul_lt_mul_iff_left₀ hscale, mul_left_inj' hscale.ne']
  exact ⟨Iff.rfl, Iff.rfl, Iff.rfl⟩

-----------------------------------------------------------------------------------------
-- Fields of numbers
-----------------------------------------------------------------------------------------

namespace Binary64

variable (number : Binary64)

/-- The place of the size of the number. -/
def place : Nat := number.bits.toNat % 2 ^ 63

theorem exponentField_eq
    : number.exponentField = number.place / 2 ^ 52 := by
  have hmask (bits : Nat) : bits &&& 0x7FF = bits % 2 ^ 11 := Nat.and_two_pow_sub_one_eq_mod bits 11
  rw [exponentField, UInt64.toNat_and, UInt64.toNat_shiftRight]
  change (number.bits.toNat >>> 52) &&& 0x7FF = _
  rw [hmask, Nat.shiftRight_eq_div_pow, place]
  omega

theorem fractionField_eq
    : number.fractionField = number.place % 2 ^ 52 := by
  have hmask (bits : Nat) : bits &&& 0xFFFFFFFFFFFFF = bits % 2 ^ 52 :=
    Nat.and_two_pow_sub_one_eq_mod bits 52
  rw [fractionField, UInt64.toNat_and]
  change number.bits.toNat &&& 0xFFFFFFFFFFFFF = _
  rw [hmask, place]
  omega

theorem significand_eq
    : number.significand = significandAt number.place := by
  rw [significand, significandAt, exponentField_eq, fractionField_eq]
  rfl

theorem exponent_eq
    : number.exponent = exponentAt number.place := by
  rw [exponent, exponentAt, exponentField_eq]

theorem isNegative_iff
    : number.isNegative ↔ 2 ^ 63 ≤ number.bits.toNat := by
  have hbits := number.bits.toNat_lt
  rw [isNegative, decide_eq_true_iff, ← UInt64.toNat_inj, UInt64.toNat_shiftRight]
  change number.bits.toNat >>> 63 = 1 ↔ _
  rw [Nat.shiftRight_eq_div_pow]
  omega

/-- A number is made of its sign and its size. -/
theorem eq_of_place_eq {number other : Binary64} (hsign : number.isNegative = other.isNegative)
    (hplace : number.place = other.place)
    : number = other := by
  have hnegative := number.isNegative_iff
  rw [hsign, other.isNegative_iff] at hnegative
  have hbits := number.bits.toNat_lt
  have hothers := other.bits.toNat_lt
  rw [place, place] at hplace
  have heq : number.bits = other.bits := UInt64.toNat_inj.mp (by omega)
  cases number
  cases other
  exact congrArg Binary64.mk heq

theorem isZero_iff
    : number.isZero ↔ number.place = 0 := by
  rw [isZero, decide_eq_true_iff, significand_eq, significandAt]
  split_ifs <;> omega

-----------------------------------------------------------------------------------------
-- Decimals that read back
-----------------------------------------------------------------------------------------

/-- The comparisons of a decimal with a number find out whether its value rounds to the size of the
number. -/
theorem readsBack_iff (hplace : number.place ≠ 0) (decimal : Scaled)
    : number.readsBack decimal ↔ RoundsTo number.place decimal.value := by
  have heven : number.significand % 2 = 0 ↔ number.place % 2 = 0 := by
    rw [significand_eq, significandAt]
    split_ifs <;> omega
  have hlow
      : middle (number.place - 1)
        = ((if number.narrowBelow then 4 * number.significand - 1
              else 4 * number.significand - 2 : Nat) : ℚ)
          * 2 ^ (number.exponent - 2) := by
    simp only [middle_pred_eq hplace, narrowBelow, significand_eq, exponent_eq, fractionField_eq,
      exponentField_eq, Bool.and_eq_true, decide_eq_true_eq]
  have hhigh
      : middle number.place
        = ((4 * number.significand + 2 : Nat) : ℚ) * 2 ^ (number.exponent - 2) := by
    rw [middle_eq, significand_eq, exponent_eq]
    push_cast
    rfl
  simp only [readsBack, roundsTo_iff, Scaled.value, hlow, hhigh, Bool.and_eq_true, Bool.or_eq_true,
    decide_eq_true_eq, heven, compareScaled_eq]

end Binary64

end SupplyGraph.Decimal
