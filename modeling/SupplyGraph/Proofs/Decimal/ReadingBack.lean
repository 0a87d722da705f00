import SupplyGraph.Proofs.Decimal.Intervals

/-!
The decimals that numbers are written with. Whatever the search for a short decimal comes to reads
back as the number, so that no two sizes are written with the same decimal.
-/

namespace SupplyGraph.Decimal

/-- Moving zeros into the exponent leaves the value as it is, by induction on the digits. -/
theorem Scaled.value_strip (decimal : Scaled)
    : decimal.strip.value = decimal.value := by
  fun_induction Scaled.strip decimal with
  | case1 decimal h ih =>
      have hdigits : (decimal.digits : ℚ) = (decimal.digits / 10 : Nat) * 10 := by
        norm_cast
        omega
      rw [ih, value, value, hdigits, zpow_add_one₀ (by norm_num)]
      ring
  | case2 => rfl

namespace Binary64

variable (number : Binary64)

/-- A size is between the middles to its neighbours. -/
theorem roundsTo_sizeAt {place : Nat} (h : place ≠ 0)
    : RoundsTo place (sizeAt place) := by
  have hbelow : sizeAt (place - 1) < sizeAt (place - 1 + 1) :=
    sizeAt_strictMono (Nat.lt_succ_self _)
  have habove : sizeAt place < sizeAt (place + 1) := sizeAt_strictMono (Nat.lt_succ_self _)
  rw [Nat.sub_add_cancel (Nat.pos_of_ne_zero h)] at hbelow
  constructor
  · left
    rw [middle, Nat.sub_add_cancel (Nat.pos_of_ne_zero h)]
    linarith
  · left
    rw [middle]
    linarith

theorem value_exact
    : number.exact.value = sizeAt number.place := by
  rw [sizeAt, ← significand_eq, ← exponent_eq, exact, Scaled.value]
  rcases Int.le_total 0 number.exponent with hnonneg | hneg
  · obtain ⟨twos, htwos⟩ := Int.eq_ofNat_of_zero_le hnonneg
    rw [htwos]
    simp
  · obtain ⟨twos, htwos⟩ := Int.exists_eq_neg_ofNat hneg
    have htens : (10 : ℚ) ^ twos = 2 ^ twos * 5 ^ twos := by
      rw [← mul_pow]
      norm_num
    have hvalue
        : (number.significand : ℚ) * 5 ^ twos * (10 ^ twos)⁻¹
          = number.significand * (2 ^ twos)⁻¹ := by
      rw [htens]
      field_simp
    rw [htwos]
    simpa using hvalue

/-- Only decimals that read back are taken from a grid. -/
theorem readsBack_of_onGrid? {tens : Int} {decimal : Scaled}
    (h : number.onGrid? tens = some decimal)
    : number.readsBack decimal := by
  rw [onGrid?] at h
  split at h
  next => cases h
  next hlower _ =>
    obtain rfl := Option.some.inj h
    exact hlower
  next _ hupper =>
    obtain rfl := Option.some.inj h
    exact hupper
  next hlower hupper =>
    split at h
    · obtain rfl := Option.some.inj h
      exact hlower
    · obtain rfl := Option.some.inj h
      exact hupper
    · obtain rfl := Option.some.inj h
      split
      · exact hlower
      · exact hupper

theorem roundsTo_shortest (hplace : number.place ≠ 0)
    : RoundsTo number.place number.shortest.value := by
  rw [shortest, Scaled.value_strip]
  cases htried
      : (List.range' 1 17).findSome?
          (fun (count : Nat) => number.onGrid? (number.magnitude - count)) with
  | none =>
      rw [Option.getD_none, value_exact]
      exact roundsTo_sizeAt hplace
  | some decimal =>
      obtain ⟨count, _, hgrid⟩ := List.exists_of_findSome?_eq_some htried
      exact (number.readsBack_iff hplace decimal).mp (number.readsBack_of_onGrid? hgrid)

/-- Numbers that are not zero are written with the same decimal only if they have the same size. -/
theorem place_eq_of_shortest {number other : Binary64} (hn : number.place ≠ 0)
    (ho : other.place ≠ 0) (h : number.shortest.value = other.shortest.value)
    : number.place = other.place := by
  have hother := other.roundsTo_shortest ho
  rw [← h] at hother
  exact (number.roundsTo_shortest hn).unique hother

/-- A number that is not zero is not written as zero. -/
theorem value_shortest_pos (hplace : number.place ≠ 0)
    : 0 < number.shortest.value := by
  have hzero : sizeAt 0 = 0 := by
    simp [sizeAt, significandAt]
  have hbelow : sizeAt 0 ≤ sizeAt (number.place - 1) :=
    sizeAt_strictMono.monotone (Nat.zero_le _)
  have hsize : sizeAt 0 < sizeAt (number.place - 1 + 1) :=
    sizeAt_strictMono (Nat.succ_pos _)
  have hmiddle : 0 < middle (number.place - 1) := by
    rw [middle]
    linarith
  rcases (number.roundsTo_shortest hplace).low with hlow | ⟨_, hlow⟩ <;> linarith

end Binary64

end SupplyGraph.Decimal
