import Mathlib.Algebra.Group.Int.Defs
import SupplyGraph.Json.Token

/-!
Numerals of integers. The digits of an integer of 64 bits read back as the integer, whatever follows
them that does not go on with the number.
-/

namespace SupplyGraph.Json

-----------------------------------------------------------------------------------------
-- Digits
-----------------------------------------------------------------------------------------

theorem isDigit_of_mem_renderNat {value : Nat} {c : Char} (h : c ∈ renderNat value)
    : isDigit c = true :=
  Nat.isDigit_of_mem_toDigits (by decide) (by decide) h

/-- The digits of a number stand for the number. -/
theorem ofDigits_renderNat (value : Nat)
    : ofDigits ((renderNat value).map digitValue) = value := by
  have h : Nat.ofDigitChars 10 (renderNat value) 0 = value := Nat.ofDigitChars_ten_toDigits
  rw [Nat.ofDigitChars] at h
  rw [ofDigits, List.foldl_map]
  simpa only [digitValue, Nat.mul_comm] using h

/-- Only zero starts with the digit zero, by induction on the number of digits. -/
theorem head?_renderNat_pos {value : Nat} (h : 0 < value)
    : ∃ first rest, renderNat value = first :: rest ∧ digitValue first ≠ 0 := by
  induction value using Nat.strongRecOn with
  | ind value ih =>
      rw [renderNat, Nat.toDigits_eq_if (by decide)]
      split
      next hlt =>
        have hdigit : ∀ digit : Fin 10, digitValue digit.val.digitChar = digit.val := by decide
        refine ⟨value.digitChar, [], rfl, ?_⟩
        rw [hdigit ⟨value, hlt⟩]
        exact Nat.ne_of_gt h
      next hge =>
        obtain ⟨first, rest, hdigits, hfirst⟩ := ih (value / 10) (by omega) (by omega)
        rw [renderNat] at hdigits
        exact ⟨first, rest ++ [(value % 10).digitChar], by rw [hdigits, List.cons_append], hfirst⟩

/-- Characters that a row of others goes on with, up to the first that does not, are told apart from
what is behind them. -/
theorem span_append {p : Char → Bool} {front back : List Char} (hf : ∀ c ∈ front, p c = true)
    (hb : ∀ c ∈ back.head?, p c = false)
    : (front ++ back).takeWhile p = front ∧ (front ++ back).dropWhile p = back := by
  rw [List.takeWhile_append_of_pos hf, List.dropWhile_append_of_pos hf]
  cases back with
  | nil => simp
  | cons c rest => simp [hb c (by simp)]

theorem spanDigits_append {digits rest : List Char} (hd : ∀ c ∈ digits, isDigit c = true)
    (h : ∀ c ∈ rest.head?, isDigit c = false)
    : spanDigits (digits ++ rest) = (digits.map digitValue, rest) := by
  obtain ⟨htake, hdrop⟩ := span_append hd h
  rw [spanDigits, htake, hdrop]

/-- The digits of a whole part: zero alone, or a row of digits that does not start with zero. -/
def IsWhole (digits : List Char) : Prop :=
  digits = ['0']
  ∨ (∀ c ∈ digits, isDigit c = true)
    ∧ ∃ first rest, digits = first :: rest ∧ digitValue first ≠ 0

theorem isWhole_renderNat (value : Nat)
    : IsWhole (renderNat value) := by
  rcases Nat.eq_zero_or_pos value with rfl | hpos
  · exact .inl rfl
  · exact .inr ⟨fun c => isDigit_of_mem_renderNat, head?_renderNat_pos hpos⟩

/-- The whole part of a literal is not ended before its last digit, nor refused for its first. -/
theorem IsWhole.readWhole_append {digits rest : List Char} (hw : IsWhole digits)
    (h : ∀ c ∈ rest.head?, isDigit c = false)
    : readWhole (digits ++ rest) = some (digits.map digitValue, rest) := by
  rcases hw with rfl | ⟨hd, first, later, rfl, hfirst⟩
  · have hzero : ∀ c ∈ ['0'], isDigit c = true := by simp [isDigit]
    rw [readWhole, spanDigits_append hzero h]
    rfl
  · rw [readWhole, spanDigits_append hd h, List.map_cons]
    split
    next heq => simp at heq
    next heq => exact absurd (List.cons.inj (Prod.mk.inj heq).1).1 hfirst
    next => rfl

-----------------------------------------------------------------------------------------
-- Literals
-----------------------------------------------------------------------------------------

/-- Nothing at the front of a text goes on with a number that ends before it. -/
def EndsNumber (rest : List Char) : Prop :=
  ∀ c ∈ rest.head?, isDigit c = false ∧ c ≠ '.' ∧ c ≠ 'e' ∧ c ≠ 'E'

@[simp]
theorem endsNumber_nil
    : EndsNumber [] := by
  simp [EndsNumber]

theorem readFraction_of_endsNumber {rest : List Char} (h : EndsNumber rest)
    : readFraction rest = some (none, rest) := by
  unfold readFraction
  split
  · exact absurd rfl (h '.' (by simp)).2.1
  · rfl

theorem readExponent_of_endsNumber {rest : List Char} (h : EndsNumber rest)
    : readExponent rest = some (none, rest) := by
  cases rest with
  | nil => rfl
  | cons c rest =>
      obtain ⟨_, _, hlower, hupper⟩ := h c (by simp)
      rw [readExponent, if_neg (not_or.mpr ⟨hlower, hupper⟩)]

theorem readUnsigned_renderNat (negative : Bool) (value : Nat) {rest : List Char}
    (h : EndsNumber rest)
    : readUnsigned negative (renderNat value ++ rest)
      = some (⟨negative, (renderNat value).map digitValue, none, none⟩, rest) := by
  have hwhole := (isWhole_renderNat value).readWhole_append (fun c hc => (h c hc).1)
  simp only [readUnsigned, hwhole, readFraction_of_endsNumber h, readExponent_of_endsNumber h,
    Option.bind_eq_bind, Option.bind_some, Option.pure_def]

/-- A digit is no sign. -/
theorem IsWhole.read_append {digits : List Char} (hw : IsWhole digits) (rest : List Char)
    : NumberLiteral.read (digits ++ rest) = readUnsigned false (digits ++ rest) := by
  have hdigit : ∀ c ∈ (digits ++ rest).head?, isDigit c = true := by
    rcases hw with rfl | ⟨hd, first, later, rfl, _⟩
    · simp [isDigit]
    · rintro c ⟨⟩
      exact hd first List.mem_cons_self
  unfold NumberLiteral.read
  split
  next htext =>
    rw [htext] at hdigit
    exact absurd (hdigit '-' rfl) (by decide)
  next => rfl

/-- The numeral of an integer is read as its sign and its digits. -/
theorem read_renderInt (value : Int) {rest : List Char} (h : EndsNumber rest)
    : NumberLiteral.read (renderInt value ++ rest)
      = some (⟨decide (value < 0), (renderNat value.natAbs).map digitValue, none, none⟩, rest) := by
  by_cases hneg : value < 0
  · rw [renderInt, if_pos hneg, List.cons_append, NumberLiteral.read,
      readUnsigned_renderNat true _ h, decide_eq_true hneg]
  · rw [renderInt, if_neg hneg, decide_eq_false hneg, (isWhole_renderNat _).read_append,
      readUnsigned_renderNat false _ h]

/-- As long as the value of all digits is within the limit, no digit is left out. -/
theorem takeDigits_eq (significand : Nat) (digits : List Nat)
    (h
      : digits.foldl (fun value digit => value * 10 + digit) significand ≤ significandLimit)
    : takeDigits significand digits
      = (digits.foldl (fun value digit => value * 10 + digit) significand, []) := by
  induction digits generalizing significand with
  | nil => rfl
  | cons digit rest ih =>
      have hgrows
          : ∀ (digits : List Nat) (start : Nat),
              start ≤ digits.foldl (fun value digit => value * 10 + digit) start := by
        intro digits
        induction digits with
        | nil => exact fun start => Nat.le_refl start
        | cons digit rest ih =>
            intro start
            have hrest := ih (start * 10 + digit)
            rw [List.foldl_cons]
            omega
      rw [List.foldl_cons] at h ⊢
      rw [takeDigits, if_pos (Nat.le_trans (hgrows rest _) h), ih _ h]

-----------------------------------------------------------------------------------------
-- Values
-----------------------------------------------------------------------------------------

/-- An integer of 64 bits, signed or unsigned. -/
def Number.isExact : Number → Bool
  | .integer value => decide (-2 ^ 63 ≤ value ∧ value ≤ 2 ^ 64 - 1)
  | .real _ => false

/-- The sign and the digits of an exact integer stand for the integer. -/
theorem value?_of_isExact {value : Int} (h : (Number.integer value).isExact)
    : NumberLiteral.value? ⟨decide (value < 0), (renderNat value.natAbs).map digitValue, none, none⟩
      = some (.integer value) := by
  obtain ⟨hleast, hmost⟩ := of_decide_eq_true h
  have hlimit : value.natAbs ≤ significandLimit := by
    simp only [significandLimit, UInt64.size]
    omega
  have hdigits
      : takeDigits 0 ((renderNat value.natAbs).map digitValue) = (value.natAbs, []) := by
    have htotal := ofDigits_renderNat value.natAbs
    rw [ofDigits] at htotal
    rw [takeDigits_eq, htotal]
    rwa [htotal]
  simp only [NumberLiteral.value?, hdigits, List.isEmpty_nil, Bool.not_true, Bool.false_eq_true,
    if_false]
  by_cases hneg : value < 0
  · have hbound : Int64.minValue.toInt ≤ -(value.natAbs : Int) := by
      rw [Int64.toInt_minValue]
      omega
    rw [decide_eq_true hneg, if_neg (by simp), if_pos ⟨by omega, hbound⟩]
    congr 2
    omega
  · rw [decide_eq_false hneg, if_pos (by simp)]
    congr 2
    omega

/-- An exact number is read from its own text, whatever follows that does not go on with it. -/
theorem read_render_of_isExact {number : Number} (h : number.isExact) {rest : List Char}
    (hrest : EndsNumber rest)
    : ∃ literal,
        NumberLiteral.read (number.render ++ rest) = some (literal, rest)
        ∧ literal.value? = some number := by
  cases number with
  | integer value => exact ⟨_, read_renderInt value hrest, value?_of_isExact h⟩
  | real value => cases h

end SupplyGraph.Json
