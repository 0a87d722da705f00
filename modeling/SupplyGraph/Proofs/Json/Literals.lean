import SupplyGraph.Proofs.Decimal.ReadingBack
import SupplyGraph.Proofs.Json.Numerals

/-!
Literals of floating-point numbers. However the digits of a number are laid out, the literal is read
as one with a fraction or an exponent, and it stands for the decimal of the number.
-/

namespace SupplyGraph.Json

open Decimal (Binary64)

-----------------------------------------------------------------------------------------
-- Literals in writing
-----------------------------------------------------------------------------------------

/-- The characters of a literal without its sign. -/
def spelled (whole : List Char) (fraction : Option (List Char)) (exponent : Option Int)
    : List Char :=
  whole ++ fraction.elim [] (fun digits => '.' :: digits) ++ exponent.elim [] renderExponent

/-- The size of the number that a literal writes down. -/
def NumberLiteral.size (literal : NumberLiteral) : ℚ :=
  let fraction := literal.fraction.getD []
  ofDigits (literal.whole ++ fraction)
    * 10 ^ ((literal.exponent.getD 0 : Int) - fraction.length)

theorem spanDigits1_append {digits rest : List Char} (hne : digits ≠ [])
    (hd : ∀ c ∈ digits, isDigit c = true) (h : ∀ c ∈ rest.head?, isDigit c = false)
    : spanDigits1 (digits ++ rest) = some (digits.map digitValue, rest) := by
  rw [spanDigits1, spanDigits_append hd h]
  split
  next heq => exact absurd (List.map_eq_nil_iff.mp (Prod.mk.inj heq).1) hne
  next => rfl

theorem readExponent_renderExponent (exponent : Int) {rest : List Char} (h : EndsNumber rest)
    : readExponent (renderExponent exponent ++ rest) = some (some exponent, rest) := by
  have hdigits
      : spanDigits1 (renderNat exponent.natAbs ++ rest)
        = some ((renderNat exponent.natAbs).map digitValue, rest) :=
    spanDigits1_append Nat.toDigits_ne_nil (fun c => isDigit_of_mem_renderNat)
      (fun c hc => (h c hc).1)
  by_cases hneg : exponent < 0
  · have htext
        : renderExponent exponent ++ rest = 'e' :: '-' :: (renderNat exponent.natAbs ++ rest) := by
      simp [renderExponent, renderInt, hneg]
    rw [htext, readExponent, if_pos (.inl rfl)]
    simp only [readSign, hdigits, ofDigits_renderNat, Option.bind_eq_bind, Option.bind_some,
      if_true, Option.pure_def]
    congr 3
    omega
  · have htext
        : renderExponent exponent ++ rest = 'e' :: '+' :: (renderNat exponent.natAbs ++ rest) := by
      simp [renderExponent, renderInt, hneg]
    rw [htext, readExponent, if_pos (.inl rfl)]
    simp only [readSign, hdigits, ofDigits_renderNat, Option.bind_eq_bind, Option.bind_some,
      Option.pure_def]
    congr 3
    simp
    omega

/-- What is behind the digits of a literal does not go on with them. -/
theorem forall_head?_exponent {exponent : Option Int} {rest : List Char} (h : EndsNumber rest)
    : ∀ c ∈ (exponent.elim [] renderExponent ++ rest).head?, isDigit c = false ∧ c ≠ '.' := by
  cases exponent with
  | none => exact fun c hc => ⟨(h c hc).1, (h c hc).2.1⟩
  | some exponent =>
      have hmark : ∀ c ∈ (renderExponent exponent ++ rest).head?, c = 'e' := by
        intro c hc
        rw [renderExponent] at hc
        split at hc <;> simpa [eq_comm] using hc
      intro c hc
      rw [hmark c hc]
      decide

theorem readFraction_elim {fraction : Option (List Char)}
    (hf : ∀ digits ∈ fraction, digits ≠ [] ∧ ∀ c ∈ digits, isDigit c = true) {rest : List Char}
    (h : ∀ c ∈ rest.head?, isDigit c = false ∧ c ≠ '.')
    : readFraction (fraction.elim [] (fun digits => '.' :: digits) ++ rest)
      = some (fraction.map (·.map digitValue), rest) := by
  cases fraction with
  | none =>
      change readFraction rest = _
      unfold readFraction
      split
      · exact absurd rfl (h '.' (by simp)).2
      · rfl
  | some digits =>
      obtain ⟨hne, hd⟩ := hf digits rfl
      have hdigits := spanDigits1_append hne hd (fun c hc => (h c hc).1)
      change readFraction ('.' :: (digits ++ rest)) = _
      simp only [readFraction, hdigits, Option.bind_eq_bind, Option.bind_some, Option.pure_def]
      rfl

/-- A literal is taken apart into the parts that it is put together from. -/
theorem readUnsigned_spelled (negative : Bool) {whole : List Char} {fraction : Option (List Char)}
    {exponent : Option Int} (hw : IsWhole whole)
    (hf : ∀ digits ∈ fraction, digits ≠ [] ∧ ∀ c ∈ digits, isDigit c = true) {rest : List Char}
    (h : EndsNumber rest)
    : readUnsigned negative (spelled whole fraction exponent ++ rest)
      = some (⟨negative, whole.map digitValue, fraction.map (·.map digitValue), exponent⟩,
          rest) := by
  have hexponent
      : readExponent (exponent.elim [] renderExponent ++ rest) = some (exponent, rest) := by
    cases exponent with
    | none => exact readExponent_of_endsNumber h
    | some exponent => exact readExponent_renderExponent exponent h
  have hbehind
      : ∀ c ∈ (exponent.elim [] renderExponent ++ rest).head?, isDigit c = false ∧ c ≠ '.' :=
    forall_head?_exponent h
  have hfraction := readFraction_elim hf hbehind
  have hwhole
      : readWhole (spelled whole fraction exponent ++ rest)
        = some (whole.map digitValue,
            fraction.elim [] (fun digits => '.' :: digits)
              ++ (exponent.elim [] renderExponent ++ rest)) := by
    rw [spelled, List.append_assoc, List.append_assoc]
    refine hw.readWhole_append ?_
    cases fraction with
    | none => exact fun c hc => (hbehind c hc).1
    | some digits =>
        rintro c ⟨⟩
        rfl
  simp only [readUnsigned, hwhole, hfraction, hexponent, Option.bind_eq_bind, Option.bind_some,
    Option.pure_def]

-----------------------------------------------------------------------------------------
-- Digits laid out
-----------------------------------------------------------------------------------------

theorem ofDigits_append (front back : List Nat)
    : ofDigits (front ++ back) = ofDigits front * 10 ^ back.length + ofDigits back := by
  have hstart
      : ∀ (digits : List Nat) (start : Nat),
          digits.foldl (fun value digit => value * 10 + digit) start
          = start * 10 ^ digits.length + ofDigits digits := by
    intro digits
    induction digits with
    | nil => simp [ofDigits]
    | cons digit rest ih =>
        intro start
        have hdigits : ofDigits (digit :: rest) = digit * 10 ^ rest.length + ofDigits rest := by
          rw [← ih digit, ofDigits, List.foldl_cons, Nat.zero_mul, Nat.zero_add]
        rw [List.foldl_cons, ih, hdigits, List.length_cons, Nat.pow_succ]
        ring
  rw [ofDigits, List.foldl_append, hstart]
  rfl

theorem ofDigits_zeros (count : Nat)
    : ofDigits (List.replicate count 0) = 0 := by
  induction count with
  | zero => rfl
  | succ count ih =>
      rw [List.replicate_succ', ofDigits_append, ih]
      rfl

/-- The text is a literal with a fraction or an exponent that writes down the digits, the last one
at the given power of ten. -/
def LaysOut (digits : List Char) (exponent : Int) (text : List Char) : Prop :=
  ∃ whole fraction mark,
    text = spelled whole fraction mark
    ∧ IsWhole whole
    ∧ (∀ digits ∈ fraction, digits ≠ [] ∧ ∀ c ∈ digits, isDigit c = true)
    ∧ (fraction.isSome ∨ mark.isSome)
    ∧ ∀ negative,
        NumberLiteral.size
          ⟨negative, whole.map digitValue, fraction.map (·.map digitValue), mark⟩
        = ofDigits (digits.map digitValue) * 10 ^ exponent

section Layout

variable {first : Char} {later : List Char} {exponent : Int}

theorem isWhole_cons (hd : ∀ c ∈ first :: later, isDigit c = true) (hfirst : digitValue first ≠ 0)
    : IsWhole (first :: later) :=
  .inr ⟨hd, first, later, rfl, hfirst⟩

theorem forall_zeros_isDigit (count : Nat)
    : ∀ c ∈ List.replicate count '0', isDigit c = true := by
  intro c hm
  rw [List.eq_of_mem_replicate hm]
  rfl

theorem NumberLiteral.size_eq {literal : NumberLiteral} {digits : Nat} {exponent : Int}
    (hdigits : ofDigits (literal.whole ++ literal.fraction.getD []) = digits)
    (hexponent : literal.exponent.getD 0 - (literal.fraction.getD []).length = exponent)
    : literal.size = digits * 10 ^ exponent := by
  rw [size, hdigits, hexponent]

/-- Zeros are appended up to the point, and one behind it. -/
theorem laysOut_integral (hd : ∀ c ∈ first :: later, isDigit c = true)
    (hfirst : digitValue first ≠ 0) (hexponent : 0 ≤ exponent)
    : LaysOut (first :: later) exponent
        (first :: later ++ List.replicate exponent.toNat '0' ++ ['.', '0']) := by
  obtain ⟨zeros, rfl⟩ := Int.eq_ofNat_of_zero_le hexponent
  refine ⟨first :: (later ++ List.replicate zeros '0'), some ['0'], none, by simp [spelled],
    isWhole_cons ?_ hfirst, by simp [isDigit], by simp, fun negative => ?_⟩
  · rw [← List.cons_append]
    exact List.forall_mem_append.mpr ⟨hd, forall_zeros_isDigit zeros⟩
  · have hzero : digitValue '0' = 0 := rfl
    have hdigits
        : ofDigits ((first :: (later ++ List.replicate zeros '0')).map digitValue ++ [0])
          = ofDigits ((first :: later).map digitValue) * 10 ^ zeros * 10 := by
      rw [ofDigits_append, ← List.cons_append, List.map_append, ofDigits_append, List.map_replicate,
        hzero, ofDigits_zeros]
      simp [ofDigits]
    rw [NumberLiteral.size_eq hdigits rfl]
    simp

/-- The point stands among the digits. -/
theorem laysOut_mixed (hd : ∀ c ∈ first :: later, isDigit c = true)
    (hfirst : digitValue first ≠ 0) {point : Int}
    (hpoint : point = (first :: later).length + exponent) (hpos : 0 < point)
    (hexponent : exponent < 0)
    : LaysOut (first :: later) exponent
        ((first :: later).take point.toNat ++ '.' :: (first :: later).drop point.toNat) := by
  obtain ⟨fewer, hfewer⟩ := Nat.exists_eq_add_one_of_ne_zero (show point.toNat ≠ 0 by omega)
  rw [List.length_cons] at hpoint
  rw [hfewer, List.take_succ_cons, List.drop_succ_cons]
  obtain ⟨hone, hmore⟩ := List.forall_mem_cons.mp hd
  refine ⟨first :: later.take fewer, some (later.drop fewer), none, by simp [spelled],
    isWhole_cons ?_ hfirst, ?_, by simp, fun negative => ?_⟩
  · exact List.forall_mem_cons.mpr ⟨hone, fun c hc => hmore c (List.mem_of_mem_take hc)⟩
  · rintro digits ⟨⟩
    refine ⟨?_, fun c hc => hmore c (List.mem_of_mem_drop hc)⟩
    rw [ne_eq, List.drop_eq_nil_iff]
    omega
  · refine NumberLiteral.size_eq ?_ ?_
    · simp only [Option.map_some, Option.getD_some]
      rw [← List.map_append, List.cons_append, List.take_append_drop]
    · simp only [Option.map_some, Option.getD_some, Option.getD_none, List.length_map,
        List.length_drop]
      omega

/-- Zeros stand between the point and the digits. -/
theorem laysOut_fractional (hd : ∀ c ∈ first :: later, isDigit c = true) {point : Int}
    (hpoint : point = (first :: later).length + exponent) (hnonpos : point ≤ 0)
    : LaysOut (first :: later) exponent
        ('0' :: '.' :: List.replicate (-point).toNat '0' ++ (first :: later)) := by
  refine ⟨['0'], some (List.replicate (-point).toNat '0' ++ (first :: later)), none,
    by simp [spelled], .inl rfl, ?_, by simp, fun negative => NumberLiteral.size_eq ?_ ?_⟩
  · rintro digits ⟨⟩
    exact ⟨by simp, List.forall_mem_append.mpr ⟨forall_zeros_isDigit _, hd⟩⟩
  · have hzero : digitValue '0' = 0 := rfl
    simp only [Option.map_some, Option.getD_some, List.map_append, List.map_replicate,
      List.map_singleton, hzero, ofDigits_append, ofDigits_zeros]
    simp [ofDigits]
  · simp only [Option.map_some, Option.getD_some, Option.getD_none, List.length_map,
      List.length_append, List.length_replicate]
    omega

/-- One digit stands before the point, which is left out if there is no other, and the exponent
says where it belongs. -/
theorem laysOut_scientific (hd : ∀ c ∈ first :: later, isDigit c = true)
    (hfirst : digitValue first ≠ 0) {point : Int}
    (hpoint : point = (first :: later).length + exponent)
    : LaysOut (first :: later) exponent
        (match first :: later with
          | [digit] => digit :: renderExponent (point - 1)
          | _ =>
              (first :: later).take 1 ++ '.' :: (first :: later).drop 1
                ++ renderExponent (point - 1)) := by
  obtain ⟨hone, hmore⟩ := List.forall_mem_cons.mp hd
  have hwhole : IsWhole [first] := isWhole_cons (List.forall_mem_singleton.mpr hone) hfirst
  rw [List.length_cons] at hpoint
  cases later with
  | nil =>
      refine ⟨[first], none, some (point - 1), by simp [spelled], hwhole, by simp, by simp,
        fun negative => NumberLiteral.size_eq rfl ?_⟩
      simp only [Option.map_none, Option.getD_none, Option.getD_some, List.length_nil] at hpoint ⊢
      omega
  | cons second rest =>
      refine ⟨[first], some (second :: rest), some (point - 1), by simp [spelled], hwhole, ?_,
        by simp, fun negative => NumberLiteral.size_eq rfl ?_⟩
      · rintro digits ⟨⟩
        exact ⟨by simp, hmore⟩
      · simp only [Option.map_some, Option.getD_some, List.length_map, List.length_cons]
          at hpoint ⊢
        omega

/-- Whichever way digits are laid out, they are written down where they stand. -/
theorem laysOut_layOut (hd : ∀ c ∈ first :: later, isDigit c = true)
    (hfirst : digitValue first ≠ 0) (exponent : Int)
    : LaysOut (first :: later) exponent (layOut (first :: later) exponent) := by
  rw [layOut.eq_def]
  dsimp only
  split_ifs with hintegral hmixed hfractional
  · exact laysOut_integral hd hfirst hintegral.1
  · exact laysOut_mixed hd hfirst rfl hmixed.1 (by omega)
  · exact laysOut_fractional hd rfl hfractional.2
  · exact laysOut_scientific hd hfirst rfl

end Layout

end SupplyGraph.Json
