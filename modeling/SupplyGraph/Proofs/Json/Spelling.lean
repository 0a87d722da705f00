import SupplyGraph.Proofs.Json.Literals
import SupplyGraph.Proofs.Json.Reading

/-!
Texts of different values. A number is told from its text, be it an integer of any size or a
floating-point number, and the tokens of a value are told from theirs; so values have the same text
only if they are the same.
-/

namespace SupplyGraph.Json

open Decimal (Binary64)

-----------------------------------------------------------------------------------------
-- Texts of numbers
-----------------------------------------------------------------------------------------

/-- The size that a number is written with. -/
def writtenSize (number : Binary64) : ℚ :=
  if number.place = 0 then 0 else number.shortest.value

/-- The literal is the one that the number is written with, as far as it matters: an integer has
neither a fraction nor an exponent, and a floating-point number has one of them. -/
def Number.WrittenAs (literal : NumberLiteral) : Number → Prop
  | .integer value =>
      literal = ⟨decide (value < 0), (renderNat value.natAbs).map digitValue, none, none⟩
  | .real value =>
      literal.negative = value.isNegative
      ∧ (literal.fraction.isSome ∨ literal.exponent.isSome)
      ∧ literal.size = writtenSize value

theorem writtenSize_inj {number other : Binary64} (h : writtenSize number = writtenSize other)
    : number.place = other.place := by
  rw [writtenSize, writtenSize] at h
  split_ifs at h with hn ho ho
  · rw [hn, ho]
  · exact absurd h (other.value_shortest_pos ho).ne
  · exact absurd h (number.value_shortest_pos hn).ne'
  · exact Binary64.place_eq_of_shortest hn ho h

/-- A literal is written for one number only. -/
theorem Number.WrittenAs.unique {literal : NumberLiteral} {number other : Number}
    (h : number.WrittenAs literal) (h' : other.WrittenAs literal)
    : number = other := by
  cases number with
  | integer value =>
      rw [WrittenAs] at h
      cases other with
      | integer another =>
          rw [WrittenAs, h, NumberLiteral.mk.injEq, decide_eq_decide] at h'
          obtain ⟨hsign, hdigits, _⟩ := h'
          have hsize := congrArg ofDigits hdigits
          rw [ofDigits_renderNat, ofDigits_renderNat] at hsize
          congr 1
          omega
      | real another =>
          obtain ⟨_, hreal, _⟩ := h'
          simp [h] at hreal
  | real value =>
      obtain ⟨hsign, hreal, hsize⟩ := h
      cases other with
      | integer another =>
          rw [WrittenAs] at h'
          simp [h'] at hreal
      | real another =>
          obtain ⟨hsign', _, hsize'⟩ := h'
          exact congrArg Number.real (Binary64.eq_of_place_eq (hsign.symm.trans hsign')
            (writtenSize_inj (hsize.symm.trans hsize')))

/-- The digits of the size are laid out behind the sign. -/
theorem exists_laysOut (number : Binary64)
    : ∃ digits exponent text,
        renderReal number = (if number.isNegative then '-' :: text else text)
        ∧ LaysOut digits exponent text
        ∧ ofDigits (digits.map digitValue) * 10 ^ exponent = writtenSize number := by
  by_cases hzero : number.place = 0
  · refine ⟨['0'], 0, ['0', '.', '0'], ?_, ?_, ?_⟩
    · simp [renderReal, number.isZero_iff.mpr hzero]
    · refine ⟨['0'], some ['0'], none, rfl, .inl rfl, by simp [isDigit], by simp,
        fun negative => ?_⟩
      simp [NumberLiteral.size, ofDigits, digitValue]
    · simp [writtenSize, hzero, ofDigits, digitValue]
  · have hdigits : 0 < number.shortest.digits := by
      have hpos := number.value_shortest_pos hzero
      by_contra hnone
      simp [Decimal.Scaled.value, Nat.eq_zero_of_not_pos hnone] at hpos
    obtain ⟨first, later, hrender, hfirst⟩ := head?_renderNat_pos hdigits
    refine ⟨first :: later, number.shortest.exponent, _, ?_, laysOut_layOut ?_ hfirst _, ?_⟩
    · simp [renderReal, mt number.isZero_iff.mp hzero, hrender]
    · rw [← hrender]
      exact fun c => isDigit_of_mem_renderNat
    · rw [← hrender, ofDigits_renderNat, writtenSize, if_neg hzero]
      rfl

/-- A number is read from its own text as a literal that is written for it. -/
theorem Number.exists_read_render (number : Number) {rest : List Char} (h : EndsNumber rest)
    : ∃ literal,
        NumberLiteral.read (number.render ++ rest) = some (literal, rest)
        ∧ number.WrittenAs literal := by
  cases number with
  | integer value => exact ⟨_, read_renderInt value h, rfl⟩
  | real value =>
      obtain ⟨digits, exponent, text, htext, ⟨whole, fraction, mark, rfl, hw, hf, hreal, hsize⟩,
        hwritten⟩ := exists_laysOut value
      refine ⟨⟨value.isNegative, whole.map digitValue, fraction.map (·.map digitValue), mark⟩, ?_,
        rfl, by simpa using hreal, (hsize _).trans hwritten⟩
      rw [render, htext]
      cases value.isNegative with
      | true => exact readUnsigned_spelled true hw hf h
      | false =>
          have hread
              : NumberLiteral.read (spelled whole fraction mark ++ rest)
                = readUnsigned false (spelled whole fraction mark ++ rest) := by
            simp only [spelled, List.append_assoc, hw.read_append]
          exact hread.trans (readUnsigned_spelled false hw hf h)

/-- Texts that start with numbers and go on with neither of them start with the same number. -/
theorem Number.render_append_inj {number other : Number} {rest later : List Char}
    (h : EndsNumber rest) (h' : EndsNumber later)
    (htext : number.render ++ rest = other.render ++ later)
    : number = other ∧ rest = later := by
  obtain ⟨literal, hread, hwritten⟩ := number.exists_read_render h
  obtain ⟨another, hread', hwritten'⟩ := other.exists_read_render h'
  rw [htext, hread'] at hread
  obtain ⟨rfl, rfl⟩ := Prod.mk.inj (Option.some.inj hread)
  exact ⟨hwritten.unique hwritten', rfl⟩

-----------------------------------------------------------------------------------------
-- Texts of tokens
-----------------------------------------------------------------------------------------

/-- A token that is no number is read from its own text, whatever follows. -/
theorem Token.read_spell_of_not_number {token : Token} (h : token.isNumber = false)
    (rest : List Char)
    : Token.read (token.spell ++ rest) = some (token, rest) := by
  cases token with
  | number value => cases h
  | string value =>
      cases value with
      | none => rfl
      | some text => exact read_quote text rest
  | bool value => cases value <;> rfl
  | _ => rfl

/-- What is read as a number starts with a sign or a digit. -/
theorem exists_cons_of_read {text rest : List Char} {literal : NumberLiteral}
    (h : NumberLiteral.read text = some (literal, rest))
    : ∃ first later, text = first :: later ∧ (first = '-' ∨ isDigit first) := by
  unfold NumberLiteral.read at h
  split at h
  next later => exact ⟨'-', later, rfl, .inl rfl⟩
  next =>
    simp only [readUnsigned, Option.bind_eq_bind, Option.bind_eq_some_iff] at h
    obtain ⟨_, hwhole, _⟩ := h
    cases text with
    | nil => cases hwhole
    | cons first later =>
        refine ⟨first, later, rfl, .inr ?_⟩
        by_contra hdigit
        simp [readWhole, spanDigits, hdigit] at hwhole

/-- The text of a number is read as a number. -/
theorem Token.exists_read_number (number : Number) {rest : List Char} (h : EndsNumber rest)
    : ∃ value, Token.read (number.render ++ rest) = some (.number value, rest) := by
  obtain ⟨literal, hread, _⟩ := number.exists_read_render h
  obtain ⟨first, later, htext, hfirst⟩ := exists_cons_of_read hread
  refine ⟨literal.value?, ?_⟩
  rw [htext] at hread ⊢
  rw [read_number hfirst, hread]
  rfl

theorem Token.exists_number {token : Token} (hw : token ≠ .number none) (h : token.isNumber)
    : ∃ number, token = .number (some number) := by
  cases token with
  | number value =>
      cases value with
      | none => exact absurd rfl hw
      | some number => exact ⟨number, rfl⟩
  | _ => cases h

/-- A token that is no number is not read from the text of a number. -/
theorem Token.render_append_ne {number : Number} {token : Token} {rest later : List Char}
    (h : EndsNumber rest) (hn : token.isNumber = false)
    : number.render ++ rest ≠ token.spell ++ later := by
  intro htext
  obtain ⟨value, hread⟩ := exists_read_number number h
  rw [htext, read_spell_of_not_number hn] at hread
  obtain ⟨rfl, _⟩ := Prod.mk.inj (Option.some.inj hread)
  cases hn

/-- Texts that start with tokens start with the same token, if nothing behind a number goes on with
it. -/
theorem Token.spell_append_inj {token other : Token} {rest later : List Char}
    (hw : token ≠ .number none) (hw' : other ≠ .number none)
    (h : token.isNumber → EndsNumber rest) (h' : other.isNumber → EndsNumber later)
    (htext : token.spell ++ rest = other.spell ++ later)
    : token = other ∧ rest = later := by
  cases hn : token.isNumber with
  | true =>
      obtain ⟨number, rfl⟩ := exists_number hw hn
      cases hn' : other.isNumber with
      | true =>
          obtain ⟨another, rfl⟩ := exists_number hw' hn'
          obtain ⟨rfl, rfl⟩ := Number.render_append_inj (h hn) (h' hn') htext
          exact ⟨rfl, rfl⟩
      | false => exact absurd htext (render_append_ne (h hn) hn')
  | false =>
      cases hn' : other.isNumber with
      | true =>
          obtain ⟨another, rfl⟩ := exists_number hw' hn'
          exact absurd htext.symm (render_append_ne (h' hn') hn)
      | false =>
          have hread := read_spell_of_not_number hn rest
          rw [htext, read_spell_of_not_number hn'] at hread
          obtain ⟨rfl, rfl⟩ := Prod.mk.inj (Option.some.inj hread)
          exact ⟨rfl, rfl⟩

/-- The text of a token that is no number goes on with no number. -/
theorem Token.endsNumber_spell {token : Token} (h : token.isNumber = false) (rest : List Char)
    : EndsNumber (token.spell ++ rest) := by
  cases token with
  | number value => cases h
  | string value => cases value <;> simp [EndsNumber, Token.spell, quote, isDigit]
  | bool value => cases value <;> simp [EndsNumber, Token.spell, isDigit]
  | _ => simp [EndsNumber, Token.spell, isDigit]

theorem Token.spell_ne_nil {token : Token} (hw : token ≠ .number none)
    : token.spell ≠ [] := by
  intro hempty
  cases hn : token.isNumber with
  | true =>
      obtain ⟨number, rfl⟩ := exists_number hw hn
      obtain ⟨_, hread, _⟩ := number.exists_read_render endsNumber_nil
      obtain ⟨_, _, htext, _⟩ := exists_cons_of_read hread
      rw [List.append_nil] at htext
      exact List.cons_ne_nil _ _ (htext.symm.trans hempty)
  | false =>
      have hread := read_spell_of_not_number hn []
      rw [hempty] at hread
      cases hread

-----------------------------------------------------------------------------------------
-- Rows of tokens
-----------------------------------------------------------------------------------------

/-- Every number stands for something, and none stands right behind another one. -/
structure Spaced (tokens : List Token) : Prop where
  written : ∀ token ∈ tokens, token ≠ .number none
  apart : tokens.IsChain (fun token next => token.isNumber → next.isNumber = false)

theorem spaced_nil
    : Spaced [] :=
  ⟨by simp, .nil⟩

theorem spaced_singleton {token : Token} (h : token ≠ .number none)
    : Spaced [token] :=
  ⟨by simpa using h, .singleton token⟩

theorem Spaced.tail {token : Token} {rest : List Token} (h : Spaced (token :: rest))
    : Spaced rest :=
  ⟨fun later hm => h.written later (List.mem_cons_of_mem _ hm), h.apart.tail⟩

/-- A row may go on with a row that starts with no number. -/
theorem Spaced.append {front back : List Token} (hf : Spaced front) (hb : Spaced back)
    (h : ∀ next ∈ back.head?, next.isNumber = false)
    : Spaced (front ++ back) where
  written := List.forall_mem_append.mpr ⟨hf.written, hb.written⟩
  apart := List.isChain_append.mpr ⟨hf.apart, hb.apart, fun _ _ next hm _ => h next hm⟩

/-- A token that is no number may stand in front of every row. -/
theorem Spaced.cons {token : Token} {rest : List Token} (hn : token.isNumber = false)
    (h : Spaced rest)
    : Spaced (token :: rest) where
  written := List.forall_mem_cons.mpr ⟨fun hw => by simp [hw, Token.isNumber] at hn, h.written⟩
  apart := List.isChain_cons.mpr ⟨fun _ _ hnumber => by simp [hn] at hnumber, h.apart⟩

section Rows

variable {α : Type} {row : α → List Token} {parts : List α}

/-- Commas keep numbers apart. -/
theorem spaced_separated (h : ∀ part ∈ parts, Spaced (row part))
    : Spaced (separated row parts) := by
  refine separated_induction spaced_nil (fun _ => Spaced.cons rfl)
    (fun front back hfront hback hhead => hfront.append hback (fun next hm => ?_)) h
  rw [hhead next hm]
  rfl

theorem spaced_container {opener closer : Token} (hopener : opener.isNumber = false)
    (hcloser : closer.isNumber = false) (h : ∀ part ∈ parts, Spaced (row part))
    : Spaced (opener :: separated row parts ++ [closer]) :=
  (Spaced.cons hopener (spaced_separated h)).append (Spaced.cons hcloser spaced_nil)
    (by simpa using hcloser)

end Rows

/-- Behind a number stands a comma, a bracket or nothing, by induction on the value. -/
theorem spaced_tokens (json : Json)
    : Spaced json.tokens := by
  induction json using Json.induction with
  | null => exact spaced_singleton (by simp)
  | bool value => exact spaced_singleton (by simp)
  | number value => exact spaced_singleton (by simp)
  | string value => exact spaced_singleton (by simp)
  | unreadable => exact spaced_singleton (by simp)
  | array items ih =>
      rw [tokens_array]
      exact spaced_container rfl rfl ih
  | object members ih =>
      rw [tokens_object]
      exact spaced_container rfl rfl (fun member hm => .cons rfl (.cons rfl (ih member hm)))

-----------------------------------------------------------------------------------------
-- Texts of values
-----------------------------------------------------------------------------------------

/-- What follows a number in a row does not go on with it. -/
theorem Spaced.endsNumber {token : Token} {rest : List Token} (h : Spaced (token :: rest))
    (hn : token.isNumber)
    : EndsNumber (rest.flatMap Token.spell) := by
  cases rest with
  | nil => exact endsNumber_nil
  | cons next later =>
      rw [List.flatMap_cons]
      exact Token.endsNumber_spell ((List.isChain_cons_cons.mp h.apart).1 hn) _

/-- Rows of tokens are told apart by their texts, by induction on one of the rows. -/
theorem Spaced.flatMap_spell_inj {tokens others : List Token} (h : Spaced tokens)
    (h' : Spaced others) (htext : tokens.flatMap Token.spell = others.flatMap Token.spell)
    : tokens = others := by
  have hempty {token : Token} {rest : List Token} (hw : token ≠ .number none)
      : (token :: rest).flatMap Token.spell ≠ [] := by
    rw [List.flatMap_cons]
    exact List.append_ne_nil_of_left_ne_nil (Token.spell_ne_nil hw) _
  induction tokens generalizing others with
  | nil =>
      cases others with
      | nil => rfl
      | cons other later => exact absurd htext.symm (hempty (h'.written _ List.mem_cons_self))
  | cons token rest ih =>
      cases others with
      | nil => exact absurd htext (hempty (h.written _ List.mem_cons_self))
      | cons other later =>
          rw [List.flatMap_cons, List.flatMap_cons] at htext
          obtain ⟨rfl, hrest⟩ :=
            Token.spell_append_inj (h.written _ List.mem_cons_self)
              (h'.written _ List.mem_cons_self) h.endsNumber h'.endsNumber htext
          rw [ih h.tail h'.tail hrest]

/-- Values are told apart by their texts. -/
theorem compact_inj {json other : Json}
    : json.compact = other.compact ↔ json = other := by
  constructor
  · intro h
    have htokens : json.tokens = other.tokens :=
      json.spaced_tokens.flatMap_spell_inj other.spaced_tokens h
    have hread := json.ofTokens?_tokens
    rw [htokens, other.ofTokens?_tokens] at hread
    exact (Option.some.inj hread).symm
  · exact congrArg compact

/-- Values have the same canonical text only if they have the same canonical form. -/
theorem renderCanonical_eq_iff {json other : Json}
    : json.renderCanonical = other.renderCanonical ↔ json.canonical = other.canonical := by
  rw [renderCanonical, renderCanonical, render, render, String.ofList_inj, compact_inj]

end SupplyGraph.Json
