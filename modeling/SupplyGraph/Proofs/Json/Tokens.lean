import SupplyGraph.Json.Printer
import SupplyGraph.Proofs.Json.Numerals
import SupplyGraph.Proofs.Json.Quotation
import SupplyGraph.Text.Blank

/-!
Tokens and their texts. The text of a value is taken apart into the tokens that it was put together
from; outside of string literals it has no white space.
-/

namespace SupplyGraph.Json

-----------------------------------------------------------------------------------------
-- Single tokens
-----------------------------------------------------------------------------------------

/-- Every number that the token stands for is an integer of 64 bits, and a literal stands for
something. -/
def Token.isExact : Token → Bool
  | .number (some value) => value.isExact
  | .number none => false
  | .string none => false
  | _ => true

/-- The token is a number, whose text could be longer than its digits. -/
def Token.isNumber : Token → Bool
  | .number _ => true
  | _ => false

/-- The text of an integer starts with a sign or a digit. -/
theorem renderInt_cons (value : Int)
    : ∃ first rest, renderInt value = first :: rest ∧ (first = '-' ∨ isDigit first) := by
  by_cases hneg : value < 0
  · exact ⟨'-', _, if_pos hneg, Or.inl rfl⟩
  · have hdigits : renderInt value = renderNat value.natAbs := if_neg hneg
    cases hfirst : renderNat value.natAbs with
    | nil => exact absurd hfirst Nat.toDigits_ne_nil
    | cons first rest =>
        have hm : first ∈ renderNat value.natAbs := by
          rw [hfirst]
          exact List.mem_cons_self
        exact ⟨first, rest, hdigits.trans hfirst, Or.inr (isDigit_of_mem_renderNat hm)⟩

/-- What starts with a sign or a digit is read as a number. -/
theorem Token.read_number {first : Char} (h : first = '-' ∨ isDigit first) (rest : List Char)
    : Token.read (first :: rest)
      = (NumberLiteral.read (first :: rest)).map (fun (literal, rest) =>
          (.number literal.value?, rest)) := by
  have hother : ∀ c, c ≠ '-' → isDigit c = false → first ≠ c := by
    intro c hsign hdigit heq
    rw [heq] at h
    rcases h with h | h
    · exact hsign h
    · simp [hdigit] at h
  refine Token.read.eq_11 _ ?_ ?_ ?_ ?_ ?_ ?_ ?_ ?_ ?_ ?_ <;>
    exact fun _ heq => hother _ (by decide) (by decide) (List.cons.inj heq).1

/-- A token is read from its own text. Behind a number nothing may follow that goes on with it. -/
theorem Token.read_spell {token : Token} (h : token.isExact) {rest : List Char}
    (hrest : token.isNumber → EndsNumber rest)
    : Token.read (token.spell ++ rest) = some (token, rest) := by
  cases token with
  | openArray => rfl
  | closeArray => rfl
  | openObject => rfl
  | closeObject => rfl
  | comma => rfl
  | colon => rfl
  | null => rfl
  | bool value => cases value <;> rfl
  | string value =>
      cases value with
      | none => cases h
      | some text => exact read_quote text rest
  | number value =>
      match value, h with
      | some (.integer value), h =>
          have hexact : (Number.integer value).isExact := h
          obtain ⟨literal, hread, hvalue⟩ := read_render_of_isExact hexact (hrest rfl)
          obtain ⟨first, later, htext, hfirst⟩ := renderInt_cons value
          simp only [Token.spell, Number.render, htext, List.cons_append] at hread ⊢
          simp only [Token.read_number hfirst, hread, Option.map_some, hvalue]

/-- No token starts with white space. -/
theorem Token.read_space {c : Char} (h : isSpace c) (rest : List Char)
    : Token.read (c :: rest) = none := by
  simp only [isSpace, Bool.or_eq_true, decide_eq_true_eq] at h
  rcases h with ((rfl | rfl) | rfl) | rfl <;> rfl

-----------------------------------------------------------------------------------------
-- Rows of tokens
-----------------------------------------------------------------------------------------

@[simp]
theorem Token.readAll_nil
    : Token.readAll [] = some [] := by
  rw [Token.readAll]
  rfl

theorem Token.readAll_of_read {text rest : List Char} {token : Token}
    (h : Token.read text = some (token, rest))
    : Token.readAll text = (Token.readAll rest).map (token :: ·) := by
  cases text with
  | nil => cases h
  | cons c later =>
      have hspace : isSpace c = false := by
        cases hc : isSpace c with
        | false => rfl
        | true =>
            rw [Token.read_space hc] at h
            cases h
      have hdrop : (c :: later).dropWhile isSpace = c :: later := by
        simp [hspace]
      rw [Token.readAll]
      split
      next heq => simp [hdrop] at heq
      next first tail heq =>
        rw [hdrop] at heq
        obtain ⟨rfl, rfl⟩ := List.cons.inj heq
        split
        next hnone => simp [h] at hnone
        next found after hsome =>
          rw [h] at hsome
          obtain ⟨rfl, rfl⟩ := Prod.mk.inj (Option.some.inj hsome)
          rfl

/-- The tokens are read from their text, whatever follows that does not go on with a number. -/
def ReadBack (tokens : List Token) : Prop :=
  ∀ rest,
    EndsNumber rest
    → Token.readAll (tokens.flatMap Token.spell ++ rest)
      = (Token.readAll rest).map (tokens ++ ·)

theorem readBack_nil
    : ReadBack [] := by
  intro rest _
  simp

theorem readBack_singleton {token : Token} (h : token.isExact)
    : ReadBack [token] := by
  intro rest hrest
  rw [List.flatMap_singleton, Token.readAll_of_read (Token.read_spell h (fun _ => hrest))]
  rfl

/-- Tokens in front of others read back when nothing that follows goes on with a number. -/
theorem ReadBack.append {front back : List Token} (hf : ReadBack front) (hb : ReadBack back)
    (h : ∀ rest, EndsNumber rest → EndsNumber (back.flatMap Token.spell ++ rest))
    : ReadBack (front ++ back) := by
  intro rest hrest
  rw [List.flatMap_append, List.append_assoc, hf _ (h rest hrest), hb rest hrest, Option.map_map]
  simp only [Function.comp_def, List.append_assoc]

/-- Behind a token that is no number, anything may follow. -/
theorem ReadBack.cons {token : Token} {back : List Token} (h : token.isExact)
    (hn : token.isNumber = false) (hb : ReadBack back)
    : ReadBack (token :: back) := by
  intro rest hrest
  have hread
      : Token.read (token.spell ++ (back.flatMap Token.spell ++ rest))
        = some (token, back.flatMap Token.spell ++ rest) :=
    Token.read_spell h (by simp [hn])
  rw [List.flatMap_cons, List.append_assoc, Token.readAll_of_read hread, hb rest hrest,
    Option.map_map]
  rfl

-----------------------------------------------------------------------------------------
-- Rows with commas between the parts
-----------------------------------------------------------------------------------------

/-- The tokens of parts, with commas between the parts. -/
def separated {α : Type} (row : α → List Token) : List α → List Token
  | [] => []
  | part :: rest => row part ++ rest.flatMap (fun later => .comma :: row later)

/-- The tokens of a member of an object. -/
def memberRow (member : String × Json) : List Token :=
  .string (some member.1) :: .colon :: tokens member.2

theorem separated_map {α β : Type} (row : β → List Token) (change : α → β) (parts : List α)
    : separated row (parts.map change) = separated (fun part => row (change part)) parts := by
  cases parts with
  | nil => rfl
  | cons part rest => rw [List.map_cons, separated, separated, List.flatMap_map]

theorem itemTokens_eq_separated (items : List Json)
    : itemTokens items = separated tokens items := by
  have hlater
      : ∀ items, laterItemTokens items = items.flatMap (fun later => .comma :: tokens later) := by
    intro items
    induction items with
    | nil => rfl
    | cons item rest ih => rw [laterItemTokens, ih, List.flatMap_cons]
  cases items with
  | nil => rfl
  | cons item rest => rw [itemTokens, hlater, separated]

theorem memberTokens_eq_separated (members : List (String × Json))
    : memberTokens members = separated memberRow members := by
  have hlater
      : ∀ members,
          laterMemberTokens members = members.flatMap (fun later => .comma :: memberRow later) := by
    intro members
    induction members with
    | nil => rfl
    | cons member rest ih => rw [laterMemberTokens, ih, List.flatMap_cons, memberRow]
  cases members with
  | nil => rfl
  | cons member rest => rw [memberTokens, hlater, separated, memberRow]

theorem tokens_array (items : List Json)
    : tokens (.array items) = .openArray :: separated tokens items ++ [.closeArray] := by
  rw [tokens, itemTokens_eq_separated]

theorem tokens_object (members : List (String × Json))
    : tokens (.object members) = .openObject :: separated memberRow members ++ [.closeObject] := by
  rw [tokens, memberTokens_eq_separated]

section Separated

variable {α : Type} {row : α → List Token} {parts : List α}

/-- A property of rows of tokens holds of parts with commas between them if it holds of the parts,
may be preceded by a comma, and is kept when a row goes on with nothing or with a comma. By
induction on the parts behind the first one. -/
theorem separated_induction {p : List Token → Prop} (hnil : p [])
    (hcomma : ∀ rest, p rest → p (.comma :: rest))
    (happend
      : ∀ front back,
          p front → p back → (∀ next ∈ back.head?, next = .comma) → p (front ++ back))
    (h : ∀ part ∈ parts, p (row part))
    : p (separated row parts) := by
  have hhead
      : ∀ later : List α,
          ∀ next ∈ (later.flatMap (fun part => Token.comma :: row part)).head?,
            next = .comma := by
    intro later next hm
    cases later with
    | nil => simp at hm
    | cons part later => simpa [eq_comm] using hm
  have hlater
      : ∀ later : List α,
          (∀ part ∈ later, p (row part))
          → p (later.flatMap (fun part => Token.comma :: row part)) := by
    intro later h
    induction later with
    | nil => exact hnil
    | cons part later ih =>
        obtain ⟨hpart, hrest⟩ := List.forall_mem_cons.mp h
        exact happend _ _ (hcomma _ hpart) (ih hrest) (hhead later)
  cases parts with
  | nil => exact hnil
  | cons part later =>
      obtain ⟨hpart, hrest⟩ := List.forall_mem_cons.mp h
      exact happend _ _ hpart (hlater later hrest) (hhead later)

/-- What holds of a comma and of the tokens of every part holds of all tokens. -/
theorem forall_mem_separated {p : Token → Prop} (hcomma : p .comma)
    (h : ∀ part ∈ parts, ∀ token ∈ row part, p token)
    : ∀ token ∈ separated row parts, p token :=
  separated_induction (p := fun tokens => ∀ token ∈ tokens, p token)
    (fun _ hm => absurd hm List.not_mem_nil)
    (fun _ hrest => List.forall_mem_cons.mpr ⟨hcomma, hrest⟩)
    (fun _ _ hfront hback _ => List.forall_mem_append.mpr ⟨hfront, hback⟩) h

/-- What holds of brackets, of a comma and of the tokens of every part holds of a container. -/
theorem forall_mem_container {p : Token → Prop} {opener closer : Token} (hopener : p opener)
    (hcloser : p closer) (hcomma : p .comma) (h : ∀ part ∈ parts, ∀ token ∈ row part, p token)
    : ∀ token ∈ opener :: separated row parts ++ [closer], p token := by
  rw [List.cons_append, List.forall_mem_cons, List.forall_mem_append, List.forall_mem_singleton]
  exact ⟨hopener, forall_mem_separated hcomma h, hcloser⟩

/-- Parts that read back do so in a row, as a comma goes on with no number. -/
theorem readBack_separated (h : ∀ part ∈ parts, ReadBack (row part))
    : ReadBack (separated row parts) := by
  refine separated_induction readBack_nil (fun _ => ReadBack.cons rfl rfl)
    (fun front back hfront hback hhead => hfront.append hback (fun rest hrest => ?_)) h
  cases back with
  | nil => exact hrest
  | cons next later =>
      obtain rfl : next = .comma := hhead next rfl
      simp [EndsNumber, Token.spell, isDigit]

/-- Parts that read back do so between brackets. -/
theorem readBack_container {opener closer : Token} (h : ∀ part ∈ parts, ReadBack (row part))
    (hopener : opener.isExact) (hbracket : opener.isNumber = false) (hcloser : closer.isExact)
    (hends : ∀ rest, EndsNumber (closer.spell ++ rest))
    : ReadBack (opener :: separated row parts ++ [closer]) := by
  refine (ReadBack.cons hopener hbracket (readBack_separated h)).append
    (readBack_singleton hcloser) (fun rest _ => ?_)
  rw [List.flatMap_singleton]
  exact hends rest

end Separated

-----------------------------------------------------------------------------------------
-- The tokens of values
-----------------------------------------------------------------------------------------

/-- Every number in the value is an integer of 64 bits, signed or unsigned, and every literal
stands for something. -/
inductive IsExact : Json → Prop where
  | null
    : IsExact .null
  | bool (value : Bool)
    : IsExact (.bool value)
  | integer {value : Int} (least : -2 ^ 63 ≤ value) (most : value ≤ 2 ^ 64 - 1)
    : IsExact (.number (.integer value))
  | string (value : String)
    : IsExact (.string value)
  | array {items : List Json} (exact : ∀ item ∈ items, IsExact item)
    : IsExact (.array items)
  | object {members : List (String × Json)} (exact : ∀ member ∈ members, IsExact member.2)
    : IsExact (.object members)

theorem isExact_integer {value : Int} (least : -2 ^ 63 ≤ value) (most : value ≤ 2 ^ 64 - 1)
    : Token.isExact (.number (some (.integer value))) :=
  decide_eq_true ⟨least, most⟩

/-- All tokens of an exact value are exact, by induction on the value. -/
theorem IsExact.tokens {json : Json} (h : json.IsExact)
    : ∀ token ∈ json.tokens, token.isExact := by
  induction h with
  | null => simp [Json.tokens, Token.isExact]
  | bool value => simp [Json.tokens, Token.isExact]
  | integer least most =>
      simp only [Json.tokens, List.forall_mem_singleton]
      exact isExact_integer least most
  | string value => simp [Json.tokens, Token.isExact]
  | array _ ih =>
      rw [tokens_array]
      exact forall_mem_container rfl rfl rfl ih
  | object _ ih =>
      rw [tokens_object]
      refine forall_mem_container rfl rfl rfl (fun member hm => ?_)
      rw [memberRow, List.forall_mem_cons, List.forall_mem_cons]
      exact ⟨rfl, rfl, ih member hm⟩

/-- The text of an exact value is taken apart into the tokens of the value, by induction on the
value. -/
theorem IsExact.readBack {json : Json} (h : json.IsExact)
    : ReadBack json.tokens := by
  induction h with
  | null => exact readBack_singleton rfl
  | bool value => exact readBack_singleton rfl
  | integer least most => exact readBack_singleton (isExact_integer least most)
  | string value => exact readBack_singleton rfl
  | array _ ih =>
      rw [tokens_array]
      refine readBack_container ih rfl rfl rfl (fun rest => ?_)
      simp [EndsNumber, Token.spell, isDigit]
  | object _ ih =>
      rw [tokens_object]
      refine readBack_container (fun member hm => ?_) rfl rfl rfl (fun rest => ?_)
      · exact (ReadBack.cons rfl rfl (ih member hm)).cons rfl rfl
      · simp [EndsNumber, Token.spell, isDigit]

/-- The tokens of the text of an exact value are the tokens of the value. -/
theorem IsExact.readAll_compact {json : Json} (h : json.IsExact)
    : Token.readAll json.compact = some json.tokens := by
  have hread := h.readBack [] endsNumber_nil
  simpa [compact] using hread

-----------------------------------------------------------------------------------------
-- White space
-----------------------------------------------------------------------------------------

theorem isBlank_of_isDigit {c : Char} (h : isDigit c)
    : Text.isBlank c = false ∧ c ≠ '"' := by
  simp only [isDigit, Bool.and_eq_true, decide_eq_true_eq, Char.le_def, UInt32.le_iff_toNat_le] at h
  constructor
  · have hlow : 0x30 ≤ c.toNat := h.1
    have hhigh : c.toNat ≤ 0x39 := h.2
    simp [Text.isBlank, Text.blankRanges]
    omega
  · rintro rfl
    exact absurd h.1 (by decide)

/-- The text of an integer has no white space and no quotation marks. -/
theorem isBlank_of_mem_renderInt {value : Int} {c : Char} (h : c ∈ renderInt value)
    : Text.isBlank c = false ∧ c ≠ '"' := by
  rw [renderInt] at h
  split at h
  · rcases List.mem_cons.mp h with rfl | h
    · decide
    · exact isBlank_of_isDigit (isDigit_of_mem_renderNat h)
  · exact isBlank_of_isDigit (isDigit_of_mem_renderNat h)

/-- Outside of string literals, the text of a token has no white space. -/
theorem Token.outsideStrings_spell {token : Token} (h : token.isExact)
    : ∃ outside,
        (∀ c ∈ outside, Text.isBlank c = false)
        ∧ ∀ rest, outsideStrings (token.spell ++ rest) = outside ++ outsideStrings rest := by
  -- All texts but those of strings stay whole.
  have hplain
      : (∀ c ∈ token.spell, Text.isBlank c = false ∧ c ≠ '"')
        → ∃ outside,
            (∀ c ∈ outside, Text.isBlank c = false)
            ∧ ∀ rest, outsideStrings (token.spell ++ rest) = outside ++ outsideStrings rest :=
    fun hall => ⟨token.spell, fun c hc => (hall c hc).1,
      outsideStrings_append (fun c hc => (hall c hc).2)⟩
  cases token with
  | string value =>
      cases value with
      | none => cases h
      | some text => exact ⟨[], by simp, fun rest => outsideStrings_quote text.toList rest⟩
  | number value =>
      match value, h with
      | some (.integer value), _ => exact hplain (fun c hc => isBlank_of_mem_renderInt hc)
  | bool value =>
      cases value <;> exact hplain (by simp [Token.spell, Text.isBlank, Text.blankRanges])
  | _ => exact hplain (by simp [Token.spell, Text.isBlank, Text.blankRanges])

/-- Texts of tokens have white space in string literals only, by induction on the tokens. -/
theorem isBlank_outsideStrings_flatMap_spell {tokens : List Token}
    (h : ∀ token ∈ tokens, token.isExact)
    : ∀ c ∈ outsideStrings (tokens.flatMap Token.spell), Text.isBlank c = false := by
  induction tokens with
  | nil => simp [outsideStrings]
  | cons token rest ih =>
      obtain ⟨htoken, hrest⟩ := List.forall_mem_cons.mp h
      obtain ⟨outside, hblank, hspell⟩ := token.outsideStrings_spell htoken
      rw [List.flatMap_cons, hspell]
      exact List.forall_mem_append.mpr ⟨hblank, ih hrest⟩

theorem IsExact.isBlank_outsideStrings {json : Json} (h : json.IsExact)
    : ∀ c ∈ outsideStrings json.compact, Text.isBlank c = false :=
  isBlank_outsideStrings_flatMap_spell h.tokens

end SupplyGraph.Json
