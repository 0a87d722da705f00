import Mathlib.Tactic.SplitIfs
import SupplyGraph.Json.Token

/-!
String literals. A quoted text reads back as the text, and nothing of it is found when string
literals are left out.
-/

namespace SupplyGraph.Json

-----------------------------------------------------------------------------------------
-- Escapes
-----------------------------------------------------------------------------------------

/-- How a character stands inside a string literal: behind a backslash as a letter that means it,
as a 16-bit unit, or as itself. -/
inductive Escaped (c : Char) : List Char → Prop where
  | letter {letter : Char} (other : letter ≠ 'u') (means : unescape? letter = some c)
    : Escaped c ['\\', letter]
  | unit (control : c.toNat < 0x20)
    : Escaped c ['\\', 'u', '0', '0', hexDigit (c.toNat / 16), hexDigit (c.toNat % 16)]
  | plain (visible : ¬ c.toNat < 0x20) (noQuote : c ≠ '"') (noBackslash : c ≠ '\\')
    : Escaped c [c]

theorem escaped_escape (c : Char)
    : Escaped c (escape c) := by
  rw [escape]
  split_ifs with hquote hbackslash hbackspace hfeed hline hreturn htab hcontrol
  · exact .letter (by decide) (by rw [hquote]; rfl)
  · exact .letter (by decide) (by rw [hbackslash]; rfl)
  · exact .letter (by decide) (by rw [hbackspace]; rfl)
  · exact .letter (by decide) (by rw [hfeed]; rfl)
  · exact .letter (by decide) (by rw [hline]; rfl)
  · exact .letter (by decide) (by rw [hreturn]; rfl)
  · exact .letter (by decide) (by rw [htab]; rfl)
  · exact .unit hcontrol
  · exact .plain hcontrol hquote hbackslash

/-- The digits of a unit below U+0020 stand for the unit. -/
theorem hexUnit?_hexDigit {value : Nat} (h : value < 0x20)
    : hexUnit? '0' '0' (hexDigit (value / 16)) (hexDigit (value % 16)) = some value := by
  have hall
      : ∀ value : Fin 0x20,
          hexUnit? '0' '0' (hexDigit (value.val / 16)) (hexDigit (value.val % 16))
          = some value.val := by
    decide
  exact hall ⟨value, h⟩

/-- No digit is a quotation mark or a backslash. -/
theorem hexDigit_ne {value : Nat} (h : value < 16)
    : hexDigit value ≠ '"' ∧ hexDigit value ≠ '\\' := by
  have hall : ∀ value : Fin 16, hexDigit value.val ≠ '"' ∧ hexDigit value.val ≠ '\\' := by
    decide
  exact hall ⟨value, h⟩

-----------------------------------------------------------------------------------------
-- Reading string literals
-----------------------------------------------------------------------------------------

/-- A unit that is no surrogate stands for one character, whatever pieces follow. -/
theorem joinPieces_unit {unit : Nat} (h : unit < 0xD800) (pieces : List Piece)
    : joinPieces (.unit unit :: pieces)
      = (joinPieces pieces).map (Char.ofNat unit :: ·) := by
  have hhigh : isHighSurrogate unit = false := by
    simp only [isHighSurrogate, Bool.and_eq_false_iff, decide_eq_false_iff_not]
    omega
  have hlow : isLowSurrogate unit = false := by
    simp only [isLowSurrogate, Bool.and_eq_false_iff, decide_eq_false_iff_not]
    omega
  rcases pieces with _ | ⟨_ | low, rest⟩ <;> simp [joinPieces, hhigh, hlow]

/-- An escaped character is read as one piece, which stands for the character. -/
theorem Escaped.readPieces {c : Char} {written : List Char} (h : Escaped c written)
    : ∃ piece,
        (∀ text,
          Json.readPieces (written ++ text)
          = (Json.readPieces text).map (fun read => (piece :: read.1, read.2)))
        ∧ ∀ pieces, joinPieces (piece :: pieces) = (joinPieces pieces).map (c :: ·) := by
  cases h with
  | @letter letter other means =>
      refine ⟨.char c, fun text => ?_, fun pieces => rfl⟩
      rw [List.cons_append, List.cons_append, List.nil_append, Json.readPieces.eq_4 _ _
        (fun _ _ _ _ _ hletter _ => other hletter), means]
      cases Json.readPieces text <;> rfl
  | unit control =>
      refine ⟨.unit c.toNat, fun text => ?_, fun pieces => ?_⟩
      · simp only [List.cons_append, List.nil_append, Json.readPieces, hexUnit?_hexDigit control]
        cases Json.readPieces text <;> rfl
      · rw [joinPieces_unit (by omega), Char.ofNat_toNat]
  | plain visible noQuote noBackslash =>
      refine ⟨.char c, fun text => ?_, fun pieces => rfl⟩
      rw [List.singleton_append, Json.readPieces.eq_5 c text noQuote
        (fun _ _ _ _ _ hc _ => noBackslash hc) (fun _ _ hc _ => noBackslash hc),
        if_neg (not_or.mpr ⟨visible, noBackslash⟩)]
      cases Json.readPieces text <;> rfl

/-- What is quoted is read up to the closing quotation mark, by induction on the text. -/
theorem readPieces_escape (text rest : List Char)
    : ∃ pieces,
        readPieces (text.flatMap escape ++ '"' :: rest) = some (pieces, rest)
        ∧ joinPieces pieces = some text := by
  induction text with
  | nil => exact ⟨[], rfl, rfl⟩
  | cons c text ih =>
      obtain ⟨pieces, hread, hjoin⟩ := ih
      obtain ⟨piece, hpiece, hmeans⟩ := (escaped_escape c).readPieces
      refine ⟨piece :: pieces, ?_, ?_⟩
      · rw [List.flatMap_cons, List.append_assoc, hpiece, hread]
        rfl
      · rw [hmeans, hjoin]
        rfl

/-- A quoted text is read as the token of this text. -/
theorem read_quote (text : String) (rest : List Char)
    : Token.read (quote text.toList ++ rest) = some (.string (some text), rest) := by
  obtain ⟨pieces, hread, hjoin⟩ := readPieces_escape text.toList rest
  simp only [quote, List.cons_append, List.append_assoc, List.nil_append, Token.read, hread,
    Option.map_some, hjoin, String.ofList_toList]

-----------------------------------------------------------------------------------------
-- What stands outside of string literals
-----------------------------------------------------------------------------------------

mutual

/-- The characters of a text that stand outside of its string literals. -/
def outsideStrings : List Char → List Char
  | [] => []
  | '"' :: rest => behindString rest
  | c :: rest => c :: outsideStrings rest
termination_by structural text => text

/-- The characters outside of string literals behind the one that the text starts inside of. -/
def behindString : List Char → List Char
  | [] => []
  | '"' :: rest => outsideStrings rest
  | '\\' :: _ :: rest => behindString rest
  | _ :: rest => behindString rest
termination_by structural text => text

end

theorem behindString_cons {c : Char} (hquote : c ≠ '"') (hbackslash : c ≠ '\\') (rest : List Char)
    : behindString (c :: rest) = behindString rest := by
  rw [behindString.eq_4 c rest hquote (fun _ _ hc _ => hbackslash hc)]

theorem Escaped.behindString {c : Char} {written : List Char} (h : Escaped c written)
    (rest : List Char)
    : Json.behindString (written ++ rest) = Json.behindString rest := by
  cases h with
  | letter other means => rfl
  | unit control =>
      have hhigh : c.toNat / 16 < 16 := by omega
      have hlow : c.toNat % 16 < 16 := by omega
      have hfirst := hexDigit_ne hhigh
      have hsecond := hexDigit_ne hlow
      change Json.behindString ('0' :: '0' :: hexDigit _ :: hexDigit _ :: rest) = _
      rw [behindString_cons (by decide) (by decide), behindString_cons (by decide) (by decide),
        behindString_cons hfirst.1 hfirst.2, behindString_cons hsecond.1 hsecond.2]
  | plain visible noQuote noBackslash => exact behindString_cons noQuote noBackslash rest

/-- Nothing of a quoted text stands outside of string literals, by induction on the text. -/
theorem outsideStrings_quote (text rest : List Char)
    : outsideStrings (quote text ++ rest) = outsideStrings rest := by
  simp only [quote, List.cons_append, List.append_assoc, List.nil_append]
  change behindString (text.flatMap escape ++ '"' :: rest) = _
  induction text with
  | nil => rfl
  | cons c text ih => rw [List.flatMap_cons, List.append_assoc, (escaped_escape c).behindString, ih]

/-- Characters that are no quotation marks start no string literal. -/
theorem outsideStrings_append {front : List Char} (h : ∀ c ∈ front, c ≠ '"') (rest : List Char)
    : outsideStrings (front ++ rest) = front ++ outsideStrings rest := by
  induction front with
  | nil => rfl
  | cons c front ih =>
      rw [List.cons_append, outsideStrings.eq_3 c _ (h c List.mem_cons_self),
        ih (fun other ho => h other (List.mem_cons_of_mem _ ho)), List.cons_append]

end SupplyGraph.Json
