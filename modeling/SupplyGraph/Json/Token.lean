import SupplyGraph.Json.Number

/-!
Tokens of JSON texts: how each is written, and how a text is taken apart into them. Space, tab,
line feed and carriage return may stand around tokens. A string or a number that is well formed but
stands for no value is a token without one.
-/

namespace SupplyGraph.Json

inductive Token where
  | openArray
  | closeArray
  | openObject
  | closeObject
  | comma
  | colon
  | null
  | bool (value : Bool)
  | number (value : Option Number)
  | string (value : Option String)
deriving DecidableEq, Repr

/-! ### Strings -/

/-- A part of a string literal: a character, or a 16-bit unit given by its four hexadecimal
digits. -/
inductive Piece where
  | char (c : Char)
  | unit (value : Nat)
deriving DecidableEq, Repr

def hexValue? (c : Char) : Option Nat :=
  if '0' ≤ c ∧ c ≤ '9' then some (c.toNat - '0'.toNat)
  else if 'a' ≤ c ∧ c ≤ 'f' then some (c.toNat - 'a'.toNat + 10)
  else if 'A' ≤ c ∧ c ≤ 'F' then some (c.toNat - 'A'.toNat + 10)
  else none

def hexUnit? (first second third fourth : Char) : Option Nat := do
  let first ← hexValue? first
  let second ← hexValue? second
  let third ← hexValue? third
  let fourth ← hexValue? fourth
  return ((first * 16 + second) * 16 + third) * 16 + fourth

/-- The character that a backslash and this letter stand for. -/
def unescape? : Char → Option Char
  | '"' => some '"'
  | '\\' => some '\\'
  | '/' => some '/'
  | 'b' => some '\x08'
  | 'f' => some '\x0c'
  | 'n' => some '\n'
  | 'r' => some '\r'
  | 't' => some '\t'
  | _ => none

/-- The pieces up to the closing quote, and what comes after it. -/
def readPieces : List Char → Option (List Piece × List Char)
  | [] => none
  | '"' :: rest => some ([], rest)
  | '\\' :: 'u' :: first :: second :: third :: fourth :: rest => do
      let unit ← hexUnit? first second third fourth
      let (pieces, rest) ← readPieces rest
      return (.unit unit :: pieces, rest)
  | '\\' :: letter :: rest => do
      let c ← unescape? letter
      let (pieces, rest) ← readPieces rest
      return (.char c :: pieces, rest)
  | c :: rest =>
      if c.toNat < 0x20 ∨ c = '\\' then none
      else do
        let (pieces, rest) ← readPieces rest
        return (.char c :: pieces, rest)

def isHighSurrogate (unit : Nat) : Bool := 0xD800 ≤ unit && unit < 0xDC00

def isLowSurrogate (unit : Nat) : Bool := 0xDC00 ≤ unit && unit < 0xE000

/-- The characters that pieces stand for; none if a surrogate stands alone. -/
def joinPieces : List Piece → Option (List Char)
  | [] => some []
  | .char c :: rest => (joinPieces rest).map (c :: ·)
  | .unit high :: .unit low :: rest =>
      if isHighSurrogate high then
        if isLowSurrogate low then
          (joinPieces rest).map
            (Char.ofNat (0x10000 + (high - 0xD800) * 0x400 + (low - 0xDC00)) :: ·)
        else none
      else if isLowSurrogate high then none
      else (joinPieces (.unit low :: rest)).map (Char.ofNat high :: ·)
  | .unit unit :: rest =>
      if isHighSurrogate unit || isLowSurrogate unit then none
      else (joinPieces rest).map (Char.ofNat unit :: ·)

/-- A lower-case hexadecimal digit. -/
def hexDigit (value : Nat) : Char :=
  if value < 10 then Char.ofNat (value + '0'.toNat) else Char.ofNat (value - 10 + 'a'.toNat)

/-- A character inside a string literal. Only quotes, backslashes and control characters below
U+0020 are escaped. -/
def escape (c : Char) : List Char :=
  if c = '"' then ['\\', '"']
  else if c = '\\' then ['\\', '\\']
  else if c = '\x08' then ['\\', 'b']
  else if c = '\x0c' then ['\\', 'f']
  else if c = '\n' then ['\\', 'n']
  else if c = '\r' then ['\\', 'r']
  else if c = '\t' then ['\\', 't']
  else if c.toNat < 0x20 then
    ['\\', 'u', '0', '0', hexDigit (c.toNat / 16), hexDigit (c.toNat % 16)]
  else [c]

def quote (text : List Char) : List Char := '"' :: text.flatMap escape ++ ['"']

/-! ### Tokens -/

/-- The text of a token. A string or number without a value is written as one such literal. -/
def Token.spell : Token → List Char
  | .openArray => ['[']
  | .closeArray => [']']
  | .openObject => ['\x7b']
  | .closeObject => ['\x7d']
  | .comma => [',']
  | .colon => [':']
  | .null => ['n', 'u', 'l', 'l']
  | .bool true => ['t', 'r', 'u', 'e']
  | .bool false => ['f', 'a', 'l', 's', 'e']
  | .number (some value) => value.render
  | .number none => ['1', 'e', '9', '9', '9']
  | .string (some value) => quote value.toList
  | .string none => ['"', '\\', 'u', 'd', '8', '0', '0', '"']

def isSpace (c : Char) : Bool := c = ' ' || c = '\t' || c = '\n' || c = '\r'

/-- The token that a text starts with, and what comes after it. -/
def Token.read : List Char → Option (Token × List Char)
  | '[' :: rest => some (.openArray, rest)
  | ']' :: rest => some (.closeArray, rest)
  | '\x7b' :: rest => some (.openObject, rest)
  | '\x7d' :: rest => some (.closeObject, rest)
  | ',' :: rest => some (.comma, rest)
  | ':' :: rest => some (.colon, rest)
  | 'n' :: 'u' :: 'l' :: 'l' :: rest => some (.null, rest)
  | 't' :: 'r' :: 'u' :: 'e' :: rest => some (.bool true, rest)
  | 'f' :: 'a' :: 'l' :: 's' :: 'e' :: rest => some (.bool false, rest)
  | '"' :: rest =>
      (readPieces rest).map (fun (pieces, rest) =>
        (.string ((joinPieces pieces).map String.ofList), rest))
  | text => (NumberLiteral.read text).map (fun (literal, rest) => (.number literal.value?, rest))

theorem readPieces_length {text rest : List Char} {pieces : List Piece}
    (h : readPieces text = some (pieces, rest))
    : rest.length < text.length := by
  fun_induction readPieces text generalizing pieces rest <;>
    simp_all [Option.bind_eq_some_iff] <;> grind

/-- Reading digits uses up at least one character. -/
theorem spanDigits1_length {text rest : List Char} {digits : List Nat}
    (h : spanDigits1 text = some (digits, rest))
    : rest.length < text.length := by
  have hsplit := congrArg List.length (List.takeWhile_append_dropWhile (p := isDigit) (l := text))
  rw [List.length_append] at hsplit
  simp only [spanDigits1, spanDigits] at h
  split at h
  · exact absurd h (by simp)
  next heq hdigits =>
    obtain ⟨rfl, rfl⟩ := Prod.mk.inj (Option.some.inj h)
    have hne : (text.takeWhile isDigit).length ≠ 0 := by
      intro hzero
      exact hdigits (text.dropWhile isDigit) (by simp [List.length_eq_zero_iff.mp hzero])
    omega

theorem readFraction_length {text rest : List Char} {fraction : Option (List Nat)}
    (h : readFraction text = some (fraction, rest))
    : rest.length ≤ text.length := by
  unfold readFraction at h
  split at h
  next tail =>
    simp only [Option.bind_eq_bind, Option.bind_eq_some_iff] at h
    obtain ⟨⟨digits, after⟩, hdigits, hout⟩ := h
    have := spanDigits1_length hdigits
    grind
  · grind

theorem readExponent_length {text rest : List Char} {exponent : Option Int}
    (h : readExponent text = some (exponent, rest))
    : rest.length ≤ text.length := by
  unfold readExponent at h
  split at h
  next mark tail =>
    split at h
    · have hsign : (readSign tail).2.length ≤ tail.length := by
        unfold readSign
        split <;> simp
      simp only [Option.bind_eq_bind, Option.bind_eq_some_iff] at h
      obtain ⟨⟨digits, after⟩, hdigits, hout⟩ := h
      have := spanDigits1_length hdigits
      grind
    · grind
  · grind

theorem readWhole_length {text rest : List Char} {digits : List Nat}
    (h : readWhole text = some (digits, rest))
    : rest.length < text.length := by
  refine @spanDigits1_length _ _ digits ?_
  unfold readWhole at h
  unfold spanDigits1
  split at h <;> simp_all

theorem NumberLiteral.read_length {text rest : List Char} {literal : NumberLiteral}
    (h : NumberLiteral.read text = some (literal, rest))
    : rest.length < text.length := by
  have unsigned {negative : Bool} {text : List Char}
      (h : readUnsigned negative text = some (literal, rest)) : rest.length < text.length := by
    simp only [readUnsigned, Option.bind_eq_bind, Option.bind_eq_some_iff] at h
    obtain ⟨⟨whole, first⟩, hwhole, ⟨fraction, second⟩, hfraction, ⟨exponent, third⟩, hexponent,
      hout⟩ := h
    have := readWhole_length hwhole
    have := readFraction_length hfraction
    have := readExponent_length hexponent
    grind
  unfold NumberLiteral.read at h
  split at h
  · have := unsigned h
    grind
  · exact unsigned h

/-- Reading a token uses up at least one character. -/
theorem Token.read_length {text rest : List Char} {token : Token}
    (h : Token.read text = some (token, rest))
    : rest.length < text.length := by
  unfold Token.read at h
  split at h
  case h_10 tail =>
    simp only [Option.map_eq_some_iff] at h
    obtain ⟨⟨pieces, after⟩, hpieces, hout⟩ := h
    have := readPieces_length hpieces
    grind
  case h_11 =>
    simp only [Option.map_eq_some_iff] at h
    obtain ⟨⟨literal, after⟩, hliteral, hout⟩ := h
    have := NumberLiteral.read_length hliteral
    grind
  all_goals grind

/-- The tokens of a text. -/
def Token.readAll (text : List Char) : Option (List Token) :=
  match _hspace : text.dropWhile isSpace with
  | [] => some []
  | first :: rest =>
      match _htoken : Token.read (first :: rest) with
      | none => none
      | some (token, after) => (Token.readAll after).map (token :: ·)
termination_by text.length
decreasing_by
  have hread := Token.read_length _htoken
  have hdrop := (List.dropWhile_suffix (l := text) isSpace).length_le
  rw [_hspace] at hdrop
  omega

end SupplyGraph.Json
