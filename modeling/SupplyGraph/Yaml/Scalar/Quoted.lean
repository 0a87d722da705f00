import SupplyGraph.Yaml.Space

/-!
Quoted scalars. In single quotes a quote is written twice; in double quotes a backslash escapes
characters and line breaks. Line breaks fold in both.
-/

namespace SupplyGraph.Yaml.Quoted

def hexValue? (c : Char) : Option Nat :=
  if isDigit c then some (c.toNat - '0'.toNat)
  else if 'a' ≤ c ∧ c ≤ 'f' then some (c.toNat - 'a'.toNat + 10)
  else if 'A' ≤ c ∧ c ≤ 'F' then some (c.toNat - 'A'.toNat + 10)
  else none

/-- The number that a list of hexadecimal digits is. -/
def hexNumber? (digits : List Char) : Option Nat :=
  digits.foldlM (fun number digit => (hexValue? digit).map (number * 16 + ·)) 0

/-- The character with a code, if there is one. -/
def charOf? (code : Nat) : Option Char :=
  if code.isValidChar then some (Char.ofNat code) else none

/-- The character that a backslash and this character stand for. -/
def simpleEscape? : Char → Option Char
  | '0' => some '\x00'
  | 'a' => some '\x07'
  | 'b' => some '\x08'
  | 't' => some '\t'
  | '\t' => some '\t'
  | 'n' => some '\n'
  | 'v' => some '\x0b'
  | 'f' => some '\x0c'
  | 'r' => some '\r'
  | 'e' => some '\x1b'
  | ' ' => some ' '
  | '"' => some '"'
  | '/' => some '/'
  | '\\' => some '\\'
  | 'N' => some '\u0085'
  | '_' => some '\u00a0'
  | 'L' => some '\u2028'
  | 'P' => some '\u2029'
  | _ => none

/-- How many hexadecimal digits follow a backslash and this letter. -/
def codeLength? : Char → Option Nat
  | 'x' => some 2
  | 'u' => some 4
  | 'U' => some 8
  | _ => none

/-- The character of the escape whose letter is at the front of a text, and what comes after. -/
def takeEscape : List Char → Option (Char × List Char)
  | [] => none
  | letter :: rest =>
      match codeLength? letter with
      | none => (simpleEscape? letter).map (·, rest)
      | some count =>
          if count ≤ rest.length then do
            let c ← charOf? (← hexNumber? (rest.take count))
            return (c, rest.drop count)
          else none

/-- Takes the characters of a scalar up to its closing quote, the ones before at hand in reverse
order. -/
def takeUntilQuote (double : Bool) (before text : List Char) : Option (List Char × List Char) :=
  match text with
  | [] => none
  | '\'' :: '\'' :: rest =>
      if double then takeUntilQuote double ('\'' :: before) ('\'' :: rest)
      else takeUntilQuote double ('\'' :: before) rest
  | c :: rest =>
      if c = (if double then '"' else '\'') then some (before.reverse, rest)
      else if double && c = '\\' then
        if atBreak rest && !rest.isEmpty then
          let (space, after) := Space.take (skipBreak rest)
          let column := space.column?.getD space.inline.length
          if column = 0 && atMarker after then none
          else if after.length ≤ rest.length then
            takeUntilQuote double (space.breaks.reverse ++ before) after
          else none
        else
          match takeEscape rest with
          | none => none
          | some (escaped, after) =>
              if after.length ≤ rest.length then takeUntilQuote double (escaped :: before) after
              else none
      else if isSpace c then
        let (space, after) := Space.take (c :: rest)
        if space.column? = some 0 && atMarker after then none
        else if after.length ≤ rest.length then
          takeUntilQuote double (space.fold.reverse ++ before) after
        else none
      else takeUntilQuote double (c :: before) rest
termination_by text.length

/-- The scalar whose opening quote has just been passed, and what comes after it. -/
def take (double : Bool) (text : List Char) : Option (List Char × List Char) :=
  takeUntilQuote double [] text

end SupplyGraph.Yaml.Quoted
