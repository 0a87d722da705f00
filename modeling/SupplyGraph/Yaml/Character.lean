/-!
Classes of characters in YAML texts, and line breaks. A carriage return with a line feed is one
break; every break reads as a line feed, except for the line and paragraph separators, which read
as themselves.
-/

namespace SupplyGraph.Yaml

/-- A character that may occur in a text at all. -/
def isAllowed (c : Char) : Bool :=
  let code := c.toNat
  c = '\t' || c = '\n' || c = '\r' || (0x20 ≤ code && code ≤ 0x7E) || code = 0x85
    || (0xA0 ≤ code && code ≤ 0xFFFD) || 0x10000 ≤ code

def isBlank (c : Char) : Bool := c = ' ' || c = '\t'

def isBreak (c : Char) : Bool :=
  c = '\n' || c = '\r' || c = '\u0085' || c = '\u2028' || c = '\u2029'

def isSpace (c : Char) : Bool := isBlank c || isBreak c

def isDigit (c : Char) : Bool := '0' ≤ c && c ≤ '9'

/-- Letters, digits, underscores and hyphens make up the names of anchors, handles and
directives. -/
def isWord (c : Char) : Bool :=
  isDigit c || ('a' ≤ c && c ≤ 'z') || ('A' ≤ c && c ≤ 'Z') || c = '_' || c = '-'

/-- The text is at its end, or a blank or break is next. -/
def atSpace : List Char → Bool
  | [] => true
  | c :: _ => isSpace c

/-- The text is at its end, or a break is next. -/
def atBreak : List Char → Bool
  | [] => true
  | c :: _ => isBreak c

/-- The break at the front of a text as it reads, and what comes after it. -/
def takeBreak : List Char → Option (List Char × List Char)
  | '\r' :: '\n' :: rest => some (['\n'], rest)
  | c :: rest =>
      if c = '\n' || c = '\r' || c = '\u0085' then some (['\n'], rest)
      else if isBreak c then some ([c], rest)
      else none
  | [] => none

/-- The text after the break at its front, if there is one. -/
def skipBreak (text : List Char) : List Char :=
  match takeBreak text with
  | some (_, rest) => rest
  | none => text

/-- A document marker stands at the front of a text that starts a line. -/
def atMarker : List Char → Bool
  | '-' :: '-' :: '-' :: rest => atSpace rest
  | '.' :: '.' :: '.' :: rest => atSpace rest
  | _ => false

theorem takeBreak_length {text line rest : List Char} (h : takeBreak text = some (line, rest))
    : rest.length < text.length := by
  unfold takeBreak at h
  split at h
  · grind
  · split at h
    · grind
    · split at h <;> grind
  · exact absurd h (by simp)

end SupplyGraph.Yaml
