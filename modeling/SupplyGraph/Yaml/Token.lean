import SupplyGraph.Yaml.Scalar.Plain
import SupplyGraph.Yaml.Scalar.Quoted
import SupplyGraph.Yaml.Scalar.Block

/-!
Tokens of YAML texts, and the reading of those that need no knowledge of the layout: directives,
anchors, aliases and tags.
-/

namespace SupplyGraph.Yaml

inductive ScalarStyle where
  | plain
  | singleQuoted
  | doubleQuoted
  | literal
  | folded
deriving DecidableEq, Repr

inductive Token where
  | version (major minor : Nat)
  | tagHandle (handle start : String)
  | documentStart
  | documentEnd
  | sequenceStart
  | mappingStart
  | blockEnd
  | flowSequenceStart
  | flowSequenceEnd
  | flowMappingStart
  | flowMappingEnd
  | blockEntry
  | flowEntry
  | key
  | value
  | alias (name : String)
  | anchor (name : String)
  | tag (handle suffix : String)
  | scalar (style : ScalarStyle) (text : String)
  | streamEnd
deriving DecidableEq, Repr

/-! ### Anchors and aliases -/

/-- The name behind an anchor or alias indicator, and what comes after it. -/
def takeName (text : List Char) : Option (String × List Char) :=
  let name := text.takeWhile isWord
  let rest := text.dropWhile isWord
  let ends := rest.head?.all (fun c =>
    isSpace c || "?:,]\x7d%@\x60".toList.contains c)
  if name.isEmpty || !ends then none else some (String.ofList name, rest)

/-! ### Tags -/

/-- A character that may stand in a tag, apart from escapes. Inside angle brackets and in
directives also commas and square brackets may. -/
def isTagChar (verbatim : Bool) (c : Char) : Bool :=
  isWord c || ";/?:@&=+$.!~*'()".toList.contains c || (verbatim && ",[]".toList.contains c)

/-- The octet that an escape in a tag stands for. -/
def takeOctet : List Char → Option (UInt8 × List Char)
  | '%' :: first :: second :: rest =>
      (Quoted.hexNumber? [first, second]).map (fun octet => (octet.toUInt8, rest))
  | _ => none

/-- The number of octets of a character in UTF-8, by its first octet. -/
def octetCount? (first : UInt8) : Option Nat :=
  if first &&& 0x80 = 0x00 then some 1
  else if first &&& 0xE0 = 0xC0 then some 2
  else if first &&& 0xF0 = 0xE0 then some 3
  else if first &&& 0xF8 = 0xF0 then some 4
  else none

/-- Escaped octets after the first one of a character. -/
def takeOctets : Nat → List Char → Option (List UInt8 × List Char)
  | 0, text => some ([], text)
  | count + 1, text => do
      let (octet, rest) ← takeOctet text
      if octet &&& 0xC0 = 0x80 then
        let (octets, rest) ← takeOctets count rest
        return (octet :: octets, rest)
      else none

/-- The character that escapes at the front of a text stand for. -/
def takeEscaped (text : List Char) : Option (List UInt8 × List Char) := do
  let (first, rest) ← takeOctet text
  let (others, rest) ← takeOctets ((← octetCount? first) - 1) rest
  return (first :: others, rest)

/-- The octets of a part of a tag, escapes resolved, and what comes after it. -/
def takeTagOctets (verbatim : Bool) (text : List Char) : Option (List UInt8 × List Char) :=
  match text with
  | [] => some ([], [])
  | c :: rest =>
      if c = '%' then
        match takeEscaped (c :: rest) with
        | none => none
        | some (octets, after) =>
            if after.length ≤ rest.length then
              (takeTagOctets verbatim after).map (fun (more, rest) => (octets ++ more, rest))
            else none
      else if isTagChar verbatim c then
        (takeTagOctets verbatim rest).map (fun (more, rest) =>
          ((String.singleton c).toUTF8.toList ++ more, rest))
      else some ([], c :: rest)
termination_by text.length

/-- What the octets of a part of a tag read as. A zero octet ends the part early, and octets that
are no text are replaced as a whole. -/
def tagPartText (octets : List UInt8) : String :=
  let octets := octets.takeWhile (· ≠ 0)
  (String.fromUTF8? (ByteArray.mk octets.toArray)).getD "\ufffd"

/-- A part of a tag, which must not be empty unless that is allowed. -/
def takeTagPart (verbatim allowEmpty : Bool) (text : List Char) : Option (String × List Char) := do
  let (octets, rest) ← takeTagOctets verbatim text
  if rest.length = text.length && !allowEmpty then none
  else return (tagPartText octets, rest)

/-- A handle: an exclamation mark, or two of them around a name. The second one may be missing. -/
def takeHandle : List Char → Option (String × List Char)
  | '!' :: rest =>
      let name := rest.takeWhile isWord
      let after := rest.dropWhile isWord
      match after with
      | '!' :: after => some (String.ofList ('!' :: name ++ ['!']), after)
      | _ => some (String.ofList ('!' :: name), after)
  | _ => none

/-- The tag at the front of a text: its handle and suffix. -/
def takeTag (inFlow : Bool) (text : List Char) : Option (Token × List Char) := do
  let (token, rest) ←
    match text with
    | '!' :: '<' :: rest => do
        let (suffix, rest) ← takeTagPart true false rest
        match rest with
        | '>' :: rest => pure (Token.tag "" suffix, rest)
        | _ => none
    | _ => do
        let (handle, rest) ← takeHandle text
        if handle.endsWith "!" && 1 < handle.length then
          let (suffix, rest) ← takeTagPart false false rest
          pure (Token.tag handle suffix, rest)
        else
          let (suffix, rest) ← takeTagPart false true rest
          let suffix := (handle.drop 1).toString ++ suffix
          pure (if suffix.isEmpty then Token.tag "" "!" else Token.tag "!" suffix, rest)
  if atSpace rest || (inFlow && rest.head? = some ',') then return (token, rest) else none

/-! ### Directives -/

/-- A number of at most nine digits. -/
def takeVersionNumber (text : List Char) : Option (Nat × List Char) :=
  let digits := text.takeWhile isDigit
  if digits.isEmpty || 9 < digits.length then none
  else
    some (digits.foldl (fun number digit => number * 10 + (digit.toNat - '0'.toNat)) 0,
      text.dropWhile isDigit)

def takeVersion (text : List Char) : Option (Token × List Char) := do
  let (major, rest) ← takeVersionNumber (text.dropWhile isBlank)
  match rest with
  | '.' :: rest => do
      let (minor, rest) ← takeVersionNumber rest
      return (.version major minor, rest)
  | _ => none

def takeTagHandle (text : List Char) : Option (Token × List Char) := do
  let (handle, rest) ← takeHandle (text.dropWhile isBlank)
  if handle = "!" || (handle.endsWith "!" && 1 < handle.length) then
    if rest.head?.any isBlank then
      let (start, rest) ← takeTagPart true false (rest.dropWhile isBlank)
      if atSpace rest then return (.tagHandle handle start, rest) else none
    else none
  else none

/-- The end of a line with nothing but a comment on it. -/
def takeLineEnd (text : List Char) : Option (List Char) :=
  let rest := text.dropWhile isBlank
  let rest := if rest.head? = some '#' then rest.dropWhile (fun c => !isBreak c) else rest
  if atBreak rest then some (skipBreak rest) else none

/-- The directive behind a percent sign, up to and with the end of its line. -/
def takeDirective (text : List Char) : Option (Token × List Char) := do
  let name := text.takeWhile isWord
  let rest := text.dropWhile isWord
  if !atSpace rest then none
  else
    let (token, rest) ←
      if name = "YAML".toList then takeVersion rest
      else if name = "TAG".toList then takeTagHandle rest
      else none
    return (token, ← takeLineEnd rest)

end SupplyGraph.Yaml
