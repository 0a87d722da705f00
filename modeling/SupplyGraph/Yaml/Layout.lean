import SupplyGraph.Yaml.Token

/-!
Taking a YAML text apart into tokens. Indentation opens and closes block collections, and a token
that a colon follows on the same line turns out to have been a key, so a place is remembered where
a key may have started.
-/

namespace SupplyGraph.Yaml

/-- A place in a text: what comes next, how many octets of its UTF-8 form and how many lines came
before, and how many characters of the line. -/
structure Cursor where
  rest : List Char
  index : Nat
  line : Nat
  column : Nat
deriving Repr

namespace Cursor

/-- Moves over characters, counting lines at their breaks. -/
def pass (cursor : Cursor) : List Char → Cursor
  | [] => cursor
  | '\r' :: '\n' :: more =>
      pass { cursor with index := cursor.index + 2, line := cursor.line + 1, column := 0 } more
  | c :: more =>
      let index := cursor.index + c.utf8Size
      if isBreak c then pass { cursor with index, line := cursor.line + 1, column := 0 } more
      else pass { cursor with index, column := cursor.column + 1 } more

/-- Moves on to a later part of the text. -/
def moveTo (cursor : Cursor) (rest : List Char) : Cursor :=
  let passed := cursor.rest.take (cursor.rest.length - rest.length)
  { cursor.pass passed with rest }

/-- Moves over a number of characters. -/
def move (cursor : Cursor) (count : Nat) : Cursor :=
  { cursor.pass (cursor.rest.take count) with rest := cursor.rest.drop count }

end Cursor

/-- A place where a key may have started. A required key is one that nothing else can stand for. -/
structure Candidate where
  position : Nat
  start : Cursor
  required : Bool
deriving Repr

/-- How far a text has been taken apart. The margin is the least column that content of the
innermost block collection may have, so it is zero outside all of them. There is a candidate or
none for every open flow collection, innermost first, and one for the block around them. -/
structure Layout where
  cursor : Cursor
  tokens : Array Token
  margin : Nat
  outerMargins : List Nat
  keyAllowed : Bool
  candidate : Option Candidate
  outerCandidates : List (Option Candidate)
deriving Repr

namespace Layout

def start (text : List Char) : Layout :=
  ⟨⟨text, 0, 0, 0⟩, #[], 0, [], true, none, []⟩

def inFlow (layout : Layout) : Bool := !layout.outerCandidates.isEmpty

def push (layout : Layout) (token : Token) : Layout :=
  { layout with tokens := layout.tokens.push token }

/-- Passes over the rest of a comment. -/
def skipComment (text : List Char) : List Char :=
  if text.head? = some '#' then text.dropWhile (fun c => !isBreak c) else text

theorem skipComment_length_le (text : List Char) : (skipComment text).length ≤ text.length := by
  unfold skipComment
  split
  · exact (List.dropWhile_suffix _).length_le
  · exact Nat.le_refl _

/-- Passes over a byte order mark. -/
def skipMark (text : List Char) : List Char :=
  if text.head? = some '\ufeff' then text.drop 1 else text

theorem skipMark_length_le (text : List Char) : (skipMark text).length ≤ text.length := by
  unfold skipMark
  split
  · exact (List.drop_suffix 1 text).length_le
  · exact Nat.le_refl _

/-- Passes over a mark that may stand at the start of a line, blanks and a comment. -/
def skipLine (blank : Char → Bool) (startsLine : Bool) (text : List Char) : List Char :=
  skipComment ((if startsLine then skipMark text else text).dropWhile blank)

theorem skipLine_length_le (blank : Char → Bool) (startsLine : Bool) (text : List Char)
    : (skipLine blank startsLine text).length ≤ text.length := by
  refine Nat.le_trans (skipComment_length_le _)
    (Nat.le_trans (List.dropWhile_suffix blank).length_le ?_)
  split
  · exact skipMark_length_le text
  · exact Nat.le_refl _

/-- Passes over blanks, comments and breaks in front of the next token. In block context a tab does
not count as a blank where a key may start, and a new line lets a key start. Every line may start
with a byte order mark, which takes up a column. -/
def skipSpace (layout : Layout) (text : List Char) (startsLine keyAllowed : Bool)
    : List Char × Bool :=
  let blank (c : Char) : Bool := c = ' ' || (c = '\t' && (layout.inFlow || !keyAllowed))
  let rest := skipLine blank startsLine text
  match _h : takeBreak rest with
  | none => (rest, keyAllowed)
  | some (_, after) => skipSpace layout after true (keyAllowed || !layout.inFlow)
termination_by text.length
decreasing_by
  exact Nat.lt_of_lt_of_le (takeBreak_length _h) (skipLine_length_le blank startsLine text)

/-- Moves to the next token. -/
def toNextToken (layout : Layout) : Layout :=
  let startsLine := layout.cursor.column = 0
  let (rest, keyAllowed) := layout.skipSpace layout.cursor.rest startsLine layout.keyAllowed
  { layout with cursor := layout.cursor.moveTo rest, keyAllowed }

/-- A key lies on one line and has at most 1024 octets. -/
def isStale (cursor : Cursor) (candidate : Candidate) : Bool :=
  candidate.start.line < cursor.line || candidate.start.index + 1024 < cursor.index

/-- A candidate that can still become a key; none at all if a required one no longer can. -/
def refresh (cursor : Cursor) : Option Candidate → Option (Option Candidate)
  | none => some none
  | some candidate =>
      if !isStale cursor candidate then some (some candidate)
      else if candidate.required then none
      else some none

/-- Gives up candidates that are too far back. -/
def dropStale (layout : Layout) : Option Layout := do
  let candidate ← refresh layout.cursor layout.candidate
  let outerCandidates ← layout.outerCandidates.mapM (refresh layout.cursor)
  return { layout with candidate, outerCandidates }

/-- Gives up the innermost candidate. -/
def dropCandidate (layout : Layout) : Option Layout :=
  if layout.candidate.any Candidate.required then none
  else some { layout with candidate := none }

/-- Remembers the next token as a candidate if a key may start here. -/
def saveCandidate (layout : Layout) : Option Layout :=
  if layout.keyAllowed then do
    let layout ← layout.dropCandidate
    let required := !layout.inFlow && layout.margin = layout.cursor.column + 1
    return { layout with candidate := some ⟨layout.tokens.size, layout.cursor, required⟩ }
  else some layout

/-- Closes block collections whose content starts right of a column. -/
def closeBlocks (margin : Nat) : List Nat → Array Token → Nat → Nat × List Nat × Array Token
  | [], tokens, current => (current, [], tokens)
  | outer :: rest, tokens, current =>
      if margin < current then closeBlocks margin rest (tokens.push .blockEnd) outer
      else (current, outer :: rest, tokens)

/-- Closes block collections until the margin is at most the given one. -/
def unroll (layout : Layout) (margin : Nat) : Layout :=
  if layout.inFlow then layout
  else
    let (margin, outerMargins, tokens) :=
      closeBlocks margin layout.outerMargins layout.tokens layout.margin
    { layout with margin, outerMargins, tokens }

/-- Opens a block collection at a column, unless one is open there; its token goes to the given
position. -/
def roll (layout : Layout) (column position : Nat) (token : Token) : Layout :=
  if !layout.inFlow && layout.margin ≤ column then
    { layout with
      margin := column + 1
      outerMargins := layout.margin :: layout.outerMargins
      tokens := layout.tokens.insertIdxIfInBounds position token }
  else layout

/-- Takes a token of a given length. -/
def accept (layout : Layout) (token : Token) (length : Nat) : Layout :=
  { layout.push token with cursor := layout.cursor.move length }

/-- Takes a token that ends where the given text starts. -/
def acceptUpTo (layout : Layout) (token : Token) (rest : List Char) : Layout :=
  { layout.push token with cursor := layout.cursor.moveTo rest }

def setKeyAllowed (layout : Layout) (keyAllowed : Bool) : Layout := { layout with keyAllowed }

/-- A directive or a document marker ends everything that is open. -/
def endDocument (layout : Layout) : Option Layout := do
  return (← (layout.unroll 0).dropCandidate).setKeyAllowed false

def takeDirective (layout : Layout) : Option Layout := do
  let layout ← layout.endDocument
  let (token, rest) ← Yaml.takeDirective (layout.cursor.rest.drop 1)
  return layout.acceptUpTo token rest

def takeMarker (layout : Layout) (token : Token) : Option Layout := do
  return (← layout.endDocument).accept token 3

def openFlow (layout : Layout) (token : Token) : Option Layout := do
  let layout ← layout.saveCandidate
  let layout := { layout with
    outerCandidates := layout.candidate :: layout.outerCandidates, candidate := none }
  return (layout.setKeyAllowed true).accept token 1

def closeFlow (layout : Layout) (token : Token) : Option Layout := do
  let layout ← layout.dropCandidate
  let layout :=
    match layout.outerCandidates with
    | [] => layout
    | candidate :: outerCandidates => { layout with candidate, outerCandidates }
  return (layout.setKeyAllowed false).accept token 1

def takeFlowEntry (layout : Layout) : Option Layout := do
  return ((← layout.dropCandidate).setKeyAllowed true).accept .flowEntry 1

def takeBlockEntry (layout : Layout) : Option Layout := do
  if !layout.inFlow && !layout.keyAllowed then none
  else
    let layout := layout.roll layout.cursor.column layout.tokens.size .sequenceStart
    return ((← layout.dropCandidate).setKeyAllowed true).accept .blockEntry 1

/-- A key that has its own indicator. -/
def takeKey (layout : Layout) : Option Layout := do
  if !layout.inFlow && !layout.keyAllowed then none
  else
    let layout := layout.roll layout.cursor.column layout.tokens.size .mappingStart
    return ((← layout.dropCandidate).setKeyAllowed (!layout.inFlow)).accept .key 1

/-- A colon in front of a value. If there is a candidate, it was a key. -/
def takeValue (layout : Layout) : Option Layout :=
  match layout.candidate with
  | some candidate =>
      let layout := { layout with
        tokens := layout.tokens.insertIdxIfInBounds candidate.position .key, candidate := none }
      let layout := layout.roll candidate.start.column candidate.position .mappingStart
      some ((layout.setKeyAllowed false).accept .value 1)
  | none =>
      if !layout.inFlow && !layout.keyAllowed then none
      else
        let layout := layout.roll layout.cursor.column layout.tokens.size .mappingStart
        some ((layout.setKeyAllowed (!layout.inFlow)).accept .value 1)

def takeAnchor (layout : Layout) (token : String → Token) : Option Layout := do
  let layout ← layout.saveCandidate
  let (name, rest) ← takeName (layout.cursor.rest.drop 1)
  return (layout.setKeyAllowed false).acceptUpTo (token name) rest

def takeTag (layout : Layout) : Option Layout := do
  let layout ← layout.saveCandidate
  let (token, rest) ← Yaml.takeTag layout.inFlow layout.cursor.rest
  return (layout.setKeyAllowed false).acceptUpTo token rest

def takeBlockScalar (layout : Layout) (style : ScalarStyle) : Option Layout := do
  let layout ← layout.dropCandidate
  let (text, rest) ← Block.take (style = .literal) layout.margin (layout.cursor.rest.drop 1)
  return (layout.setKeyAllowed true).acceptUpTo (.scalar style (String.ofList text)) rest

def takeQuoted (layout : Layout) (style : ScalarStyle) : Option Layout := do
  let layout ← layout.saveCandidate
  let (text, rest) ← Quoted.take (style = .doubleQuoted) (layout.cursor.rest.drop 1)
  return (layout.setKeyAllowed false).acceptUpTo (.scalar style (String.ofList text)) rest

/-- A plain scalar. Another key may start behind it only on a later line. -/
def takePlain (layout : Layout) : Option Layout := do
  let layout ← layout.saveCandidate
  let (text, onLaterLine, rest) ← Plain.take layout.inFlow layout.margin layout.cursor.rest
  return (layout.setKeyAllowed onLaterLine).acceptUpTo (.scalar .plain (String.ofList text)) rest

/-- A plain scalar may start with any character but an indicator, and with a hyphen, a question
mark or a colon if no white space follows; the latter two start none in flow context. -/
def startsPlain (layout : Layout) (c : Char) (rest : List Char) : Bool :=
  (!isSpace c && !"-?:,[]\x7b\x7d#&*!|>'\"%@\x60".toList.contains c)
    || (c = '-' && !rest.head?.any isBlank)
    || (!layout.inFlow && (c = '?' || c = ':') && !atSpace rest)

/-- Takes the next token, which starts with the given character. -/
def takeToken (layout : Layout) (c : Char) (rest : List Char) : Option Layout :=
  if layout.cursor.column = 0 && c = '%' then layout.takeDirective
  else if layout.cursor.column = 0 && atMarker (c :: rest) then
    layout.takeMarker (if c = '-' then .documentStart else .documentEnd)
  else
    match c with
    | '[' => layout.openFlow .flowSequenceStart
    | '\x7b' => layout.openFlow .flowMappingStart
    | ']' => layout.closeFlow .flowSequenceEnd
    | '\x7d' => layout.closeFlow .flowMappingEnd
    | ',' => layout.takeFlowEntry
    | '*' => layout.takeAnchor .alias
    | '&' => layout.takeAnchor .anchor
    | '!' => layout.takeTag
    | '\'' => layout.takeQuoted .singleQuoted
    | '"' => layout.takeQuoted .doubleQuoted
    | _ =>
        if c = '-' && atSpace rest then layout.takeBlockEntry
        else if c = '?' && (layout.inFlow || atSpace rest) then layout.takeKey
        else if c = ':' && (layout.inFlow || atSpace rest) then layout.takeValue
        else if c = '|' && !layout.inFlow then layout.takeBlockScalar .literal
        else if c = '>' && !layout.inFlow then layout.takeBlockScalar .folded
        else if layout.startsPlain c rest then layout.takePlain
        else none

/-- Takes all tokens that are left of a text with a number of octets. Every token moves the cursor
on. -/
def takeTokens (size : Nat) (layout : Layout) : Option (List Token) :=
  match (layout.toNextToken).dropStale with
  | none => none
  | some ready =>
      match ready.cursor.rest with
      | [] => do
          let finished ← (ready.unroll 0).dropCandidate
          return (finished.push .streamEnd).tokens.toList
      | c :: rest =>
          match (ready.unroll (ready.cursor.column + 1)).takeToken c rest with
          | none => none
          | some next =>
              if layout.cursor.index < next.cursor.index ∧ next.cursor.index ≤ size then
                next.takeTokens size
              else none
termination_by size - layout.cursor.index

end Layout

/-- The tokens of a text. A text with a character that is not allowed has none. -/
def tokens? (text : List Char) : Option (List Token) :=
  if text.all isAllowed then (Layout.start text).takeTokens (String.ofList text).utf8ByteSize
  else none

end SupplyGraph.Yaml
