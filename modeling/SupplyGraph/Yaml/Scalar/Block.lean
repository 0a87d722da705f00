import SupplyGraph.Yaml.Character

/-!
Block scalars. A header says how the final breaks are treated and, if it cannot be told from the
first line, how far the content is indented; the content goes on as long as lines are indented that
far. Folded scalars join lines that start with no blank.
-/

namespace SupplyGraph.Yaml.Block

/-- What becomes of the breaks at the end: all are dropped, one is kept, or all are kept. -/
inductive Chomping where
  | strip
  | clip
  | keep
deriving DecidableEq, Repr

structure Header where
  chomping : Chomping
  increment : Option Nat
deriving Repr

def chomping? : Char → Option Chomping
  | '-' => some .strip
  | '+' => some .keep
  | _ => none

/-- The indentation indicator and the chomping indicator of a header, in either order. -/
def takeIndicators (text : List Char) : Option (Header × List Char) :=
  match text with
  | [] => some (⟨.clip, none⟩, [])
  | c :: rest =>
      match chomping? c with
      | some chomping =>
          match rest with
          | d :: after =>
              if d = '0' then none
              else if isDigit d then some (⟨chomping, some (d.toNat - '0'.toNat)⟩, after)
              else some (⟨chomping, none⟩, rest)
          | [] => some (⟨chomping, none⟩, [])
      | none =>
          if c = '0' then none
          else if isDigit c then
            let increment := some (c.toNat - '0'.toNat)
            match rest with
            | d :: after =>
                match chomping? d with
                | some chomping => some (⟨chomping, increment⟩, after)
                | none => some (⟨.clip, increment⟩, rest)
            | [] => some (⟨.clip, increment⟩, [])
          else some (⟨.clip, none⟩, text)

/-- The header behind the indicator of the scalar, up to and with the end of its line. -/
def takeHeader (text : List Char) : Option (Header × List Char) := do
  let (header, rest) ← takeIndicators text
  let rest := rest.dropWhile isBlank
  let rest := if rest.head? = some '#' then rest.dropWhile (fun c => !isBreak c) else rest
  if atBreak rest then return (header, skipBreak rest) else none

/-- Lines that hold nothing but indentation: their breaks, the greatest column met, and the column
and text at which the first other line goes on. -/
structure Gap where
  breaks : List Char
  widest : Nat
  column : Nat
  rest : List Char
deriving Repr

/-- Indentation up to a limit, if there is one. -/
def takeIndent (limit : Option Nat) (text : List Char) : Nat × List Char :=
  let spaces := (text.takeWhile (· = ' ')).length
  let count := limit.elim spaces (min spaces)
  (count, text.drop count)

/-- Takes empty lines. A tab where indentation may still go on is refused. -/
def takeGap (limit : Option Nat) (breaks : List Char) (widest : Nat) (text : List Char)
    : Option Gap :=
  let (column, rest) := takeIndent limit text
  let widest := max widest column
  if rest.head? = some '\t' && limit.all (column < ·) then none
  else
    match takeBreak rest with
    | none => some ⟨breaks, widest, column, rest⟩
    | some (line, after) =>
        if after.length < text.length then takeGap limit (breaks ++ line) widest after
        else none
termination_by text.length

/-- The content so far, the break that the last line ended with, the breaks of empty lines after
it, and whether that line started with a blank. -/
structure Content where
  before : List Char
  lineBreak : List Char
  gapBreaks : List Char
  startedBlank : Bool
deriving Repr

/-- Adds a line to the content. -/
def Content.addLine (literal : Bool) (content : Content) (line lineBreak gapBreaks : List Char)
    : Content :=
  let startsBlank := line.head?.any isBlank
  let joint :=
    if !literal && content.lineBreak.head? = some '\n' && !content.startedBlank && !startsBlank then
      if content.gapBreaks.isEmpty then [' '] else []
    else content.lineBreak
  ⟨content.before ++ joint ++ content.gapBreaks ++ line, lineBreak, gapBreaks, startsBlank⟩

/-- Takes lines as long as they reach the indentation. -/
def takeLines (literal : Bool) (indent : Nat) (content : Content) (column : Nat)
    (text : List Char)
    : Option (Content × List Char) :=
  if column = indent && !text.isEmpty then
    let line := text.takeWhile (fun c => !isBreak c)
    let rest := text.dropWhile (fun c => !isBreak c)
    let (lineBreak, rest) := (takeBreak rest).getD ([], rest)
    match takeGap (some indent) [] 0 rest with
    | none => none
    | some gap =>
        let content := content.addLine literal line lineBreak gap.breaks
        if gap.rest.length < text.length then
          takeLines literal indent content gap.column gap.rest
        else none
  else some (content, text)
termination_by text.length

/-- The block scalar whose indicator has just been passed, and what comes after it. The margin is
the least column that content of the surrounding block may have. -/
def take (literal : Bool) (margin : Nat) (text : List Char) : Option (List Char × List Char) := do
  let (header, rest) ← takeHeader text
  let given := header.increment.map (· + (margin - 1))
  let gap ← takeGap given [] 0 rest
  let indent := given.getD (max (max gap.widest margin) 1)
  let (content, rest) ←
    takeLines literal indent ⟨[], [], gap.breaks, false⟩ gap.column gap.rest
  let tail :=
    match header.chomping with
    | .strip => []
    | .clip => content.lineBreak
    | .keep => content.lineBreak ++ content.gapBreaks
  return (content.before ++ tail, rest)

end SupplyGraph.Yaml.Block
