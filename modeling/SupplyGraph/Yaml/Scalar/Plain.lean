import SupplyGraph.Yaml.Space

/-!
Plain scalars. A plain scalar goes on until a comment, a document marker, a colon before white
space, an indicator of a flow collection that it stands in, or a line that is not indented enough.
-/

namespace SupplyGraph.Yaml.Plain

def isFlowIndicator (c : Char) : Bool :=
  c = ',' || c = '[' || c = ']' || c = '\x7b' || c = '\x7d'

/-- A colon that would end a plain scalar in a flow collection without white space after it. -/
def misplacedColon : List Char → Bool
  | ':' :: c :: _ => isFlowIndicator c || c = '?'
  | _ => false

/-- Characters up to white space or to an indicator that ends the scalar; none at a misplaced
colon. -/
def takePart (inFlow : Bool) : List Char → Option (List Char × List Char)
  | [] => some ([], [])
  | c :: rest =>
      if isSpace c then some ([], c :: rest)
      else if inFlow && misplacedColon (c :: rest) then none
      else if (c = ':' && atSpace rest) || (inFlow && isFlowIndicator c) then some ([], c :: rest)
      else (takePart inFlow rest).map (fun (part, rest) => (c :: part, rest))

/-- What is left of a scalar from some white space on, the text of what came before at hand. The
result says whether the scalar was left on a later line than its last character. -/
def takeParts (inFlow : Bool) (margin : Nat) (before text : List Char)
    : Option (List Char × Bool × List Char) :=
  if atSpace text && !text.isEmpty then
    let (space, rest) := Space.take text
    if space.hasTabBefore margin then none
    else if !inFlow && space.column?.any (· < margin) then some (before, true, rest)
    else if (space.column? == some 0 && atMarker rest) || rest.head? == some '#' then
      some (before, space.hasBreak, rest)
    else
      match takePart inFlow rest with
      | none => none
      | some ([], _) => some (before, space.hasBreak, rest)
      | some (part, rest) =>
          if rest.length < text.length then
            takeParts inFlow margin (before ++ space.fold ++ part) rest
          else none
  else some (before, false, text)
termination_by text.length

/-- The plain scalar at the front of a text, whether it was left on a later line, and what comes
after it. -/
def take (inFlow : Bool) (margin : Nat) (text : List Char)
    : Option (List Char × Bool × List Char) := do
  let (part, rest) ← takePart inFlow text
  takeParts inFlow margin part rest

end SupplyGraph.Yaml.Plain
