import SupplyGraph.Yaml.Character

/-!
Runs of blanks and line breaks inside scalars, and how they fold: within a line the blanks stay as
they are; a single break becomes a space, and of several breaks the first one is dropped.
-/

namespace SupplyGraph.Yaml

/-- A longest run of blanks and breaks: the blanks up to the first break, then each break as it
reads with the blanks at the start of the next line. -/
structure Space where
  inline : List Char
  lines : List (List Char × List Char)
deriving Repr

namespace Space

/-- The breaks at the front of a text, each with the blanks after it. -/
def takeLines (text : List Char) : List (List Char × List Char) × List Char :=
  match _h : takeBreak text with
  | none => ([], text)
  | some (line, rest) =>
      let (lines, rest) := takeLines (rest.dropWhile isBlank)
      ((line, (skipBreak text).takeWhile isBlank) :: lines, rest)
termination_by text.length
decreasing_by
  have hbreak := takeBreak_length _h
  have hdrop := (List.dropWhile_suffix (l := rest) isBlank).length_le
  omega

/-- The run at the front of a text, and what comes after it. -/
def take (text : List Char) : Space × List Char :=
  let (lines, rest) := takeLines (text.dropWhile isBlank)
  (⟨text.takeWhile isBlank, lines⟩, rest)

def hasBreak (space : Space) : Bool := !space.lines.isEmpty

/-- The column of the character behind the run, if the run has a break. -/
def column? (space : Space) : Option Nat := space.lines.getLast?.map (fun line => line.2.length)

/-- A tab stands before the margin on a line of the run. -/
def hasTabBefore (space : Space) (margin : Nat) : Bool :=
  space.lines.any (fun line => (line.2.take margin).contains '\t')

/-- The breaks of the run, all kept. -/
def breaks (space : Space) : List Char := space.lines.flatMap Prod.fst

/-- What the run reads as between two parts of a scalar. -/
def fold (space : Space) : List Char :=
  match space.lines with
  | [] => space.inline
  | [(line, _)] => if line = ['\n'] then [' '] else line
  | (line, _) :: rest =>
      if line = ['\n'] then rest.flatMap Prod.fst else line ++ rest.flatMap Prod.fst

end Space

end SupplyGraph.Yaml
