import SupplyGraph.Fault
import SupplyGraph.Json.Value
import SupplyGraph.Proofs.Json.Numerals

/-!
Paths of fields. A path leads from a value to a part of it, and it can be read off its text, because
names have neither dots nor brackets in them.
-/

namespace SupplyGraph

-----------------------------------------------------------------------------------------
-- Walking along a path
-----------------------------------------------------------------------------------------

namespace Json

/-- The part that a step leads to: the member with a name, or the item at a position. -/
def follow? : Json → Step → Option Json
  | .object members, .field name => members.lookup name
  | .array items, .index position => items[position]?
  | _, _ => none

/-- The part that a path leads to. -/
def walk? (json : Json) (path : FieldPath) : Option Json := path.foldlM follow? json

theorem walk?_cons (json : Json) (step : Step) (rest : FieldPath)
    : json.walk? (step :: rest) = (json.follow? step).bind (fun part => part.walk? rest) :=
  List.foldlM_cons

end Json

-----------------------------------------------------------------------------------------
-- Reading paths
-----------------------------------------------------------------------------------------

namespace FieldPath

/-- Whether a character can be part of a name in the text of a path. -/
def isNameChar (c : Char) : Bool := c != '.' && c != '['

/-- The steps that a text is made of: names behind dots and positions in brackets. -/
def readSteps : List Char → Option FieldPath
  | [] => some []
  | '.' :: rest =>
      (readSteps (rest.dropWhile isNameChar)).map
        (.field (String.ofList (rest.takeWhile isNameChar)) :: ·)
  | '[' :: rest =>
      match _hafter : rest.dropWhile Json.isDigit with
      | ']' :: after =>
          (readSteps after).map
            (.index (Json.ofDigits ((rest.takeWhile Json.isDigit).map Json.digitValue)) :: ·)
      | _ => none
  | _ => none
termination_by text => text.length
decreasing_by
  · have := (List.dropWhile_suffix (l := rest) isNameChar).length_le
    simp only [List.length_cons]
    omega
  · have hdrop := (List.dropWhile_suffix (l := rest) Json.isDigit).length_le
    rw [_hafter, List.length_cons] at hdrop
    simp only [List.length_cons]
    omega

/-- The path with a text. There is no dot before the name that it starts with. -/
def ofText? (text : String) : Option FieldPath :=
  match text.toList with
  | [] => some []
  | first :: rest => readSteps (if first = '[' then first :: rest else '.' :: first :: rest)

end FieldPath

/-- A position, or a name that has characters, none of them a dot or a bracket. -/
def Step.isPlain : Step → Bool
  | .field name => !name.toList.isEmpty && name.toList.all FieldPath.isNameChar
  | .index _ => true

namespace FieldPath

/-- What is behind a step starts with a dot or a bracket, if there is anything. -/
def StartsStep (text : List Char) : Prop := ∀ c ∈ text.head?, c = '.' ∨ c = '['

/-- The text of a path is empty or starts with a dot or a bracket, so that a step before it ends
there. -/
theorem startsStep_spelled (path : FieldPath)
    : StartsStep (path.flatMap (fun step => (renderStep step).toList)) := by
  cases path with
  | nil => simp [StartsStep]
  | cons step rest => cases step <;> simp [StartsStep, renderStep]

/-- A step is read off the front of a text, and reading goes on behind it. -/
theorem readSteps_renderStep {step : Step} (hplain : step.isPlain) {rest : List Char}
    (hrest : StartsStep rest)
    : readSteps ((renderStep step).toList ++ rest) = (readSteps rest).map (step :: ·) := by
  cases step with
  | field name =>
      have hname : ∀ c ∈ name.toList, isNameChar c = true :=
        List.all_eq_true.mp (Bool.and_eq_true_iff.mp hplain).2
      have hend : ∀ c ∈ rest.head?, isNameChar c = false := by
        intro c hc
        rcases hrest c hc with rfl | rfl <;> rfl
      obtain ⟨htake, hdrop⟩ := Json.span_append hname hend
      have hchars : (renderStep (.field name)).toList ++ rest = '.' :: (name.toList ++ rest) := by
        simp [renderStep]
      rw [hchars, readSteps, htake, hdrop, String.ofList_toList]
  | index position =>
      have hdigits : ∀ c ∈ Json.renderNat position, Json.isDigit c = true :=
        fun c => Json.isDigit_of_mem_renderNat
      have hend : ∀ c ∈ (']' :: rest).head?, Json.isDigit c = false := by
        rintro c ⟨⟩
        rfl
      obtain ⟨htake, hdrop⟩ := Json.span_append hdigits hend
      have hchars
          : (renderStep (.index position)).toList ++ rest
            = '[' :: (Json.renderNat position ++ ']' :: rest) := by
        simp [renderStep, Json.renderNat, Nat.repr]
      rw [hchars, readSteps]
      split
      next after hafter =>
        rw [hdrop] at hafter
        rw [htake, Json.ofDigits_renderNat, (List.cons.inj hafter).2]
      next hnone => exact absurd hdrop (hnone rest)

/-- Steps are read off their texts one by one, by induction on the path. -/
theorem readSteps_spelled {path : FieldPath} (hplain : ∀ step ∈ path, step.isPlain)
    : readSteps (path.flatMap (fun step => (renderStep step).toList)) = some path := by
  induction path with
  | nil => rw [List.flatMap_nil, readSteps]
  | cons step rest ih =>
      obtain ⟨hstep, hrest⟩ := List.forall_mem_cons.mp hplain
      rw [List.flatMap_cons, readSteps_renderStep hstep (startsStep_spelled rest), ih hrest,
        Option.map_some]

/-- The text of a path is the texts of its steps one after the other, by induction on the path. -/
theorem toList_foldl_renderStep (text : String) (path : FieldPath)
    : (path.foldl (fun text step => text ++ renderStep step) text).toList
      = text.toList ++ path.flatMap (fun step => (renderStep step).toList) := by
  induction path generalizing text with
  | nil => simp
  | cons step rest ih => simp [ih]

/-- A path is read off its own text. -/
theorem ofText?_render {path : FieldPath} (hplain : ∀ step ∈ path, step.isPlain)
    : ofText? path.render = some path := by
  have hsteps := readSteps_spelled hplain
  cases path with
  | nil => rfl
  | cons step rest =>
      cases step with
      | field name =>
          obtain ⟨hne, hname⟩ := Bool.and_eq_true_iff.mp (hplain _ List.mem_cons_self)
          obtain ⟨first, later, hletters⟩ : ∃ first later, name.toList = first :: later :=
            List.exists_cons_of_ne_nil (by simpa using hne)
          have hfirst : first ≠ '[' := by
            rintro rfl
            simp [hletters, isNameChar] at hname
          have hchars
              : (render (.field name :: rest)).toList
                = name.toList ++ rest.flatMap (fun step => (renderStep step).toList) :=
            toList_foldl_renderStep name rest
          rw [ofText?, hchars, hletters]
          simpa [renderStep, hletters, hfirst] using hsteps
      | index position =>
          have hchars
              : (render (.index position :: rest)).toList
                = (Step.index position :: rest).flatMap (fun step => (renderStep step).toList) :=
            toList_foldl_renderStep "" (.index position :: rest)
          rw [ofText?, hchars]
          simpa [renderStep] using hsteps

end FieldPath

end SupplyGraph
