import SupplyGraph.Proofs.Json.Parts
import SupplyGraph.Proofs.Json.Reals

/-!
Scanning texts for brackets. A scanner that knows only brackets, colons and string literals accepts
the text of every value and ends where it has started. So no text of a value goes on behind one of
its colons with the text of a value.
-/

namespace SupplyGraph.Json

-----------------------------------------------------------------------------------------
-- The scanner
-----------------------------------------------------------------------------------------

/-- Where a scanner stands, each time with the number of brackets that are open: outside of string
literals, inside of one, or behind a backslash in one. -/
inductive Position where
  | outside (opened : Nat)
  | inside (opened : Nat)
  | escaping (opened : Nat)
deriving DecidableEq

namespace Position

/-- The position behind the next character. Outside of string literals no bracket closes that was
not opened, no colon stands without an open bracket, and there are no backslashes. -/
def next : Position → Char → Option Position
  | .outside opened, '"' => some (.inside opened)
  | .outside opened, '[' | .outside opened, '\x7b' => some (.outside (opened + 1))
  | .outside (opened + 1), ']' | .outside (opened + 1), '\x7d' => some (.outside opened)
  | .outside (opened + 1), ':' => some (.outside (opened + 1))
  | .outside _, ']' | .outside _, '\x7d' | .outside _, ':' | .outside _, '\\' => none
  | .outside opened, _ => some (.outside opened)
  | .inside opened, '"' => some (.outside opened)
  | .inside opened, '\\' => some (.escaping opened)
  | .inside opened, _ => some (.inside opened)
  | .escaping opened, _ => some (.inside opened)

/-- The position behind a text. -/
def scan (position : Position) (text : List Char) : Option Position := text.foldlM next position

theorem scan_append (position : Position) (front back : List Char)
    : position.scan (front ++ back) = (position.scan front).bind (fun middle => middle.scan back) :=
  List.foldlM_append

theorem scan_cons (position : Position) (c : Char) (rest : List Char)
    : position.scan (c :: rest) = (position.next c).bind (fun middle => middle.scan rest) :=
  List.foldlM_cons

/-- Inside of a string literal only quotation marks and backslashes lead elsewhere. -/
theorem next_inside {c : Char} (hquote : c ≠ '"') (hbackslash : c ≠ '\\') (opened : Nat)
    : (Position.inside opened).next c = some (.inside opened) := by
  unfold next
  split <;> simp_all

/-- Outside of string literals only quotation marks lead inside. -/
theorem next_outside {c : Char} (hquote : c ≠ '"') {opened : Nat} {position : Position}
    (h : (Position.outside opened).next c = some position)
    : ∃ opened, position = .outside opened := by
  unfold next at h
  split at h <;> grind

/-- Of two scanners of one text, one that starts outside of string literals and one that starts
inside, not both end outside. They swap places at every quotation mark, and the one outside never
gets past the backslash that would keep the one inside from it. By induction on the text. -/
theorem not_outside_of_scan {text : List Char} {first second ended other : Nat}
    (ho : (Position.outside first).scan text = some (.outside ended))
    (hi : (Position.inside second).scan text = some (.outside other))
    : False := by
  induction text generalizing first second ended other with
  | nil => cases hi
  | cons c rest ih =>
      rw [scan_cons] at ho hi
      by_cases hquote : c = '"'
      · subst hquote
        exact ih hi ho
      · by_cases hbackslash : c = '\\'
        · subst hbackslash
          cases first <;> cases ho
        · rw [next_inside hquote hbackslash] at hi
          obtain ⟨position, hnext, hrest⟩ := Option.bind_eq_some_iff.mp ho
          obtain ⟨opened, rfl⟩ := next_outside hquote hnext
          exact ih hrest hi

-----------------------------------------------------------------------------------------
-- Texts of tokens
-----------------------------------------------------------------------------------------

/-- Wherever at least some number of brackets are open, the scanner passes the text and finds as
many open behind it. -/
def Balanced (least : Nat) (text : List Char) : Prop :=
  ∀ opened, least ≤ opened → (Position.outside opened).scan text = some (.outside opened)

theorem balanced_nil (least : Nat)
    : Balanced least [] := fun _ _ => rfl

theorem Balanced.append {least : Nat} {front back : List Char} (hf : Balanced least front)
    (hb : Balanced least back)
    : Balanced least (front ++ back) := by
  intro opened hleast
  rw [scan_append, hf opened hleast, Option.bind_some, hb opened hleast]

theorem Balanced.mono {least more : Nat} {text : List Char} (h : Balanced least text)
    (hle : least ≤ more)
    : Balanced more text :=
  fun opened hmore => h opened (Nat.le_trans hle hmore)

/-- Characters that are neither brackets nor colons, quotation marks or backslashes are passed. -/
theorem balanced_of_plain {text : List Char}
    (h : ∀ c ∈ text, c ∉ ['"', '\\', ':', '[', ']', '\x7b', '\x7d']) (least : Nat)
    : Balanced least text := by
  intro opened _
  induction text with
  | nil => rfl
  | cons c rest ih =>
      obtain ⟨hc, hrest⟩ := List.forall_mem_cons.mp h
      have hnext : (Position.outside opened).next c = some (.outside opened) := by
        unfold next
        split <;> simp_all
      rw [scan_cons, hnext, Option.bind_some, ih hrest]

/-- An escaped character does not end the literal that it stands in. -/
theorem scan_inside_of_escaped {c : Char} {written : List Char} (h : Escaped c written)
    (opened : Nat)
    : (Position.inside opened).scan written = some (.inside opened) := by
  have hvisible {c : Char} (hc : c ≠ '"' ∧ c ≠ '\\') (rest : List Char)
      : (Position.inside opened).scan (c :: rest) = (Position.inside opened).scan rest := by
    rw [scan_cons, next_inside hc.1 hc.2, Option.bind_some]
  cases h with
  | letter other means => rfl
  | unit control =>
      change (Position.inside opened).scan ['0', '0', hexDigit _, hexDigit _] = _
      rw [hvisible (by decide), hvisible (by decide), hvisible (hexDigit_ne (by omega)),
        hvisible (hexDigit_ne (by omega))]
      rfl
  | plain visible noQuote noBackslash => exact hvisible ⟨noQuote, noBackslash⟩ []

/-- A string literal is passed as a whole, by induction on the text that is quoted. -/
theorem balanced_quote (text : List Char) (least : Nat)
    : Balanced least (quote text) := by
  intro opened _
  have hescaped : (Position.inside opened).scan (text.flatMap escape) = some (.inside opened) := by
    induction text with
    | nil => rfl
    | cons c rest ih =>
        rw [List.flatMap_cons, scan_append, scan_inside_of_escaped (escaped_escape c),
          Option.bind_some, ih]
  rw [quote, List.cons_append, scan_cons]
  change (Position.inside opened).scan (text.flatMap escape ++ ['"']) = _
  rw [scan_append, hescaped]
  rfl

theorem balanced_render (number : Number) (least : Nat)
    : Balanced least number.render := by
  refine balanced_of_plain (fun c hm hspecial => ?_) least
  have hnumeric := number.forall_render_isNumeric c hm
  have hall : ∀ c ∈ ['"', '\\', ':', '[', ']', '\x7b', '\x7d'], ¬ isNumeric c := by
    simp [isNumeric, isDigit]
  exact hall c hspecial hnumeric

/-- The scanner passes the texts of all tokens but brackets and colons. -/
theorem balanced_spell {token : Token}
    (h : token ∉ [.openArray, .closeArray, .openObject, .closeObject, .colon])
    : Balanced 0 token.spell := by
  cases token with
  | openArray | closeArray | openObject | closeObject | colon => simp at h
  | comma | null => exact balanced_of_plain (by simp [Token.spell]) 0
  | bool value => cases value <;> exact balanced_of_plain (by simp [Token.spell]) 0
  | string value =>
      cases value with
      | none => exact fun _ _ => rfl
      | some text => exact balanced_quote text.toList 0
  | number value =>
      cases value with
      | none => exact balanced_of_plain (by simp [Token.spell]) 0
      | some number => exact balanced_render number 0

/-- A colon is passed where a bracket is open. -/
theorem balanced_colon
    : Balanced 1 Token.colon.spell := by
  intro opened hleast
  obtain ⟨fewer, rfl⟩ := Nat.exists_eq_add_of_le' hleast
  rfl

-----------------------------------------------------------------------------------------
-- Texts of values
-----------------------------------------------------------------------------------------

section Rows

variable {α : Type} {row : α → List Token} {parts : List α}

/-- Parts that the scanner passes are passed in a row with commas between them. -/
theorem balanced_separated {least : Nat}
    (h : ∀ part ∈ parts, Balanced least ((row part).flatMap Token.spell))
    : Balanced least ((separated row parts).flatMap Token.spell) := by
  have hcomma : Balanced least Token.comma.spell :=
    (balanced_spell (by decide)).mono (Nat.zero_le least)
  refine separated_induction (p := fun tokens => Balanced least (tokens.flatMap Token.spell))
    (balanced_nil least) (fun rest hrest => ?_) (fun front back hfront hback _ => ?_) h
  · rw [List.flatMap_cons]
    exact hcomma.append hrest
  · rw [List.flatMap_append]
    exact hfront.append hback

/-- Inside of brackets at least one is open, so that the parts may have colons. -/
theorem balanced_container {opener closer : Token}
    (hopener
      : ∀ opened, (outside opened).scan opener.spell = some (.outside (opened + 1)))
    (hcloser
      : ∀ opened, (outside (opened + 1)).scan closer.spell = some (.outside opened))
    (h : ∀ part ∈ parts, Balanced 1 ((row part).flatMap Token.spell))
    : Balanced 0 ((opener :: separated row parts ++ [closer]).flatMap Token.spell) := by
  intro opened _
  rw [List.flatMap_append, List.flatMap_cons, List.flatMap_singleton, scan_append, scan_append,
    hopener, Option.bind_some, balanced_separated h _ (Nat.le_add_left 1 opened), Option.bind_some,
    hcloser]

end Rows

/-- The scanner passes the text of a value, by induction on the value. -/
theorem balanced_compact (json : Json)
    : Balanced 0 json.compact := by
  have hatom {token : Token}
      (h : token ∉ [.openArray, .closeArray, .openObject, .closeObject, .colon])
      : Balanced 0 ([token].flatMap Token.spell) := by
    rw [List.flatMap_singleton]
    exact balanced_spell h
  rw [compact]
  induction json using Json.induction with
  | null => exact hatom (by simp)
  | bool value => exact hatom (by simp)
  | number value => exact hatom (by simp)
  | string value => exact hatom (by simp)
  | unreadable => exact hatom (by simp)
  | array items ih =>
      rw [tokens_array]
      exact balanced_container (fun _ => rfl) (fun _ => rfl)
        (fun item hm => (ih item hm).mono (Nat.zero_le 1))
  | object members ih =>
      rw [tokens_object]
      refine balanced_container (fun _ => rfl) (fun _ => rfl) (fun member hm => ?_)
      have hkey : Balanced 1 (Token.string (some member.1)).spell :=
        (balanced_spell (by simp)).mono (Nat.zero_le 1)
      rw [memberRow, List.flatMap_cons, List.flatMap_cons]
      exact hkey.append (balanced_colon.append ((ih member hm).mono (Nat.zero_le 1)))

end Position

-----------------------------------------------------------------------------------------
-- Colons
-----------------------------------------------------------------------------------------

open Position (outside inside scan)

/-- No text of a value goes on behind one of its colons with the text of a value. A colon between a
key and a value has a bracket open around it that the other text would not close, and behind a colon
in a string literal the other text would end inside of one. -/
theorem compact_ne_append_colon (json other : Json) (front : List Char)
    : json.compact ≠ front ++ ':' :: other.compact := by
  intro h
  have hjson := Position.balanced_compact json 0 (Nat.le_refl 0)
  have hother (opened : Nat) := Position.balanced_compact other opened (Nat.zero_le opened)
  rw [h, Position.scan_append] at hjson
  obtain ⟨position, _, hrest⟩ := Option.bind_eq_some_iff.mp hjson
  rw [Position.scan_cons] at hrest
  cases position with
  | outside opened =>
      cases opened with
      | zero => cases hrest
      | succ opened =>
          change (outside (opened + 1)).scan other.compact = _ at hrest
          rw [hother] at hrest
          cases hrest
  | inside opened => exact Position.not_outside_of_scan (hother 0) hrest
  | escaping opened => exact Position.not_outside_of_scan (hother 0) hrest

/-- What stands in front of a colon and the text of a value is told apart from the text. -/
theorem append_colon_compact_inj {front back : List Char} {json other : Json}
    : front ++ ':' :: json.compact = back ++ ':' :: other.compact
      ↔ front = back ∧ json.compact = other.compact := by
  constructor
  · intro h
    rcases List.append_eq_append_iff.mp h with ⟨middle, rfl, hrest⟩ | ⟨middle, rfl, hrest⟩
    all_goals
      cases middle with
      | nil => simpa [eq_comm] using hrest
      | cons c middle =>
          rw [List.cons_append, List.cons.injEq] at hrest
          exact absurd hrest.2 (compact_ne_append_colon _ _ _)
  · intro h
    obtain ⟨rfl, htext⟩ := h
    rw [htext]

end SupplyGraph.Json
