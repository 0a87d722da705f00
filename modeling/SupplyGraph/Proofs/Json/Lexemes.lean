import SupplyGraph.Proofs.Json.Indentation
import SupplyGraph.Proofs.Json.Spelling

/-!
Lexemes. A token is read from the same characters wherever they stand, so that a text is taken apart
into tokens exactly if it is laid out from lexemes, with any white space around them. Only a number
is read on as far as it goes.
-/

namespace SupplyGraph.Json

/-- The front of the text is read as the value, wherever it stands: in front of the rest, and in
front of anything else that may follow. -/
def ReadsFront {α : Type} (read : List Char → Option (α × List Char)) (may : List Char → Prop)
    (text : List Char) (value : α) (rest : List Char)
    : Prop :=
  ∃ front,
    text = front ++ rest ∧ ∀ later, may later → read (front ++ later) = some (value, later)

-----------------------------------------------------------------------------------------
-- String literals wherever they stand
-----------------------------------------------------------------------------------------

/-- The characters are read as one piece, whatever follows. -/
def WritesPiece (written : List Char) (piece : Piece) : Prop :=
  ∀ text,
    readPieces (written ++ text) = (readPieces text).map (fun read => (piece :: read.1, read.2))

theorem writesPiece_unit {first second third fourth : Char} {unit : Nat}
    (h : hexUnit? first second third fourth = some unit)
    : WritesPiece ['\\', 'u', first, second, third, fourth] (.unit unit) := by
  intro text
  simp only [List.cons_append, List.nil_append, readPieces, h]
  cases readPieces text <;> rfl

theorem writesPiece_letter {letter c : Char} (h : unescape? letter = some c)
    : WritesPiece ['\\', letter] (.char c) := by
  intro text
  have hother : letter ≠ 'u' := by
    rintro rfl
    cases h
  rw [List.cons_append, List.cons_append, List.nil_append, readPieces.eq_4 _ _
    (fun _ _ _ _ _ hletter _ => hother hletter), h]
  cases readPieces text <;> rfl

theorem writesPiece_plain {c : Char} (hquote : c ≠ '"') (h : ¬ (c.toNat < 0x20 ∨ c = '\\'))
    : WritesPiece [c] (.char c) := by
  intro text
  have hbackslash : c ≠ '\\' := fun hc => h (.inr hc)
  rw [List.singleton_append, readPieces.eq_5 c text hquote
    (fun _ _ _ _ _ hc _ => hbackslash hc) (fun _ _ hc _ => hbackslash hc), if_neg h]
  cases readPieces text <;> rfl

/-- A piece may stand in front of others. -/
theorem WritesPiece.readsFront {written text rest : List Char} {piece : Piece}
    {pieces : List Piece} (hwritten : WritesPiece written piece)
    (hbehind
      : ∀ {pieces rest},
          readPieces text = some (pieces, rest)
          → ReadsFront readPieces (fun _ => True) text pieces rest)
    (h : readPieces (written ++ text) = some (pieces, rest))
    : ReadsFront readPieces (fun _ => True) (written ++ text) pieces rest := by
  rw [hwritten, Option.map_eq_some_iff] at h
  obtain ⟨⟨others, _⟩, hread, heq⟩ := h
  obtain ⟨rfl, rfl⟩ := Prod.mk.inj heq
  obtain ⟨front, rfl, hfront⟩ := hbehind hread
  refine ⟨written ++ front, (List.append_assoc _ _ _).symm, fun later _ => ?_⟩
  rw [List.append_assoc, hwritten, hfront later trivial]
  rfl

/-- The pieces of a string literal are read from the same characters, whatever follows; by induction
on how they are read. -/
theorem readPieces_readsFront {text rest : List Char} {pieces : List Piece}
    (h : readPieces text = some (pieces, rest))
    : ReadsFront readPieces (fun _ => True) text pieces rest := by
  induction text using readPieces.induct generalizing pieces rest with
  | case1 => cases h
  | case2 later =>
      obtain ⟨rfl, rfl⟩ := Prod.mk.inj (Option.some.inj h)
      exact ⟨['"'], rfl, fun _ _ => rfl⟩
  | case3 first second third fourth later ih =>
      cases hunit : hexUnit? first second third fourth with
      | none => simp [readPieces, hunit] at h
      | some unit => exact (writesPiece_unit hunit).readsFront ih h
  | case4 letter later hother ih =>
      cases hletter : unescape? letter with
      | none =>
          rw [readPieces.eq_4 _ _ hother, hletter] at h
          cases h
      | some c => exact (writesPiece_letter hletter).readsFront ih h
  | case5 c later hquote hunit hletter hbad =>
      rw [readPieces.eq_5 c later hquote hunit hletter, if_pos hbad] at h
      cases h
  | case6 c later hquote hunit hletter hgood ih =>
      exact (writesPiece_plain hquote hgood).readsFront ih h

-----------------------------------------------------------------------------------------
-- Number literals wherever they stand
-----------------------------------------------------------------------------------------

/-- Nothing at the front of a text goes on with digits. -/
def EndsDigits (rest : List Char) : Prop := ∀ c ∈ rest.head?, isDigit c = false

theorem EndsNumber.endsDigits {rest : List Char} (h : EndsNumber rest)
    : EndsDigits rest :=
  fun c hc => (h c hc).1

/-- What may stand behind digits may do so in front of anything that may stand there. -/
theorem EndsDigits.append {front rest later : List Char} (h : EndsDigits (front ++ rest))
    (hlater : EndsDigits later)
    : EndsDigits (front ++ later) := by
  cases front with
  | nil => exact hlater
  | cons c front => exact h

/-- Digits are read up to the first character that is none, whatever it is. -/
theorem spanDigits_split {text rest : List Char} {digits : List Nat}
    (h : spanDigits text = (digits, rest))
    : EndsDigits rest
      ∧ ∃ front,
          text = front ++ rest
          ∧ ∀ later, EndsDigits later → spanDigits (front ++ later) = (digits, later) := by
  obtain ⟨rfl, rfl⟩ := Prod.mk.inj h
  have hdigits : ∀ c ∈ text.takeWhile isDigit, isDigit c := by
    rw [← List.all_eq_true]
    exact List.all_takeWhile
  refine ⟨fun c hc => ?_, text.takeWhile isDigit, List.takeWhile_append_dropWhile.symm,
    fun later hlater => spanDigits_append hdigits hlater⟩
  have hhead := List.head?_dropWhile_not isDigit text
  rw [Option.mem_def.mp hc] at hhead
  exact hhead

theorem spanDigits1_readsFront {text rest : List Char} {digits : List Nat}
    (h : spanDigits1 text = some (digits, rest))
    : EndsDigits rest ∧ ReadsFront spanDigits1 EndsDigits text digits rest := by
  rw [spanDigits1] at h
  split at h
  next => cases h
  next hne =>
    obtain ⟨hends, front, rfl, hfront⟩ := spanDigits_split (Option.some.inj h)
    refine ⟨hends, front, rfl, fun later hlater => ?_⟩
    rw [spanDigits1, hfront later hlater]
    split
    next heq =>
      obtain ⟨rfl, rfl⟩ := Prod.mk.inj heq
      exact absurd (Option.some.inj h) (hne _)
    next => rfl

theorem readWhole_readsFront {text rest : List Char} {digits : List Nat}
    (h : readWhole text = some (digits, rest))
    : EndsDigits rest ∧ ReadsFront readWhole EndsDigits text digits rest := by
  rw [readWhole] at h
  split at h
  next => cases h
  next => cases h
  next hne hzero =>
    obtain ⟨hends, front, rfl, hfront⟩ := spanDigits_split (Option.some.inj h)
    refine ⟨hends, front, rfl, fun later hlater => ?_⟩
    rw [readWhole, hfront later hlater]
    split
    next heq =>
      obtain ⟨rfl, rfl⟩ := Prod.mk.inj heq
      exact absurd (Option.some.inj h) (hne _)
    next heq =>
      obtain ⟨rfl, rfl⟩ := Prod.mk.inj heq
      exact absurd (Option.some.inj h) (hzero _ _ _)
    next => rfl

theorem readFraction_readsFront {text rest : List Char} {fraction : Option (List Nat)}
    (h : readFraction text = some (fraction, rest))
    : ReadsFront readFraction (fun later => EndsDigits later ∧ ∀ c ∈ later.head?, c ≠ '.') text
        fraction rest := by
  unfold readFraction at h
  split at h
  next tail =>
    simp only [Option.bind_eq_bind, Option.bind_eq_some_iff] at h
    obtain ⟨⟨digits, _⟩, hdigits, hout⟩ := h
    obtain ⟨rfl, rfl⟩ := Prod.mk.inj (Option.some.inj hout)
    obtain ⟨_, front, rfl, hfront⟩ := spanDigits1_readsFront hdigits
    refine ⟨'.' :: front, rfl, fun later hlater => ?_⟩
    simp only [List.cons_append, readFraction, hfront later hlater.1, Option.bind_eq_bind,
      Option.bind_some, Option.pure_def]
  next =>
    obtain ⟨rfl, rfl⟩ := Prod.mk.inj (Option.some.inj h)
    refine ⟨[], rfl, fun later hlater => ?_⟩
    rw [List.nil_append]
    unfold readFraction
    split
    · exact absurd rfl (hlater.2 '.' rfl)
    · rfl

/-- A sign is read in the same way in front of anything that starts alike. -/
theorem readSign_split {text front rest : List Char} {negative : Bool} (hne : front ≠ [])
    (h : readSign text = (negative, front ++ rest))
    : ∃ sign,
        text = sign ++ (front ++ rest)
        ∧ ∀ later, readSign (sign ++ (front ++ later)) = (negative, front ++ later) := by
  unfold readSign at h
  split at h
  next =>
    obtain ⟨rfl, rfl⟩ := Prod.mk.inj h
    exact ⟨['-'], rfl, fun _ => rfl⟩
  next =>
    obtain ⟨rfl, rfl⟩ := Prod.mk.inj h
    exact ⟨['+'], rfl, fun _ => rfl⟩
  next hminus hplus =>
    obtain ⟨rfl, rfl⟩ := Prod.mk.inj h
    refine ⟨[], rfl, fun later => ?_⟩
    obtain ⟨c, front, rfl⟩ := List.exists_cons_of_ne_nil hne
    exact readSign.eq_3 _ (fun _ heq => hminus _ (congrArg (· :: _) (List.cons.inj heq).1))
      (fun _ heq => hplus _ (congrArg (· :: _) (List.cons.inj heq).1))

theorem readExponent_split {text rest : List Char} {exponent : Option Int}
    (h : readExponent text = some (exponent, rest))
    : ∃ front,
        text = front ++ rest
        ∧ (∀ c ∈ front.head?, c = 'e' ∨ c = 'E')
        ∧ ∀ later, EndsNumber later → readExponent (front ++ later) = some (exponent, later) := by
  cases text with
  | nil =>
      obtain ⟨rfl, rfl⟩ := Prod.mk.inj (Option.some.inj h)
      exact ⟨[], rfl, by simp, fun later hlater => readExponent_of_endsNumber hlater⟩
  | cons mark tail =>
      by_cases hmark : mark = 'e' ∨ mark = 'E'
      · rw [readExponent, if_pos hmark] at h
        simp only [Option.bind_eq_bind, Option.bind_eq_some_iff] at h
        obtain ⟨⟨digits, after⟩, hdigits, hout⟩ := h
        obtain ⟨hexponent, rfl⟩ := Prod.mk.inj (Option.some.inj hout)
        obtain ⟨_, front, hafter, hfront⟩ := spanDigits1_readsFront hdigits
        have hne : front ≠ [] := by
          rintro rfl
          cases hfront [] endsNumber_nil.endsDigits
        obtain ⟨sign, rfl, hsign⟩ := readSign_split hne (Prod.ext rfl hafter)
        refine ⟨mark :: (sign ++ front), by simp, by simpa using hmark, fun later hlater => ?_⟩
        have htext : mark :: (sign ++ front) ++ later = mark :: (sign ++ (front ++ later)) := by
          simp
        rw [htext, readExponent, if_pos hmark, hsign]
        simp only [hfront later hlater.endsDigits, Option.bind_eq_bind, Option.bind_some,
          Option.pure_def, hexponent]
      · rw [readExponent, if_neg hmark] at h
        obtain ⟨rfl, rfl⟩ := Prod.mk.inj (Option.some.inj h)
        exact ⟨[], rfl, by simp, fun later hlater => readExponent_of_endsNumber hlater⟩

theorem readUnsigned_readsFront {negative : Bool} {text rest : List Char} {literal : NumberLiteral}
    (h : readUnsigned negative text = some (literal, rest))
    : ReadsFront (readUnsigned negative) EndsNumber text literal rest := by
  simp only [readUnsigned, Option.bind_eq_bind, Option.bind_eq_some_iff] at h
  obtain ⟨⟨whole, _⟩, hwhole, ⟨fraction, _⟩, hfraction, ⟨exponent, _⟩, hexponent, hout⟩ := h
  obtain ⟨rfl, rfl⟩ := Prod.mk.inj (Option.some.inj hout)
  obtain ⟨mark, rfl, hmark, hreadExponent⟩ := readExponent_split hexponent
  obtain ⟨point, rfl, hreadFraction⟩ := readFraction_readsFront hfraction
  obtain ⟨hends, digits, rfl, hreadWhole⟩ := readWhole_readsFront hwhole
  refine ⟨digits ++ (point ++ mark), by simp, fun later hlater => ?_⟩
  -- The mark of an exponent is neither a digit nor a point.
  have hbehind
      : EndsDigits (mark ++ later) ∧ ∀ c ∈ (mark ++ later).head?, c ≠ '.' := by
    cases mark with
    | nil => exact ⟨hlater.endsDigits, fun c hc => (hlater c hc).2.1⟩
    | cons c mark => rcases hmark c rfl with rfl | rfl <;> simp [EndsDigits, isDigit]
  have hpoint : EndsDigits (point ++ (mark ++ later)) := hends.append hbehind.1
  simp only [readUnsigned, List.append_assoc, hreadWhole _ hpoint,
    hreadFraction _ hbehind, hreadExponent later hlater, Option.bind_eq_bind,
    Option.bind_some, Option.pure_def]

/-- A number literal is read from the same characters, whatever follows that does not go on with
it. -/
theorem NumberLiteral.readsFront {text rest : List Char} {literal : NumberLiteral}
    (h : NumberLiteral.read text = some (literal, rest))
    : ReadsFront NumberLiteral.read EndsNumber text literal rest := by
  unfold NumberLiteral.read at h
  split at h
  next tail =>
    obtain ⟨front, rfl, hfront⟩ := readUnsigned_readsFront h
    exact ⟨'-' :: front, rfl, hfront⟩
  next hminus =>
    obtain ⟨front, rfl, hfront⟩ := readUnsigned_readsFront h
    refine ⟨front, rfl, fun later hlater => ?_⟩
    cases front with
    | nil => cases hfront [] endsNumber_nil
    | cons c front =>
        rw [List.cons_append, NumberLiteral.read.eq_2 _
          (fun _ heq => hminus _ (congrArg (· :: _) (List.cons.inj heq).1))]
        exact hfront later hlater

-----------------------------------------------------------------------------------------
-- Lexemes
-----------------------------------------------------------------------------------------

/-- A token is read from the same characters, whatever follows. Behind a number nothing may follow
that goes on with it. -/
theorem Token.readsFront {text rest : List Char} {token : Token}
    (h : Token.read text = some (token, rest))
    : ReadsFront Token.read (fun later => token.isNumber → EndsNumber later) text token rest := by
  unfold Token.read at h
  split at h
  case h_10 tail =>
    obtain ⟨⟨pieces, _⟩, hpieces, hout⟩ := Option.map_eq_some_iff.mp h
    obtain ⟨rfl, rfl⟩ := Prod.mk.inj hout
    obtain ⟨front, rfl, hfront⟩ := readPieces_readsFront hpieces
    refine ⟨'"' :: front, rfl, fun later _ => ?_⟩
    simp only [List.cons_append, Token.read, hfront later trivial, Option.map_some]
  case h_11 =>
    obtain ⟨⟨literal, _⟩, hliteral, hout⟩ := Option.map_eq_some_iff.mp h
    obtain ⟨rfl, rfl⟩ := Prod.mk.inj hout
    obtain ⟨front, rfl, hfront⟩ := NumberLiteral.readsFront hliteral
    refine ⟨front, rfl, fun later hlater => ?_⟩
    have hread := hfront later (hlater rfl)
    obtain ⟨first, _, htext, hfirst⟩ := exists_cons_of_read hread
    rw [htext] at hread ⊢
    rw [Token.read_number hfirst, hread]
    rfl
  all_goals
    obtain ⟨htoken, rfl⟩ := Prod.mk.inj (Option.some.inj h)
    refine ⟨token.spell, ?_, fun later _ => ?_⟩ <;>
    · rw [← htoken]
      rfl

/-- A token together with the characters that it is written with. -/
structure Lexeme where
  token : Token
  text : List Char
  reads : Token.read text = some (token, [])

/-- The text is put together from lexemes, in order, with any white space around them. -/
inductive Lexeme.Layout : List Lexeme → List Char → Prop where
  | nil
    : Layout [] []
  | space {c : Char} {lexemes : List Lexeme} {text : List Char} (blank : isSpace c)
      (rest : Layout lexemes text)
    : Layout lexemes (c :: text)
  | lexeme {lexeme : Lexeme} {lexemes : List Lexeme} {text : List Char}
      (rest : Layout lexemes text)
    : Layout (lexeme :: lexemes) (lexeme.text ++ text)

namespace Lexeme

/-- The token of a lexeme is read in front of anything that does not go on with a number. -/
theorem read_append (lexeme : Lexeme) {later : List Char}
    (h : lexeme.token.isNumber → EndsNumber later)
    : Token.read (lexeme.text ++ later) = some (lexeme.token, later) := by
  obtain ⟨front, hfront, hread⟩ := Token.readsFront lexeme.reads
  rw [List.append_nil] at hfront
  rw [hfront]
  exact hread later h

/-- White space may stand in front of what is laid out. -/
theorem Layout.spaces {lexemes : List Lexeme} {text blanks : List Char} (h : Layout lexemes text)
    (hblanks : ∀ c ∈ blanks, isSpace c)
    : Layout lexemes (blanks ++ text) := by
  induction blanks with
  | nil => exact h
  | cons c blanks ih =>
      obtain ⟨hc, hblanks⟩ := List.forall_mem_cons.mp hblanks
      exact .space hc (ih hblanks)

/-- Every text that is taken apart into tokens is laid out from their lexemes, by induction on how
it is taken apart. -/
theorem exists_layout {text : List Char} {tokens : List Token}
    (h : Token.readAll text = some tokens)
    : ∃ lexemes, Layout lexemes text ∧ lexemes.map Lexeme.token = tokens := by
  have hblanks : ∀ text : List Char, ∀ c ∈ text.takeWhile isSpace, isSpace c := by
    intro text
    rw [← List.all_eq_true]
    exact List.all_takeWhile
  fun_induction Token.readAll text generalizing tokens with
  | case1 text hspace =>
      obtain rfl := Option.some.inj h
      refine ⟨[], ?_, rfl⟩
      have hlayout := Layout.nil.spaces (hblanks text)
      rwa [← hspace, List.takeWhile_append_dropWhile] at hlayout
  | case2 => cases h
  | case3 text first rest hspace token after htoken ih =>
      obtain ⟨others, hothers, rfl⟩ := Option.map_eq_some_iff.mp h
      obtain ⟨lexemes, hlexemes, rfl⟩ := ih hothers
      obtain ⟨front, hfront, hread⟩ := Token.readsFront htoken
      have hreads : Token.read front = some (token, []) := by
        have := hread [] (fun _ => endsNumber_nil)
        rwa [List.append_nil] at this
      have hlayout :=
        (@Layout.lexeme ⟨token, front, hreads⟩ _ _ hlexemes).spaces (hblanks text)
      refine ⟨⟨token, front, hreads⟩ :: lexemes, ?_, rfl⟩
      rwa [← hfront, ← hspace, List.takeWhile_append_dropWhile] at hlayout

/-- A text that starts with another token than a number does not go on with a number. -/
theorem endsNumber_of_read {text rest : List Char} {token : Token}
    (h : Token.read text = some (token, rest)) (hn : token.isNumber = false)
    : EndsNumber text := by
  unfold Token.read at h
  split at h
  case h_11 =>
    obtain ⟨_, _, hout⟩ := Option.map_eq_some_iff.mp h
    obtain ⟨rfl, _⟩ := Prod.mk.inj hout
    cases hn
  all_goals simp [EndsNumber, isDigit]

theorem endsNumber_of_isSpace {c : Char} (h : isSpace c) (text : List Char)
    : EndsNumber (c :: text) := by
  simp only [isSpace, Bool.or_eq_true, decide_eq_true_eq] at h
  rcases h with ((rfl | rfl) | rfl) | rfl <;> simp [EndsNumber, isDigit]

/-- What is laid out does not go on with a number unless its first lexeme is one. -/
theorem Layout.endsNumber {lexemes : List Lexeme} {text : List Char} (h : Layout lexemes text)
    (hfirst : ∀ lexeme ∈ lexemes.head?, lexeme.token.isNumber = false)
    : EndsNumber text := by
  cases h with
  | nil => exact endsNumber_nil
  | space blank _ => exact endsNumber_of_isSpace blank _
  | @lexeme lexeme _ text _ =>
      have hn := hfirst lexeme rfl
      have hread := @read_append lexeme text (by simp [hn])
      exact endsNumber_of_read hread hn

/-- No number stands right behind another one. -/
def Apart (tokens : List Token) : Prop :=
  tokens.IsChain (fun token next => token.isNumber → next.isNumber = false)

/-- What is laid out is taken apart into the tokens of its lexemes, by induction on the layout. -/
theorem Layout.readAll {lexemes : List Lexeme} {text : List Char} (h : Layout lexemes text)
    (hapart : Apart (lexemes.map Lexeme.token))
    : Token.readAll text = some (lexemes.map Lexeme.token) := by
  induction h with
  | nil => exact Token.readAll_nil
  | space blank _ ih => rw [Token.readAll_space blank, ih hapart]
  | @lexeme lexeme lexemes text rest ih =>
      have hends : lexeme.token.isNumber → EndsNumber text := by
        intro hnumber
        refine rest.endsNumber (fun next hnext => ?_)
        refine (List.isChain_cons.mp hapart).1 next.token ?_ hnumber
        rw [List.head?_map]
        exact Option.mem_map_of_mem _ hnext
      rw [Token.readAll_of_read (lexeme.read_append hends), ih (List.isChain_cons.mp hapart).2,
        Option.map_some, List.map_cons]

end Lexeme

end SupplyGraph.Json
