import SupplyGraph.Proofs.Json.Lexemes

/-!
The grammar of texts. A text is read as a value exactly if lexemes that form the value are laid out
in it. The containers that are open while tokens are taken in tell what the tokens so far have been,
and this carries over from one token to the next.
-/

namespace SupplyGraph.Json

open Assembly (step deliver takeValue)

-----------------------------------------------------------------------------------------
-- Rows under construction
-----------------------------------------------------------------------------------------

section Rows

variable {α : Type} (row : α → List Token)

/-- The tokens of parts that others come behind: each of them ends with a comma. -/
def followed (parts : List α) : List Token := parts.flatMap (fun part => row part ++ [.comma])

theorem followed_concat (parts : List α) (part : α)
    : followed row (parts ++ [part]) = followed row parts ++ (row part ++ [.comma]) := by
  simp [followed]

/-- A row with one part more goes on behind a comma, if it is not the first. -/
theorem separated_concat (parts : List α) (part : α)
    : separated row (parts ++ [part]) = followed row parts ++ row part := by
  cases parts with
  | nil => simp [separated, followed]
  | cons first rest =>
      simp only [List.cons_append, separated, followed, List.flatMap_append, List.flatMap_cons,
        List.flatMap_nil, List.append_nil, List.append_assoc]
      congr 1
      induction rest with
      | nil => rfl
      | cons next rest ih => simp [ih]

/-- A comma behind a row makes its parts ones that others come behind. -/
theorem separated_comma {parts : List α} (h : parts ≠ [])
    : separated row parts ++ [.comma] = followed row parts := by
  rw [← List.dropLast_append_getLast h, separated_concat, followed_concat, List.append_assoc]

end Rows

-----------------------------------------------------------------------------------------
-- From values to their tokens
-----------------------------------------------------------------------------------------

/-- A value may stand behind the tokens, inside the containers that they have opened. -/
inductive Awaits : List Frame → List Token → Prop where
  | document
    : Awaits [] []
  | item {outer : List Frame} {front : List Token} {rows : List (List Token × Json)}
      (around : Awaits outer front) (items : ∀ row ∈ rows, Forms row.1 row.2)
    : Awaits (.array (rows.map Prod.snd).reverse :: outer)
        (front ++ .openArray :: followed Prod.fst rows)
  | member {outer : List Frame} {front : List Token} {rows : List MemberRow}
      {key : Option String} (around : Awaits outer front)
      (members : ∀ row ∈ rows, Forms row.2.1 row.2.2)
    : Awaits (.member (rows.map MemberRow.member).reverse key :: outer)
        (front ++ (.openObject :: followed MemberRow.tokens rows ++ [.string key, .colon]))

/-- The tokens have come to this assembly. -/
inductive Reached : Assembly → List Token → Prop where
  | value {frames : List Frame} {tokens : List Token} (awaits : Awaits frames tokens)
    : Reached ⟨frames, .value⟩ tokens
  | firstItem {outer : List Frame} {front : List Token} (around : Awaits outer front)
    : Reached ⟨.array [] :: outer, .firstItem⟩ (front ++ [.openArray])
  | firstKey {outer : List Frame} {front : List Token} (around : Awaits outer front)
    : Reached ⟨.object [] :: outer, .firstKey⟩ (front ++ [.openObject])
  | key {outer : List Frame} {front : List Token} {rows : List MemberRow}
      (around : Awaits outer front) (members : ∀ row ∈ rows, Forms row.2.1 row.2.2)
    : Reached ⟨.object (rows.map MemberRow.member).reverse :: outer, .key⟩
        (front ++ .openObject :: followed MemberRow.tokens rows)
  | colon {outer : List Frame} {front : List Token} {rows : List MemberRow}
      {key : Option String} (around : Awaits outer front)
      (members : ∀ row ∈ rows, Forms row.2.1 row.2.2)
    : Reached ⟨.object (rows.map MemberRow.member).reverse :: outer, .colon key⟩
        (front ++ (.openObject :: followed MemberRow.tokens rows ++ [.string key]))
  | items {outer : List Frame} {front : List Token} {rows : List (List Token × Json)}
      (around : Awaits outer front) (items : ∀ row ∈ rows, Forms row.1 row.2)
      (nonempty : rows ≠ [])
    : Reached ⟨.array (rows.map Prod.snd).reverse :: outer, .separator⟩
        (front ++ .openArray :: separated Prod.fst rows)
  | members {outer : List Frame} {front : List Token} {rows : List MemberRow}
      (around : Awaits outer front) (members : ∀ row ∈ rows, Forms row.2.1 row.2.2)
      (nonempty : rows ≠ [])
    : Reached ⟨.object (rows.map MemberRow.member).reverse :: outer, .separator⟩
        (front ++ .openObject :: separated MemberRow.tokens rows)
  | nothing {tokens : List Token} {json : Json} (forms : Forms tokens json)
    : Reached ⟨[], .nothing json⟩ tokens

section Steps

variable {frames outer : List Frame} {front : List Token} {next : Assembly}

/-- A value that is formed where one may stand is the next part of the container around it. -/
theorem Awaits.deliver (h : Awaits frames front) {tokens : List Token} {json : Json}
    (hforms : Forms tokens json) (hnext : Assembly.deliver json frames = some next)
    : Reached next (front ++ tokens) := by
  cases h with
  | document =>
      obtain rfl := Option.some.inj hnext
      exact .nothing hforms
  | @item outer front rows around items =>
      obtain rfl := Option.some.inj hnext
      have hreached := @Reached.items _ _ (rows ++ [(tokens, json)]) around
        (List.forall_mem_append.mpr ⟨items, by simpa using hforms⟩) (by simp)
      simpa [separated_concat] using hreached
  | @member outer front rows key around members =>
      obtain rfl := Option.some.inj hnext
      have hreached := @Reached.members _ _ (rows ++ [(key, tokens, json)]) around
        (List.forall_mem_append.mpr ⟨members, by simpa using hforms⟩) (by simp)
      simpa [separated_concat, MemberRow.tokens, MemberRow.member] using hreached

/-- The first token of a value, where one may stand, is the whole value or opens a container. -/
theorem Awaits.takeValue (h : Awaits frames front) {token : Token}
    (hnext : Assembly.takeValue frames token = some next)
    : Reached next (front ++ [token]) := by
  cases token with
  | openArray =>
      obtain rfl := Option.some.inj hnext
      exact .firstItem h
  | openObject =>
      obtain rfl := Option.some.inj hnext
      exact .firstKey h
  | null => exact h.deliver .null hnext
  | bool value => exact h.deliver (.bool value) hnext
  | number value => cases value <;> exact h.deliver (.number _) hnext
  | string value => cases value <;> exact h.deliver (.string _) hnext
  | _ => cases hnext

theorem Awaits.closeArray (around : Awaits outer front) {rows : List (List Token × Json)}
    (items : ∀ row ∈ rows, Forms row.1 row.2)
    (hnext
      : Assembly.deliver (.array (rows.map Prod.snd).reverse.reverse) outer = some next)
    : Reached next (front ++ (.openArray :: separated Prod.fst rows ++ [.closeArray])) := by
  rw [List.reverse_reverse] at hnext
  exact around.deliver (.array items) hnext

theorem Awaits.closeObject (around : Awaits outer front) {rows : List MemberRow}
    (members : ∀ row ∈ rows, Forms row.2.1 row.2.2)
    (hnext
      : Assembly.deliver (Assembly.finishObject (rows.map MemberRow.member).reverse) outer
        = some next)
    : Reached next
        (front ++ (.openObject :: separated MemberRow.tokens rows ++ [.closeObject])) := by
  rw [finishObject_reverse] at hnext
  exact around.deliver (.object members) hnext

/-- The next token comes to what it is taken in to, by cases on what may come next. -/
theorem Reached.step {assembly : Assembly} {tokens : List Token} (h : Reached assembly tokens)
    {token : Token} (hnext : Assembly.step assembly token = some next)
    : Reached next (tokens ++ [token]) := by
  cases h with
  | value awaits => exact awaits.takeValue hnext
  | @firstItem outer front around =>
      have hnone : ∀ row ∈ ([] : List (List Token × Json)), Forms row.1 row.2 := by simp
      by_cases htoken : token = .closeArray
      · subst htoken
        rw [List.append_assoc]
        exact around.closeArray hnone hnext
      · rw [Assembly.step_firstItem htoken] at hnext
        exact (Awaits.item around hnone).takeValue hnext
  | @firstKey outer front around =>
      have hnone : ∀ row ∈ ([] : List MemberRow), Forms row.2.1 row.2.2 := by simp
      rw [List.append_assoc]
      cases token with
      | closeObject => exact around.closeObject hnone hnext
      | string key =>
          obtain rfl := Option.some.inj hnext
          exact .colon around hnone
      | _ => cases hnext
  | @key outer front rows around members =>
      rw [List.append_assoc]
      cases token with
      | string key =>
          obtain rfl := Option.some.inj hnext
          exact .colon around members
      | _ => cases hnext
  | @colon outer front rows key around members =>
      cases token with
      | colon =>
          obtain rfl := Option.some.inj hnext
          have hreached := Reached.value (@Awaits.member _ _ _ key around members)
          simpa using hreached
      | _ => cases hnext
  | @items outer front rows around items nonempty =>
      rw [List.append_assoc, List.cons_append]
      cases token with
      | comma =>
          obtain rfl := Option.some.inj hnext
          rw [separated_comma _ nonempty]
          exact .value (.item around items)
      | closeArray => exact around.closeArray items hnext
      | _ => cases hnext
  | @members outer front rows around members nonempty =>
      rw [List.append_assoc, List.cons_append]
      cases token with
      | comma =>
          obtain rfl := Option.some.inj hnext
          rw [separated_comma _ nonempty]
          exact .key around members
      | closeObject => exact around.closeObject members hnext
      | _ => cases hnext
  | nothing forms => cases token <;> cases hnext

end Steps

/-- All tokens come to what they are taken in to, by induction on the tokens that are left. -/
theorem Reached.foldlM {assembly next : Assembly} {before tokens : List Token}
    (h : Reached assembly before) (hnext : tokens.foldlM Assembly.step assembly = some next)
    : Reached next (before ++ tokens) := by
  induction tokens generalizing assembly before with
  | nil =>
      obtain rfl := Option.some.inj hnext
      rwa [List.append_nil]
  | cons token rest ih =>
      rw [List.foldlM_cons, Option.bind_eq_bind, Option.bind_eq_some_iff] at hnext
      obtain ⟨middle, hstep, hrest⟩ := hnext
      have hreached := ih (h.step hstep) hrest
      rwa [List.append_assoc, List.singleton_append] at hreached

/-- Tokens are read as a value exactly if they form it. -/
theorem ofTokens?_eq_some_iff {tokens : List Token} {json : Json}
    : ofTokens? tokens = some json ↔ Forms tokens json := by
  constructor
  · intro h
    rw [ofTokens?] at h
    split at h
    next found hrun =>
      obtain rfl := Option.some.inj h
      have hreached := (Reached.value .document).foldlM hrun
      rw [List.nil_append] at hreached
      cases hreached with
      | nothing forms => exact forms
    next => cases h
  · intro h
    rw [ofTokens?, Assembly.start, h.foldlM_step]
    rfl

-----------------------------------------------------------------------------------------
-- From texts to values
-----------------------------------------------------------------------------------------

/-- Behind a finished value a container goes on or ends. -/
theorem expected_of_deliver {json : Json} {frames : List Frame} {next : Assembly}
    (h : deliver json frames = some next)
    : next.expected = .separator ∨ next.expected = .nothing json := by
  cases frames with
  | nil =>
      obtain rfl := Option.some.inj h
      exact .inr rfl
  | cons frame outer =>
      cases frame with
      | array _ =>
          obtain rfl := Option.some.inj h
          exact .inl rfl
      | object _ => cases h
      | member _ _ =>
          obtain rfl := Option.some.inj h
          exact .inl rfl

/-- A number is a finished value wherever it is taken in. -/
theorem exists_deliver_of_step_number {assembly next : Assembly} {value : Option Number}
    (h : step assembly (.number value) = some next)
    : ∃ json, deliver json assembly.frames = some next := by
  have htake : takeValue assembly.frames (.number value) = some next := by
    obtain ⟨frames, expected⟩ := assembly
    cases expected with
    | value => exact h
    | firstItem => exact h
    | _ => simp [step] at h
  cases value with
  | none => exact ⟨_, htake⟩
  | some value => exact ⟨_, htake⟩

/-- Behind a number no other one is taken in. -/
theorem isNumber_of_steps {assembly middle next : Assembly} {token later : Token}
    (hmiddle : step assembly token = some middle) (hnext : step middle later = some next)
    (h : token.isNumber)
    : later.isNumber = false := by
  cases token with
  | number value =>
      obtain ⟨_, hdeliver⟩ := exists_deliver_of_step_number hmiddle
      obtain ⟨frames, expected⟩ := middle
      cases later with
      | number other =>
          rcases expected_of_deliver hdeliver with rfl | rfl <;> simp [step] at hnext
      | _ => rfl
  | _ => cases h

/-- No number stands right behind another one in tokens that are taken in, by induction on the
tokens. -/
theorem apart_of_foldlM {tokens : List Token} {assembly last : Assembly}
    (h : tokens.foldlM step assembly = some last)
    : Lexeme.Apart tokens := by
  induction tokens generalizing assembly with
  | nil => exact .nil
  | cons token rest ih =>
      rw [List.foldlM_cons, Option.bind_eq_bind, Option.bind_eq_some_iff] at h
      obtain ⟨middle, hmiddle, hrest⟩ := h
      refine List.isChain_cons.mpr ⟨fun later hlater hnumber => ?_, ih hrest⟩
      cases rest with
      | nil => cases hlater
      | cons next rest =>
          obtain rfl := Option.some.inj hlater
          rw [List.foldlM_cons, Option.bind_eq_bind, Option.bind_eq_some_iff] at hrest
          obtain ⟨_, hnext, _⟩ := hrest
          exact isNumber_of_steps hmiddle hnext hnumber

/-- The text writes the value: lexemes that form it are laid out in the text. -/
def Writes (text : String) (json : Json) : Prop :=
  ∃ lexemes,
    Lexeme.Layout lexemes text.toList ∧ Forms (lexemes.map Lexeme.token) json

/-- A text is read as a value exactly if it writes the value. -/
theorem parse?_eq_some_iff {text : String} {json : Json}
    : parse? text = some json ↔ Writes text json := by
  rw [parse?, Option.bind_eq_bind, Option.bind_eq_some_iff]
  constructor
  · intro h
    obtain ⟨tokens, hread, hforms⟩ := h
    obtain ⟨lexemes, hlayout, rfl⟩ := Lexeme.exists_layout hread
    exact ⟨lexemes, hlayout, ofTokens?_eq_some_iff.mp hforms⟩
  · intro h
    obtain ⟨lexemes, hlayout, hforms⟩ := h
    have happart := apart_of_foldlM (hforms.foldlM_step [])
    exact ⟨_, hlayout.readAll happart, ofTokens?_eq_some_iff.mpr hforms⟩

end SupplyGraph.Json
