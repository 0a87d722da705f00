import SupplyGraph.Proofs.Json.Parts
import SupplyGraph.Proofs.Json.Tokens

/-!
Reading texts of values. The tokens of a value, wherever a value may stand, hand the value to the
innermost open container; so the text of an exact value reads back as the value, and it is refused
only for the depth of its containers.
-/

namespace SupplyGraph.Json

-----------------------------------------------------------------------------------------
-- Containers under construction
-----------------------------------------------------------------------------------------

namespace Assembly

/-- Where the first item of an array may stand, every token but the closing bracket counts as it
does where any value may stand. -/
theorem step_firstItem {token : Token} (h : token ≠ .closeArray) (frames : List Frame)
    : step ⟨frames, .firstItem⟩ token = step ⟨frames, .value⟩ token := by
  cases token with
  | closeArray => exact absurd rfl h
  | _ => rfl

theorem foldlM_cons {assembly next : Assembly} {token : Token} (h : step assembly token = some next)
    (rest : List Token)
    : (token :: rest).foldlM step assembly = rest.foldlM step next := by
  rw [List.foldlM_cons, h, Option.bind_eq_bind, Option.bind_some]

/-- If the tokens of a part, alone or behind a comma, add it to a container, then the tokens of a
row of parts add all of them, by induction on the row. -/
theorem foldlM_separated {α : Type} {row : α → List Token} (frame : List α → Frame)
    (opening : Expectation) {outer : List Frame} {parts : List α}
    (hfirst
      : ∀ part ∈ parts,
          (row part).foldlM step ⟨frame [] :: outer, opening⟩
          = some ⟨frame [part] :: outer, .separator⟩)
    (hlater
      : ∀ part ∈ parts,
          ∀ done,
            (Token.comma :: row part).foldlM step ⟨frame done :: outer, .separator⟩
            = some ⟨frame (part :: done) :: outer, .separator⟩)
    : ∃ expected,
        (expected = opening ∨ expected = .separator)
        ∧ (separated row parts).foldlM step ⟨frame [] :: outer, opening⟩
          = some ⟨frame parts.reverse :: outer, expected⟩ := by
  -- All parts but the first stand behind a comma, so they are added to a container that has parts.
  have hrest
      : ∀ rest : List α,
          (∀ part ∈ rest, part ∈ parts)
          → ∀ done,
              (rest.flatMap (fun later => Token.comma :: row later)).foldlM step
                ⟨frame done :: outer, .separator⟩
              = some ⟨frame (rest.reverse ++ done) :: outer, .separator⟩ := by
    intro rest
    induction rest with
    | nil =>
        intro _ done
        rfl
    | cons part rest ih =>
        intro hsub done
        obtain ⟨hpart, hsub⟩ := List.forall_mem_cons.mp hsub
        rw [List.flatMap_cons, List.foldlM_append, hlater part hpart done, Option.bind_eq_bind,
          Option.bind_some, ih hsub, List.reverse_cons, List.append_assoc, List.singleton_append]
  cases parts with
  | nil => exact ⟨opening, Or.inl rfl, rfl⟩
  | cons part rest =>
      refine ⟨.separator, Or.inr rfl, ?_⟩
      rw [separated, List.foldlM_append, hfirst part List.mem_cons_self, Option.bind_eq_bind,
        Option.bind_some, hrest rest (fun _ hm => List.mem_cons_of_mem _ hm), List.reverse_cons]

/-- A container is delivered when its brackets open and close it around a row of its parts. -/
theorem foldlM_container {α : Type} {row : α → List Token} (frame : List α → Frame)
    (opening : Expectation) {outer : List Frame} {parts : List α} {opener closer : Token}
    {json : Json} (hopen : step ⟨outer, .value⟩ opener = some ⟨frame [] :: outer, opening⟩)
    (hclose
      : ∀ expected,
          expected = opening ∨ expected = .separator
          → step ⟨frame parts.reverse :: outer, expected⟩ closer = deliver json outer)
    (hfirst
      : ∀ part ∈ parts,
          (row part).foldlM step ⟨frame [] :: outer, opening⟩
          = some ⟨frame [part] :: outer, .separator⟩)
    (hlater
      : ∀ part ∈ parts,
          ∀ done,
            (Token.comma :: row part).foldlM step ⟨frame done :: outer, .separator⟩
            = some ⟨frame (part :: done) :: outer, .separator⟩)
    : (opener :: separated row parts ++ [closer]).foldlM step ⟨outer, .value⟩
      = deliver json outer := by
  obtain ⟨expected, hexpected, hparts⟩ := foldlM_separated frame opening hfirst hlater
  rw [List.cons_append, foldlM_cons hopen, List.foldlM_append, hparts, Option.bind_eq_bind,
    Option.bind_some, List.foldlM_cons, hclose expected hexpected]
  simp

end Assembly

-----------------------------------------------------------------------------------------
-- From tokens to values
-----------------------------------------------------------------------------------------

open Assembly (step deliver)

/-- A member whose key stands for a text. -/
def named? (member : Option String × Json) : Option (String × Json) :=
  member.1.map (fun key => (key, member.2))

/-- The object with these members. A key that stands for no text leaves it unreadable. -/
def objectOf (members : List (Option String × Json)) : Json :=
  match members.mapM named? with
  | some members => .object members
  | none => .unreadable

/-- A member as it stands in a row: its key, the tokens of its value, and the value. -/
abbrev MemberRow := Option String × List Token × Json

namespace MemberRow

def tokens (row : MemberRow) : List Token := .string row.1 :: .colon :: row.2.1

def member (row : MemberRow) : Option String × Json := (row.1, row.2.2)

end MemberRow

/-- The tokens form the value: the grammar of values, over tokens. A literal that stands for nothing
forms an unreadable value. -/
inductive Forms : List Token → Json → Prop where
  | null
    : Forms [.null] .null
  | bool (value : Bool)
    : Forms [.bool value] (.bool value)
  | number (value : Option Number)
    : Forms [.number value] (value.elim .unreadable .number)
  | string (value : Option String)
    : Forms [.string value] (value.elim .unreadable .string)
  | array {rows : List (List Token × Json)} (items : ∀ row ∈ rows, Forms row.1 row.2)
    : Forms (.openArray :: separated Prod.fst rows ++ [.closeArray]) (.array (rows.map Prod.snd))
  | object {rows : List MemberRow} (members : ∀ row ∈ rows, Forms row.2.1 row.2.2)
    : Forms (.openObject :: separated MemberRow.tokens rows ++ [.closeObject])
        (objectOf (rows.map MemberRow.member))

theorem mapM_named?_reverse (members : List (Option String × Json))
    : members.reverse.mapM named? = (members.mapM named?).map List.reverse := by
  induction members with
  | nil => rfl
  | cons member rest ih =>
      rw [List.reverse_cons, List.mapM_append, ih, List.mapM_cons]
      cases hn : named? member <;> cases hr : rest.mapM named? <;> simp [hn, hr]

theorem finishObject_reverse (members : List (Option String × Json))
    : Assembly.finishObject members.reverse = objectOf members := by
  change (match members.reverse.mapM named? with
    | some members => Json.object members.reverse
    | none => .unreadable) = _
  rw [mapM_named?_reverse, objectOf]
  cases members.mapM named? with
  | none => rfl
  | some members => exact congrArg Json.object (List.reverse_reverse members)

theorem objectOf_texts (members : List (String × Json))
    : objectOf (members.map (fun member => (some member.1, member.2))) = .object members := by
  have hnamed
      : (members.map (fun member => (some member.1, member.2))).mapM named? = some members := by
    induction members with
    | nil => rfl
    | cons member rest ih => simp [named?, ih]
  rw [objectOf, hnamed]

/-- No value starts with a closing bracket. -/
theorem Forms.exists_cons {tokens : List Token} {json : Json} (h : Forms tokens json)
    : ∃ first rest, tokens = first :: rest ∧ first ≠ .closeArray := by
  cases h with
  | array _ => exact ⟨_, _, rfl, by simp⟩
  | object _ => exact ⟨_, _, rfl, by simp⟩
  | _ => exact ⟨_, _, rfl, by simp⟩

/-- Where the first item of an array may stand, the tokens of a value deliver it as they do where
any value may stand. -/
theorem Forms.foldlM_firstItem {tokens : List Token} {json : Json} (h : Forms tokens json)
    (frames : List Frame)
    : tokens.foldlM step ⟨frames, .firstItem⟩ = tokens.foldlM step ⟨frames, .value⟩ := by
  obtain ⟨first, rest, rfl, hfirst⟩ := h.exists_cons
  rw [List.foldlM_cons, List.foldlM_cons, Assembly.step_firstItem hfirst]

/-- The tokens of a value deliver it, by induction on how they form it. -/
theorem Forms.foldlM_step {tokens : List Token} {json : Json} (h : Forms tokens json)
    (frames : List Frame)
    : tokens.foldlM step ⟨frames, .value⟩ = deliver json frames := by
  induction h generalizing frames with
  | null => simp [step, Assembly.takeValue]
  | bool value => simp [step, Assembly.takeValue]
  | number value => cases value <;> simp [step, Assembly.takeValue]
  | string value => cases value <;> simp [step, Assembly.takeValue]
  | @array rows items ih =>
      refine Assembly.foldlM_container (fun done => .array (done.map Prod.snd)) .firstItem rfl ?_
        ?_ ?_
      · rintro expected (rfl | rfl) <;>
          exact congrArg (deliver · frames) (by rw [List.map_reverse, List.reverse_reverse])
      · intro row hm
        exact ((items row hm).foldlM_firstItem _).trans (ih row hm _)
      · intro row hm done
        exact (Assembly.foldlM_cons rfl _).trans (ih row hm _)
  | @object rows members ih =>
      refine Assembly.foldlM_container (fun done => .object (done.map MemberRow.member)) .firstKey
        rfl ?_ ?_ ?_
      · rintro expected (rfl | rfl) <;>
          exact congrArg (deliver · frames) (by rw [List.map_reverse, finishObject_reverse])
      · intro row hm
        rw [MemberRow.tokens, Assembly.foldlM_cons rfl, Assembly.foldlM_cons rfl]
        exact ih row hm _
      · intro row hm done
        rw [MemberRow.tokens, Assembly.foldlM_cons rfl, Assembly.foldlM_cons rfl,
          Assembly.foldlM_cons rfl]
        exact ih row hm _

/-- The tokens of a value form it, by induction on the value. -/
theorem forms_tokens (json : Json)
    : Forms json.tokens json := by
  induction json using Json.induction with
  | null => exact .null
  | bool value => exact .bool value
  | number value => exact .number (some value)
  | string value => exact .string (some value)
  | unreadable => exact .string none
  | array items ih =>
      have h := @Forms.array (items.map (fun item => (item.tokens, item)))
        (List.forall_mem_map.mpr ih)
      rw [separated_map, List.map_map] at h
      rw [tokens_array]
      simpa [Function.comp_def] using h
  | object members ih =>
      have h := @Forms.object
        (members.map (fun member => (some member.1, member.2.tokens, member.2)))
        (List.forall_mem_map.mpr ih)
      rw [separated_map, List.map_map] at h
      have hobject := objectOf_texts members
      rw [tokens_object, ← hobject]
      exact h

/-- The tokens of a value deliver it. -/
theorem foldlM_step_tokens (json : Json) (frames : List Frame)
    : json.tokens.foldlM step ⟨frames, .value⟩ = deliver json frames :=
  json.forms_tokens.foldlM_step frames

/-- The tokens of a value spell the value. -/
theorem ofTokens?_tokens (json : Json)
    : ofTokens? json.tokens = some json := by
  simp only [ofTokens?, Assembly.start, foldlM_step_tokens, deliver]

-----------------------------------------------------------------------------------------
-- The depth of tokens
-----------------------------------------------------------------------------------------

theorem le_nesting (opened : Nat) (tokens : List Token)
    : opened ≤ nesting opened tokens := by
  fun_induction nesting opened tokens <;> omega

/-- The containers in a row of parts are nested as deep as those of the deepest part. -/
theorem nesting_separated_le_iff {α : Type} (row : α → List Token) (size : α → Nat)
    {parts : List α} {opened limit : Nat}
    (hrow
      : ∀ part ∈ parts,
          ∀ rest,
            nesting opened (row part ++ rest) ≤ limit
            ↔ opened + size part ≤ limit ∧ nesting opened rest ≤ limit)
    (rest : List Token)
    : nesting opened (separated row parts ++ rest) ≤ limit
      ↔ (∀ part ∈ parts, opened + size part ≤ limit) ∧ nesting opened rest ≤ limit := by
  have hlater
      : ∀ later : List α,
          (∀ part ∈ later, part ∈ parts)
          → (nesting opened (later.flatMap (fun part => Token.comma :: row part) ++ rest) ≤ limit
            ↔ (∀ part ∈ later, opened + size part ≤ limit) ∧ nesting opened rest ≤ limit) := by
    intro later
    induction later with
    | nil => simp
    | cons part later ih =>
        intro hsub
        obtain ⟨hpart, hsub⟩ := List.forall_mem_cons.mp hsub
        rw [List.flatMap_cons, List.append_assoc, List.cons_append, nesting, hrow part hpart,
          ih hsub, List.forall_mem_cons, and_assoc]
        all_goals simp
  cases parts with
  | nil => simp [separated]
  | cons part later =>
      rw [separated, List.append_assoc, hrow part List.mem_cons_self,
        hlater later (fun _ hm => List.mem_cons_of_mem _ hm), List.forall_mem_cons, and_assoc]

/-- Brackets around a row of parts open a container, in which the parts are nested. -/
theorem nesting_container_le_iff {α : Type} (row : α → List Token) (size : α → Nat)
    {parts : List α} {opened limit : Nat} {opener closer : Token}
    (hopen
      : ∀ opened rest, nesting opened (opener :: rest) = max opened (nesting (opened + 1) rest))
    (hclose
      : ∀ opened rest, nesting opened (closer :: rest) = max opened (nesting (opened - 1) rest))
    (hrow
      : ∀ part ∈ parts,
          ∀ rest,
            nesting (opened + 1) (row part ++ rest) ≤ limit
            ↔ opened + 1 + size part ≤ limit ∧ nesting (opened + 1) rest ≤ limit)
    (rest : List Token)
    : nesting opened (opener :: separated row parts ++ [closer] ++ rest) ≤ limit
      ↔ (opened + 1 ≤ limit ∧ ∀ part ∈ parts, opened + 1 + size part ≤ limit)
        ∧ nesting opened rest ≤ limit := by
  rw [List.append_assoc, List.cons_append, hopen, Nat.max_le, List.singleton_append,
    nesting_separated_le_iff row size hrow, hclose, Nat.add_sub_cancel, Nat.max_le]
  constructor
  · rintro ⟨_, hall, hopened, hrest⟩
    exact ⟨⟨hopened, hall⟩, hrest⟩
  · rintro ⟨⟨hopened, hall⟩, hrest⟩
    exact ⟨Nat.le_of_succ_le hopened, hall, hopened, hrest⟩

/-- The containers of a value are nested as deep in its tokens as in the value, by induction on the
value. -/
theorem nesting_tokens_le_iff (json : Json) (opened limit : Nat) (rest : List Token)
    : nesting opened (json.tokens ++ rest) ≤ limit
      ↔ opened + json.depth ≤ limit ∧ nesting opened rest ≤ limit := by
  have hatom
      : ∀ opened rest,
          nesting opened rest ≤ limit ↔ opened + 0 ≤ limit ∧ nesting opened rest ≤ limit := by
    intro opened rest
    have := le_nesting opened rest
    omega
  induction json using Json.induction generalizing opened rest with
  | null => exact hatom opened rest
  | bool value => exact hatom opened rest
  | number value => exact hatom opened rest
  | string value => exact hatom opened rest
  | unreadable => exact hatom opened rest
  | array items ih =>
      rw [tokens_array, depth_array_le_iff]
      exact nesting_container_le_iff tokens depth (fun _ _ => rfl) (fun _ _ => rfl)
        (fun item hm rest => ih item hm _ rest) rest
  | object members ih =>
      rw [tokens_object, depth_object_le_iff]
      exact nesting_container_le_iff memberRow (fun member => member.2.depth) (fun _ _ => rfl)
        (fun _ _ => rfl) (fun member hm rest => ih member hm _ rest) rest

/-- The tokens of a value are nested too deep exactly when the value is. -/
theorem nesting_tokens_le_depthLimit_iff (json : Json)
    : nesting 0 json.tokens ≤ depthLimit ↔ json.depth ≤ depthLimit := by
  have h := json.nesting_tokens_le_iff 0 depthLimit []
  rw [List.append_nil, nesting, Nat.zero_add] at h
  rw [h]
  exact and_iff_left (Nat.zero_le _)

-----------------------------------------------------------------------------------------
-- From texts to values
-----------------------------------------------------------------------------------------

theorem IsExact.isReadable {json : Json} (h : json.IsExact)
    : json.isReadable := by
  induction h with
  | array _ ih => exact (isReadable_array _).mpr ih
  | object _ ih => exact (isReadable_object _).mpr ih
  | _ => rfl

/-- The text of an exact value reads back as the value. -/
theorem IsExact.parse?_render {json : Json} (h : json.IsExact)
    : parse? json.render = some json := by
  simp only [parse?, render, String.toList_ofList, h.readAll_compact, Option.bind_eq_bind,
    Option.bind_some, ofTokens?_tokens]

/-- The text of an exact value is read as a whole unless the containers are nested too deep. -/
theorem IsExact.read?_render {json : Json} (h : json.IsExact)
    : read? json.render = if json.depth ≤ depthLimit then some json else none := by
  simp only [read?, render, String.toList_ofList, h.readAll_compact, Option.bind_eq_bind,
    Option.bind_some, ofTokens?_tokens, h.isReadable, Bool.and_true, decide_eq_true_eq,
    nesting_tokens_le_depthLimit_iff, Option.pure_def]

end SupplyGraph.Json
