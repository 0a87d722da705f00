import SupplyGraph.Proofs.Fault.Paths
import SupplyGraph.Proofs.Json.Canonical

/-!
Indented texts. The white space of an indented text stands between tokens, where it is passed over;
so an exact value is read back from it. Values are printed in canonical form, which is as good as
the value for following a path and for nesting.
-/

namespace SupplyGraph.Json

-----------------------------------------------------------------------------------------
-- Texts with white space
-----------------------------------------------------------------------------------------

/-- The text is put together from the texts of the tokens and from white space in front of them, so
that no number runs on. -/
inductive Spells : List Char → List Token → Prop where
  | nil
    : Spells [] []
  | space {c : Char} {text : List Char} {tokens : List Token} (blank : isSpace c)
      (rest : Spells text tokens)
    : Spells (c :: text) tokens
  | token {token : Token} {text : List Char} {tokens : List Token}
      (ends : token.isNumber → EndsNumber text) (rest : Spells text tokens)
    : Spells (token.spell ++ text) (token :: tokens)

/-- Behind a token that is no number, anything may follow. -/
theorem Spells.mark {token : Token} (h : token.isNumber = false) {text : List Char}
    {tokens : List Token} (rest : Spells text tokens)
    : Spells (token.spell ++ text) (token :: tokens) :=
  .token (by simp [h]) rest

theorem Token.readAll_space {c : Char} (h : isSpace c) (text : List Char)
    : Token.readAll (c :: text) = Token.readAll text := by
  rw [Token.readAll, Token.readAll, List.dropWhile_cons, if_pos h]

/-- The tokens are read from a text that spells them, by induction on the evidence. -/
theorem Spells.readAll {text : List Char} {tokens : List Token} (h : Spells text tokens)
    (hexact : ∀ token ∈ tokens, token.isExact)
    : Token.readAll text = some tokens := by
  induction h with
  | nil => exact Token.readAll_nil
  | space blank _ ih => rw [Token.readAll_space blank, ih hexact]
  | token ends _ ih =>
      obtain ⟨htoken, htokens⟩ := List.forall_mem_cons.mp hexact
      rw [Token.readAll_of_read (Token.read_spell htoken ends), ih htokens, Option.map_some]

/-- The text spells the tokens in front of whatever does not go on with a number. -/
def Leads (text : List Char) (tokens : List Token) : Prop :=
  ∀ rest later,
    EndsNumber rest
    → Spells rest later
    → Spells (text ++ rest) (tokens ++ later)

theorem leads_token (token : Token)
    : Leads token.spell [token] :=
  fun _ _ hends hrest => .token (fun _ => hends) hrest

/-- The start of a line is nothing but white space. -/
theorem Spells.line {text : List Char} {tokens : List Token} (h : Spells text tokens) (depth : Nat)
    : Spells (lineStart depth ++ text) tokens := by
  have hblanks : ∀ count, Spells (List.replicate count ' ' ++ text) tokens := by
    intro count
    induction count with
    | zero => exact h
    | succ count ih => exact .space rfl ih
  exact .space rfl (hblanks (2 * depth))

theorem endsNumber_line (depth : Nat) (text : List Char)
    : EndsNumber (lineStart depth ++ text) := by
  simp [EndsNumber, lineStart, isDigit]

-----------------------------------------------------------------------------------------
-- Lines
-----------------------------------------------------------------------------------------

section Lines

variable {α : Type} {text : α → List Char} {row : α → List Token} {parts : List α} {depth : Nat}

/-- The lines of the parts behind the first one. A comma ends the line before each of them. -/
def laterLines (text : α → List Char) (depth : Nat) (parts : List α) : List Char :=
  parts.flatMap (fun part => ',' :: lineStart depth ++ text part)

theorem endsNumber_laterLines {rest : List Char} (h : EndsNumber rest)
    : EndsNumber (laterLines text depth parts ++ rest) := by
  cases parts with
  | nil => exact h
  | cons part later => simp [EndsNumber, laterLines, isDigit]

/-- Lines spell the tokens of their parts behind commas, by induction on the parts. -/
theorem leads_laterLines (depth : Nat) (h : ∀ part ∈ parts, Leads (text part) (row part))
    : Leads (laterLines text depth parts) (parts.flatMap (fun part => .comma :: row part)) := by
  intro rest later hends hrest
  induction parts with
  | nil => exact hrest
  | cons part parts ih =>
      obtain ⟨hpart, hparts⟩ := List.forall_mem_cons.mp h
      have hlines := hpart _ _ (endsNumber_laterLines hends) (ih hparts)
      simp only [laterLines, List.flatMap_cons, List.append_assoc, List.cons_append]
      exact @Spells.mark .comma rfl _ _ (hlines.line depth)

/-- Parts on lines of their own between brackets spell a container. -/
theorem leads_container {opener closer : Token} {part : α}
    (hopener : opener.isNumber = false) (hpart : Leads (text part) (row part))
    (hparts : ∀ part ∈ parts, Leads (text part) (row part))
    : Leads
        (opener.spell ++ lineStart (depth + 1) ++ text part ++ laterLines text (depth + 1) parts
          ++ lineStart depth ++ closer.spell)
        (opener :: separated row (part :: parts) ++ [closer]) := by
  intro rest later hends hrest
  have hcloser := (leads_token closer rest later hends hrest).line depth
  have hlater := leads_laterLines (depth + 1) hparts _ _ (endsNumber_line depth _) hcloser
  have hfirst := hpart _ _ (endsNumber_laterLines (endsNumber_line depth _)) hlater
  simp only [separated, List.append_assoc, List.cons_append]
  exact .mark hopener (hfirst.line (depth + 1))

end Lines

-----------------------------------------------------------------------------------------
-- Indented values
-----------------------------------------------------------------------------------------

/-- The text of a member on its line. -/
def indentedMember (depth : Nat) (member : String × Json) : List Char :=
  quote member.1.toList ++ ':' :: ' ' :: indented depth member.2

theorem indentedItems_eq_laterLines (depth : Nat) (items : List Json)
    : indentedItems depth items = laterLines (indented depth) depth items := by
  induction items with
  | nil => rfl
  | cons item rest ih => rw [indentedItems, ih, laterLines, laterLines, List.flatMap_cons]

theorem indentedMembers_eq_laterLines (depth : Nat) (members : List (String × Json))
    : indentedMembers depth members = laterLines (indentedMember depth) depth members := by
  induction members with
  | nil => rfl
  | cons member rest ih =>
      rw [indentedMembers, ih, laterLines, laterLines, List.flatMap_cons, indentedMember]
      simp only [List.append_assoc, List.cons_append, List.nil_append]

theorem leads_indentedMember {depth : Nat} {member : String × Json}
    (h : Leads (indented depth member.2) member.2.tokens)
    : Leads (indentedMember depth member) (memberRow member) := by
  intro rest later hends hrest
  have hvalue : Spells (' ' :: (indented depth member.2 ++ rest)) (member.2.tokens ++ later) :=
    .space rfl (h rest later hends hrest)
  have hcolon := @Spells.mark .colon rfl _ _ hvalue
  have hkey := @Spells.mark (.string (some member.1)) rfl _ _ hcolon
  simp only [indentedMember, memberRow, List.append_assoc, List.cons_append]
  exact hkey

/-- The indented text of a value spells its tokens, by induction on the value. -/
theorem leads_indented (json : Json) (depth : Nat)
    : Leads (indented depth json) json.tokens := by
  have hatom (token : Token) : Leads ([token].flatMap Token.spell) [token] := by
    rw [List.flatMap_singleton]
    exact leads_token token
  have hopener {opener closer : Token} (hopen : opener.isNumber = false)
      : Leads (opener.spell ++ closer.spell) [opener, closer] := by
    intro rest later hends hrest
    rw [List.append_assoc]
    exact .mark hopen (leads_token closer rest later hends hrest)
  induction json using Json.induction generalizing depth with
  | null => exact hatom .null
  | bool value => exact hatom (.bool value)
  | number value => exact hatom (.number (some value))
  | string value => exact hatom (.string (some value))
  | unreadable => exact hatom (.string none)
  | array items ih =>
      rw [tokens_array]
      cases items with
      | nil => exact @hopener .openArray .closeArray rfl
      | cons item items =>
          obtain ⟨hitem, hitems⟩ := List.forall_mem_cons.mp ih
          rw [indented, indentedItems_eq_laterLines]
          exact @leads_container _ _ _ _ _ .openArray .closeArray _ rfl (hitem (depth + 1))
            (fun later hm => hitems later hm (depth + 1))
  | object members ih =>
      rw [tokens_object]
      cases members with
      | nil => exact @hopener .openObject .closeObject rfl
      | cons member members =>
          obtain ⟨hmember, hmembers⟩ := List.forall_mem_cons.mp ih
          have htext
              : indented depth (.object (member :: members))
                = Token.openObject.spell ++ lineStart (depth + 1)
                  ++ indentedMember (depth + 1) member
                  ++ laterLines (indentedMember (depth + 1)) (depth + 1) members
                  ++ lineStart depth ++ Token.closeObject.spell := by
            rw [indented, indentedMembers_eq_laterLines, indentedMember]
            simp only [Token.spell, List.append_assoc, List.cons_append, List.nil_append]
          rw [htext]
          exact leads_container rfl (leads_indentedMember (hmember (depth + 1)))
            (fun later hm => leads_indentedMember (hmembers later hm (depth + 1)))

/-- The indented text of an exact value is read as the value unless the containers are nested too
deep. -/
theorem IsExact.read?_renderIndented {json : Json} (h : json.IsExact)
    : read? json.renderIndented = if json.depth ≤ depthLimit then some json else none := by
  have hspells := json.leads_indented 0 [] [] endsNumber_nil .nil
  rw [List.append_nil, List.append_nil] at hspells
  simp only [read?, renderIndented, String.toList_ofList, hspells.readAll h.tokens,
    Option.bind_eq_bind, Option.bind_some, ofTokens?_tokens, h.isReadable, Bool.and_true,
    decide_eq_true_eq, nesting_tokens_le_depthLimit_iff, Option.pure_def]

-----------------------------------------------------------------------------------------
-- Printed values
-----------------------------------------------------------------------------------------

/-- Where every key stands once, exactly the members that there are can be found. -/
theorem lookup_eq_some_iff_mem {members : List (String × Json)} (hd : (members.map Prod.fst).Nodup)
    {name : String} {part : Json}
    : members.lookup name = some part ↔ (name, part) ∈ members := by
  induction members with
  | nil => simp
  | cons member rest ih =>
      obtain ⟨key, stored⟩ := member
      obtain ⟨hnew, hrest⟩ := List.nodup_cons.mp hd
      by_cases hname : name = key
      · subst hname
        have hnot : (name, part) ∉ rest := fun hm => hnew (List.mem_map.mpr ⟨_, hm, rfl⟩)
        simp [hnot, eq_comm]
      · have hother : (name == key) = false := beq_eq_false_iff_ne.mpr hname
        simp [List.lookup_cons, hother, hname, ih hrest]

/-- The members of a canonical object are those of the object in canonical form. -/
theorem follow?_canonical {members : List (String × Json)} (hd : (members.map Prod.fst).Nodup)
    (name : String)
    : (Json.object members).canonical.follow? (.field name)
      = ((Json.object members).follow? (.field name)).map canonical := by
  have hentries := SortedMap.perm_ofList (canonicalMember_fst members ▸ hd)
  apply Option.ext
  intro part
  rw [canonical_object, follow?, follow?, lookup_eq_some_iff_mem (SortedMap.nodup_keys _),
    hentries.mem_iff, List.mem_map, Option.map_eq_some_iff]
  simp only [lookup_eq_some_iff_mem hd, canonicalMember, Prod.mk.injEq]
  constructor
  · rintro ⟨member, hm, rfl, rfl⟩
    exact ⟨member.2, hm, rfl⟩
  · rintro ⟨source, hm, rfl⟩
    exact ⟨(name, source), hm, rfl, rfl⟩

/-- The step to a member of a canonical object leads to the member in canonical form. -/
theorem walk?_canonical {members : List (String × Json)} {name : String} {part : Json}
    (hd : (members.map Prod.fst).Nodup) (hpart : members.lookup name = some part)
    (path : FieldPath)
    : (Json.object members).canonical.walk? (.field name :: path) = part.canonical.walk? path := by
  rw [walk?_cons, follow?_canonical hd, follow?, hpart, Option.map_some,
    Option.bind_some]

/-- The canonical form is nested no deeper, by induction on the value. -/
theorem depth_canonical_le {json : Json} {limit : Nat} (h : json.depth ≤ limit)
    : json.canonical.depth ≤ limit := by
  induction json using Json.induction generalizing limit with
  | null => exact h
  | bool value => exact h
  | number value => exact h
  | string value => exact h
  | unreadable => exact h
  | array items ih =>
      cases limit with
      | zero => exact absurd h (Nat.not_succ_le_zero _)
      | succ limit =>
          rw [canonical_array, depth_list_le_succ_iff]
          exact fun item hm => ih item hm (depth_array_le_succ_iff.mp h item hm)
  | object members ih =>
      cases limit with
      | zero => exact absurd h (Nat.not_succ_le_zero _)
      | succ limit =>
          rw [canonical_object, depth_object_le_succ_iff]
          intro member hm
          obtain ⟨source, hs, rfl⟩ := exists_of_mem_canonical hm
          exact ih source hs (depth_object_le_succ_iff.mp h source hs)

/-- What is printed of an exact value reads back as its canonical form, unless its containers are
nested too deep. -/
theorem IsExact.read?_printed {json : Json} (h : json.IsExact) (hdepth : json.depth ≤ depthLimit)
    : read? json.canonical.renderIndented = some json.canonical := by
  rw [h.canonical.read?_renderIndented, if_pos (depth_canonical_le hdepth)]

end SupplyGraph.Json
