import Mathlib.Logic.Relation
import SupplyGraph.Proofs.Json.Grammar
import SupplyGraph.Proofs.Template.Schema

/-!
Presentation. A document does not depend on how its records are presented: on the order of members,
on members that no record has, on members that are written though they have their defaults, and on
white space. What a record cannot do without is the class of an entry, and no member may be
repeated.
-/

namespace SupplyGraph.Template

-----------------------------------------------------------------------------------------
-- Other presentations
-----------------------------------------------------------------------------------------

/-- The members of a record in another presentation. -/
inductive Restates (type : RecordType) : List (String × Json) → List (String × Json) → Prop where
  | reorder {members others : List (String × Json)} (perm : members.Perm others)
    : Restates type members others
  | insert {front back : List (String × Json)} {name : String} (unknown : name ∉ type.names)
      (value : Json)
    : Restates type (front ++ back) (front ++ (name, value) :: back)
  | leaveOut {front back : List (String × Json)} {field : Field} (known : field ∈ type.fields)
      {value : Json} (default : field.default? = some value)
    : Restates type (front ++ (field.name, value) :: back) (front ++ back)

/-- The members of a record that is none any more: the class of an entry is left out, or a member
that the record has is repeated. -/
inductive Spoils : RecordType → List (String × Json) → List (String × Json) → Prop where
  | leaveOut {front back : List (String × Json)} {value : Json}
    : Spoils .entry (front ++ ("templateClass", value) :: back) (front ++ back)
  | twice {type : RecordType} {front back : List (String × Json)} {name : String}
      (known : name ∈ type.names) (present : name ∈ (front ++ back).map Prod.fst) (value : Json)
    : Spoils type (front ++ back) (front ++ (name, value) :: back)

/-- The members of one object are changed that stands for a record, anywhere inside a value that
stands for something of the shape. An array may stand for a record by the values of its members. -/
inductive Within
    (change : RecordType → List (String × Json) → List (String × Json) → Prop)
    : Shape → Json → Json → Prop where
  | here {type : RecordType} {members others : List (String × Json)}
      (changed : change type members others)
    : Within change (.record type) (.object members) (.object others)
  | member {type : RecordType} {front back : List (String × Json)} {field : Field}
      {value other : Json} (known : field ∈ type.fields)
      (inside : Within change field.shape value other)
    : Within change (.record type) (.object (front ++ (field.name, value) :: back))
        (.object (front ++ (field.name, other) :: back))
  | place {type : RecordType} {front back : List Json} {field : Field} {value other : Json}
      (known : type.fields[front.length]? = some field)
      (inside : Within change field.shape value other)
    : Within change (.record type) (.array (front ++ value :: back))
        (.array (front ++ other :: back))
  | item {type : RecordType} {front back : List Json} {value other : Json}
      (inside : Within change (.record type) value other)
    : Within change (.records type) (.array (front ++ value :: back))
        (.array (front ++ other :: back))

-----------------------------------------------------------------------------------------
-- Members looked up
-----------------------------------------------------------------------------------------

section Lookup

variable {front back : Members Json} {name other : String} {value : Json}

theorem find?_around_of_ne (h : other ≠ name)
    : Members.find? (front ++ (name, value) :: back) other
      = Members.find? (front ++ back) other := by
  have hne : (other == name) = false := beq_eq_false_iff_ne.mpr h
  simp only [Members.find?, List.lookup_append, List.lookup_cons, hne]

theorem find?_around (h : ((front ++ (name, value) :: back).map Prod.fst).Nodup)
    : Members.find? (front ++ (name, value) :: back) name = some value :=
  (Json.lookup_eq_some_iff_mem h).mpr (by simp)

theorem find?_without (h : ((front ++ (name, value) :: back).map Prod.fst).Nodup)
    : Members.find? (front ++ back) name = none := by
  have hkeys : name ∉ (front ++ back).map Prod.fst := by
    rw [List.map_append, List.map_cons] at h
    rw [List.map_append]
    exact (List.nodup_middle.mp h).notMem
  rw [Members.find?, List.lookup_eq_none_iff]
  intro member hm
  refine bne_iff_ne.mpr (fun hname => hkeys ?_)
  rw [hname]
  exact List.mem_map_of_mem hm

end Lookup

/-- The members that a record has. -/
def known (names : List String) (members : Members Json) : Members Json :=
  members.filter (fun member => names.contains member.1)

theorem known?_eq_some_iff {names : List String} {members found : Members Json}
    : Json.known? names members = some found
      ↔ (found.map Prod.fst).Nodup ∧ known names members = found := by
  rw [Json.known?]
  change (if ((known names members).map Prod.fst).Nodup then some (known names members) else none)
    = some found ↔ _
  constructor
  · intro h
    split at h
    next hd =>
      obtain rfl := Option.some.inj h
      exact ⟨hd, rfl⟩
    next => cases h
  · intro h
    obtain ⟨hd, rfl⟩ := h
    exact if_pos hd

theorem members?_array_eq_some_iff {names : List String} {items : List Json} {depth : Nat}
    {found : Members Json}
    : Format.members (depth + 1) names (Json.array items) = some found
      ↔ items.length ≤ names.length ∧ names.zip items = found := by
  change (if 0 ≤ items.length ∧ items.length ≤ names.length then some (names.zip items) else none)
    = some found ↔ _
  simp

section Known

variable {names : List String} {front back : Members Json} {name : String}

theorem known_append (names : List String) (front back : Members Json)
    : known names (front ++ back) = known names front ++ known names back :=
  List.filter_append front back

theorem known_cons (h : name ∈ names) (value : Json) (back : Members Json)
    : known names ((name, value) :: back) = (name, value) :: known names back :=
  List.filter_cons_of_pos (List.contains_iff_mem.mpr h)

theorem known_cons_of_not_mem (h : name ∉ names) (value : Json) (back : Members Json)
    : known names ((name, value) :: back) = known names back :=
  List.filter_cons_of_neg (fun hm => h (List.contains_iff_mem.mp hm))

theorem mem_keys_known {members : Members Json} (h : name ∈ names)
    (hm : name ∈ members.map Prod.fst)
    : name ∈ (known names members).map Prod.fst := by
  obtain ⟨member, hmember, rfl⟩ := List.mem_map.mp hm
  exact List.mem_map_of_mem (List.mem_filter.mpr ⟨hmember, List.contains_iff_mem.mpr h⟩)

/-- The members of a record are found around one that it has. -/
theorem known?_around_iff (h : name ∈ names) {value : Json} {found : Members Json}
    : Json.known? names (front ++ (name, value) :: back) = some found
      ↔ ((known names front ++ (name, value) :: known names back).map Prod.fst).Nodup
        ∧ known names front ++ (name, value) :: known names back = found := by
  rw [known?_eq_some_iff, known_append, known_cons h]
  exact and_congr_left (fun hfound => by rw [hfound])

/-- Without one of its members, a record has the others. -/
theorem known?_without {value : Json}
    (hd : ((known names front ++ (name, value) :: known names back).map Prod.fst).Nodup)
    : Json.known? names (front ++ back) = some (known names front ++ known names back) := by
  refine known?_eq_some_iff.mpr ⟨?_, known_append names front back⟩
  exact hd.sublist (((List.sublist_cons_self _ _).append_left _).map Prod.fst)

/-- The values of members stand for the members in order. -/
theorem zip_around {front back : List Json} (h : names[front.length]? = some name) (value : Json)
    : names.zip (front ++ value :: back)
      = (names.take front.length).zip front
        ++ (name, value) :: (names.drop (front.length + 1)).zip back := by
  obtain ⟨hlt, rfl⟩ := List.getElem?_eq_some_iff.mp h
  have hnames
      : names
        = names.take front.length
          ++ names[front.length] :: names.drop (front.length + 1) := by
    rw [List.getElem_cons_drop, List.take_append_drop]
  have hlength : (names.take front.length).length = front.length := by
    rw [List.length_take, Nat.min_eq_left (Nat.le_of_lt hlt)]
  conv_lhs => rw [hnames]
  rw [List.zip_append hlength, List.zip_cons_cons]

theorem keys_zip_sublist (names : List String) (items : List Json)
    : ((names.zip items).map Prod.fst).Sublist names := by
  induction names generalizing items with
  | nil => exact List.nil_sublist []
  | cons name rest ih =>
      cases items with
      | nil => exact List.nil_sublist (name :: rest)
      | cons item items => exact (ih items).cons_cons name

end Known

namespace RecordType

variable {type : RecordType} (kept : String → Prop)

/-- Two values are decoded alike as records if the members of the second are read like those of the
first wherever these are found. -/
theorem outcome_of_members {json other : Json}
    (h
      : ∀ depth members,
          Format.members (depth + 1) type.names json = some members
          → ∃ others,
              Format.members (depth + 1) type.names other = some others
              ∧ ∀ field ∈ type.fields,
                  Outcome (kept field.name) (field.read depth members) (field.read depth others))
    (depth : Nat)
    : Outcome (∀ field ∈ type.fields, kept field.name) (type.decode depth json)
        (type.decode depth other) := by
  intro value hvalue
  obtain ⟨members, hmembers⟩ := exists_members_of_decode hvalue
  cases depth with
  | zero => cases hmembers
  | succ depth =>
      obtain ⟨others, hothers, hfields⟩ := h depth members hmembers
      exact outcome_decode type hmembers hothers hfields value hvalue

/-- Names tell the members of a record apart. -/
theorem eq_of_name_eq {field another : Field} (hf : field ∈ type.fields)
    (ha : another ∈ type.fields) (h : field.name = another.name)
    : field = another :=
  List.inj_on_of_nodup_map type.nodup_names hf ha h

end RecordType

-----------------------------------------------------------------------------------------
-- One record presented differently
-----------------------------------------------------------------------------------------

/-- A record is decoded like the same record in another presentation. -/
theorem Restates.outcome {type : RecordType} {members others : List (String × Json)}
    (h : Restates type members others) (depth : Nat)
    : Outcome True (type.decode depth (.object members)) (type.decode depth (.object others)) := by
  refine (RecordType.outcome_of_members (fun _ => True) (fun depth found hfound => ?_)
    depth).congr (by simp)
  -- What is looked up under a name decides what is read.
  have hlookup
      : ∀ {field : Field} {others : Members Json},
          found.find? field.name = others.find? field.name
          → Outcome True (field.read depth found) (field.read depth others) := by
    intro field others hothers
    rw [Field.read_congr hothers]
    exact .refl _ trivial
  cases h with
  | reorder perm =>
      obtain ⟨hd, rfl⟩ := known?_eq_some_iff.mp hfound
      have hknown : (known type.names members).Perm (known type.names others) := perm.filter _
      have hd' := (hknown.map Prod.fst).nodup_iff.mp hd
      refine ⟨_, known?_eq_some_iff.mpr ⟨hd', rfl⟩, fun field _ => hlookup ?_⟩
      apply Option.ext
      intro value
      exact (Json.lookup_eq_some_iff_mem hd).trans
        ((hknown.mem_iff).trans (Json.lookup_eq_some_iff_mem hd').symm)
  | insert unknown value =>
      obtain ⟨hd, rfl⟩ := known?_eq_some_iff.mp hfound
      refine ⟨_, known?_eq_some_iff.mpr ⟨hd, ?_⟩, fun _ _ => hlookup rfl⟩
      rw [known_append, known_cons_of_not_mem unknown, known_append]
  | @leaveOut front back field hknown value hdefault =>
      have hname : field.name ∈ type.names := List.mem_map_of_mem hknown
      obtain ⟨hd, rfl⟩ := (known?_around_iff hname).mp hfound
      refine ⟨_, known?_without hd, fun another hanother => ?_⟩
      by_cases hsame : another.name = field.name
      · obtain rfl := RecordType.eq_of_name_eq hanother hknown hsame
        intro decoded hdecoded
        have hread :=
          Field.read_of_default? hknown hdefault (find?_around hd) (find?_without hd) hdecoded
        exact ⟨fun _ => hread, fun hnot => absurd trivial hnot⟩
      · exact hlookup (find?_around_of_ne hsame)

/-- A record that is spoilt is not decoded. -/
theorem Spoils.outcome {type : RecordType} {members others : List (String × Json)}
    (h : Spoils type members others) (depth : Nat)
    : Outcome False (type.decode depth (.object members)) (type.decode depth (.object others)) := by
  cases h with
  | @leaveOut front back value =>
      have hclass : ⟨"templateClass", .text, .required⟩ ∈ RecordType.entry.fields := by decide
      refine (RecordType.outcome_of_members (· ≠ "templateClass")
        (fun depth found hfound => ?_) depth).congr ?_
      · obtain ⟨hd, rfl⟩ := (known?_around_iff (by decide)).mp hfound
        refine ⟨_, known?_without hd, fun field hf => ?_⟩
        by_cases hname : field.name = "templateClass"
        · obtain rfl := RecordType.eq_of_name_eq hf hclass hname
          refine fun value _ => ⟨fun hother => absurd rfl hother, fun _ => ?_⟩
          rw [Field.read, find?_without hd]
          rfl
        · rw [Field.read_congr (find?_around_of_ne hname)]
          exact .refl _ hname
      · exact iff_of_false (fun hall => hall _ hclass rfl) not_false
  | @twice _ front back name hknown hpresent value =>
      refine fun decoded _ => ⟨False.elim, fun _ => Option.eq_none_iff_forall_ne_some.mpr ?_⟩
      intro found hdecoded
      obtain ⟨members, hmembers⟩ := RecordType.exists_members_of_decode hdecoded
      cases depth with
      | zero => cases hmembers
      | succ depth =>
          obtain ⟨hd, _⟩ := (known?_around_iff hknown).mp hmembers
          rw [List.map_append, List.map_cons, List.nodup_middle, ← List.map_append,
            ← known_append] at hd
          exact hd.notMem (mem_keys_known hknown hpresent)

-----------------------------------------------------------------------------------------
-- Records inside others
-----------------------------------------------------------------------------------------

section Inside

variable {change : RecordType → List (String × Json) → List (String × Json) → Prop} {shape : Shape}
  {value other : Json}

/-- What stands for a record or for a list of records is not null. -/
theorem Within.nonNull (h : Within change shape value other)
    : value.nonNull? = some value ∧ other.nonNull? = some other := by
  cases h <;> exact ⟨rfl, rfl⟩

/-- Where the value of one member is changed, the others are read as before. -/
theorem outcome_read_around {type : RecordType} {field : Field} (hf : field ∈ type.fields)
    {front back : Members Json} (hd : ((front ++ (field.name, value) :: back).map Prod.fst).Nodup)
    (hpresent : value.nonNull? = some value ∧ other.nonNull? = some other) {kept : Prop}
    {depth : Nat}
    (h : Outcome kept (field.shape.decode depth value) (field.shape.decode depth other))
    : ∀ another ∈ type.fields,
        Outcome (another.name = field.name → kept)
          (another.read depth (front ++ (field.name, value) :: back))
          (another.read depth (front ++ (field.name, other) :: back)) := by
  intro another hanother
  by_cases hsame : another.name = field.name
  · obtain rfl := RecordType.eq_of_name_eq hanother hf hsame
    have hd' : ((front ++ (another.name, other) :: back).map Prod.fst).Nodup := by
      simpa using hd
    exact (Field.outcome_read (find?_around hd) (find?_around hd') hpresent h).congr
      ⟨fun hkept _ => hkept, fun hkept => hkept rfl⟩
  · rw [Field.read_congr ((find?_around_of_ne hsame).trans (find?_around_of_ne hsame).symm)]
    exact .refl _ (fun hname => absurd hname hsame)

/-- What one record comes to, the value around it comes to, by induction on where the record is. -/
theorem Within.outcome {kept : Prop}
    (hchange
      : ∀ type members others depth,
          change type members others
          → Outcome kept (type.decode depth (.object members)) (type.decode depth (.object others)))
    (h : Within change shape value other) (depth : Nat)
    : Outcome kept (shape.decode depth value) (shape.decode depth other) := by
  induction h generalizing depth with
  | here changed => exact hchange _ _ _ depth changed
  | @member type front back field value other hknown inside ih =>
      have hname : field.name ∈ type.names := List.mem_map_of_mem hknown
      refine (RecordType.outcome_of_members (fun name => name = field.name → kept)
        (fun depth found hfound => ?_) depth).congr
        ⟨fun hall => hall field hknown rfl, fun hkept _ _ _ => hkept⟩
      obtain ⟨hd, rfl⟩ := (known?_around_iff hname).mp hfound
      exact ⟨_, (known?_around_iff hname).mpr ⟨by simpa using hd, rfl⟩,
        outcome_read_around hknown hd inside.nonNull (ih depth)⟩
  | @place type front back field value other hknown inside ih =>
      refine (RecordType.outcome_of_members (fun name => name = field.name → kept)
        (fun depth found hfound => ?_) depth).congr
        ⟨fun hall => hall field (List.mem_of_getElem? hknown) rfl, fun hkept _ _ _ => hkept⟩
      have hname : type.names[front.length]? = some field.name := by
        rw [RecordType.names, List.getElem?_map, hknown]
        rfl
      obtain ⟨hlength, rfl⟩ := members?_array_eq_some_iff.mp hfound
      have hd := type.nodup_names.sublist (keys_zip_sublist type.names (front ++ value :: back))
      rw [zip_around hname] at hd ⊢
      refine ⟨_, members?_array_eq_some_iff.mpr ⟨by simpa using hlength, zip_around hname other⟩,
        outcome_read_around (List.mem_of_getElem? hknown) hd inside.nonNull (ih depth)⟩
  | @item type front back value other inside ih =>
      cases depth with
      | zero => nofun
      | succ depth => exact (ih depth).mapM front back

end Inside

-----------------------------------------------------------------------------------------
-- Texts presented differently
-----------------------------------------------------------------------------------------

/-- A text is decoded to what the value that it writes is decoded to. -/
theorem Document.ofJsonText?_of_writes {text : String} {json : Json} (h : Json.Writes text json)
    : ofJsonText? text = RecordType.document.decode Json.depthLimit json := by
  rw [ofJsonText?, Json.parse?_eq_some_iff.mpr h]
  rfl

/-- Rewriting the objects that stand for records, one after the other and at any depth, keeps the
document of a value; by induction on the rewriting. -/
theorem decode_of_restated {json restated : Json} {document : Document}
    (h : Relation.ReflTransGen (Within Restates (.record .document)) json restated)
    (hjson : RecordType.document.decode Json.depthLimit json = some document)
    : RecordType.document.decode Json.depthLimit restated = some document := by
  induction h with
  | refl => exact hjson
  | tail _ hstep ih =>
      have houtcome := hstep.outcome (fun _ _ _ depth h => h.outcome depth) Json.depthLimit
      exact (houtcome document ih).1 trivial

/-- Decoding a text ignores presentation. Every text that is decoded writes a value, and however the
objects that stand for records in it are rewritten, at any depth, by reordering members, by
inserting members that the record does not have or by leaving out members that have their defaults:
all texts that write the rewritten value, with any white space between tokens, are decoded to the
same document. If in addition the class of an entry is left out or a member of a record is repeated,
no text that writes the outcome is decoded. -/
theorem Document.ofJsonText?_ignores_presentation {text : String} {document : Document}
    (h : ofJsonText? text = some document)
    : ∃ json,
        Json.Writes text json
        ∧ ∀ restated,
            Relation.ReflTransGen (Within Restates (.record .document)) json restated
            → (∀ rewritten, Json.Writes rewritten restated → ofJsonText? rewritten = some document)
              ∧ ∀ spoilt,
                  Within Spoils (.record .document) restated spoilt
                  → ∀ rewritten, Json.Writes rewritten spoilt → ofJsonText? rewritten = none := by
  obtain ⟨json, hparse, hjson⟩ := Option.bind_eq_some_iff.mp h
  refine ⟨json, Json.parse?_eq_some_iff.mp hparse, fun restated hrestated => ?_⟩
  have hdecode := decode_of_restated hrestated hjson
  constructor
  · intro rewritten hwrites
    rw [ofJsonText?_of_writes hwrites, hdecode]
  · intro spoilt hspoilt rewritten hwrites
    have houtcome := hspoilt.outcome (fun _ _ _ depth h => h.outcome depth) Json.depthLimit
    rw [ofJsonText?_of_writes hwrites]
    exact (houtcome document hdecode).2 not_false

/-- A document with one entry, which writes down that it is of no kind. -/
def spareText : String :=
  "\x7b\"supplyChainNode\":[\x7b\"templateClass\":\"A\",\"templateType\":null\x7d]\x7d"

/-- The same document: the entry says nothing of its kind, but has a member that no entry has, whose
value is no text. -/
def notedText : String :=
  "\x7b \"supplyChainNode\": [\x7b\"note\": \"\\ud800\", \"templateClass\": \"A\"\x7d] \x7d"

/-- The entry has lost its class. -/
def namelessText : String := "\x7b\"supplyChainNode\":[\x7b\"note\":\"\\ud800\"\x7d]\x7d"

/-- A document with one entry. -/
def documentOf (entry : List (String × Json)) : Json :=
  .object [("supplyChainNode", .array [.object entry])]

/-- A change to the members of the entry is one inside the document. -/
theorem within_documentOf
    {change : RecordType → List (String × Json) → List (String × Json) → Prop}
    {entry other : List (String × Json)} (h : change .entry entry other)
    : Within change (.record .document) (documentOf entry) (documentOf other) := by
  have hentries
      : ⟨"supplyChainNode", .records .entry, .defaulted⟩ ∈ RecordType.document.fields := by
    decide
  exact @Within.member change .document [] [] _ _ _ hentries (@Within.item _ _ [] [] _ _ (.here h))

theorem Document.ofJsonText?_ignores_presentation_spareText
    : ofJsonText? spareText = some ⟨[{ templateClass := "A" }]⟩
      ∧ ofJsonText? notedText = some ⟨[{ templateClass := "A" }]⟩
      ∧ ofJsonText? namelessText = none := by
  have hspare
      : Json.parse? spareText
        = some (documentOf [("templateClass", .string "A"), ("templateType", .null)]) := by
    with_unfolding_all rfl
  have hnoted
      : Json.Writes notedText
          (documentOf [("note", .unreadable), ("templateClass", .string "A")]) :=
    Json.parse?_eq_some_iff.mp (by with_unfolding_all rfl)
  have hnameless : Json.Writes namelessText (documentOf [("note", .unreadable)]) :=
    Json.parse?_eq_some_iff.mp (by with_unfolding_all rfl)
  have hdecode : ofJsonText? spareText = some ⟨[{ templateClass := "A" }]⟩ := by decide +kernel
  obtain ⟨json, hwrites, hall⟩ := ofJsonText?_ignores_presentation hdecode
  obtain rfl := Option.some.inj (hspare.symm.trans (Json.parse?_eq_some_iff.mpr hwrites))
  -- First the kind is left out, then the member that no entry has is inserted.
  have hshorter := within_documentOf (@Restates.leaveOut .entry [("templateClass", .string "A")] []
    ⟨"templateType", .text, .optional⟩ (by decide) .null rfl)
  have hrestated := within_documentOf (@Restates.insert .entry [] [("templateClass", .string "A")]
    "note" (by decide) .unreadable)
  obtain ⟨hsame, hnone⟩ := hall _ (.tail (.single hshorter) hrestated)
  exact ⟨hdecode, hsame _ hnoted,
    hnone _ (within_documentOf (@Spoils.leaveOut [("note", .unreadable)] [] _)) _ hnameless⟩

end SupplyGraph.Template
