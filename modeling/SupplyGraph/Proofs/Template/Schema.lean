import SupplyGraph.Template.Json

/-!
The records of template documents in one table: the members of every record in the order of its
names, what each of them holds, and what stands for one that is left out. The decoder of a record
reads just the members in the table, so what holds of the reading of members holds of records.
-/

namespace SupplyGraph.Template

-----------------------------------------------------------------------------------------
-- The table
-----------------------------------------------------------------------------------------

inductive RecordType where
  | document
  | entry
  | commodity
  | boughtGroup
  | providerRef
  | linkEntry
  | linkDeclaration
  | commodityDef
  | probeProperty
  | entityProperty
  | handler
deriving DecidableEq, Repr

/-- What a member of a record holds: a scalar, a record, or a list of records. -/
inductive Shape where
  | text
  | flag
  | integer
  | record (type : RecordType)
  | records (type : RecordType)
deriving DecidableEq, Repr

/-- What becomes of a member that is left out: it is missed, it has no value, or it has the value
that stands for its shape. -/
inductive Presence where
  | required
  | optional
  | defaulted
deriving DecidableEq, Repr

/-- A member that a record may have. -/
structure Field where
  name : String
  shape : Shape
  presence : Presence
deriving DecidableEq, Repr

namespace RecordType

/-- The members of a record, in the order of its names. -/
def fields : RecordType → List Field
  | document => [⟨"supplyChainNode", .records entry, .defaulted⟩]
  | entry =>
      [ ⟨"templateClass", .text, .required⟩,
        ⟨"templateType", .text, .optional⟩,
        ⟨"templatePriority", .integer, .optional⟩,
        ⟨"commoditySold", .records commodity, .defaulted⟩,
        ⟨"commodityBought", .records boughtGroup, .defaulted⟩,
        ⟨"externalLink", .records linkEntry, .defaulted⟩]
  | commodity =>
      [ ⟨"commodityType", .text, .optional⟩,
        ⟨"key", .text, .optional⟩,
        ⟨"optional", .flag, .defaulted⟩]
  | boughtGroup =>
      [ ⟨"key", .record providerRef, .optional⟩,
        ⟨"value", .records commodity, .defaulted⟩]
  | providerRef =>
      [ ⟨"templateClass", .text, .optional⟩,
        ⟨"providerType", .text, .optional⟩,
        ⟨"cardinalityMin", .integer, .optional⟩,
        ⟨"cardinalityMax", .integer, .optional⟩]
  | linkEntry =>
      [ ⟨"key", .text, .optional⟩,
        ⟨"value", .record linkDeclaration, .defaulted⟩]
  | linkDeclaration =>
      [ ⟨"buyerRef", .text, .optional⟩,
        ⟨"sellerRef", .text, .optional⟩,
        ⟨"relationship", .text, .optional⟩,
        ⟨"commodityDefs", .records commodityDef, .defaulted⟩,
        ⟨"key", .text, .optional⟩,
        ⟨"hasExternalEntity", .flag, .optional⟩,
        ⟨"probeEntityPropertyDef", .records probeProperty, .defaulted⟩,
        ⟨"externalEntityPropertyDefs", .records entityProperty, .defaulted⟩]
  | commodityDef =>
      [ ⟨"type", .text, .optional⟩,
        ⟨"hasKey", .flag, .defaulted⟩]
  | probeProperty =>
      [ ⟨"name", .text, .optional⟩,
        ⟨"description", .text, .optional⟩]
  | entityProperty =>
      [ ⟨"entity", .text, .optional⟩,
        ⟨"attribute", .text, .optional⟩,
        ⟨"useTopoExt", .flag, .defaulted⟩,
        ⟨"propertyHandler", .record handler, .optional⟩]
  | handler =>
      [ ⟨"methodName", .text, .optional⟩,
        ⟨"entityType", .text, .optional⟩,
        ⟨"directlyApply", .flag, .defaulted⟩,
        ⟨"nextHandler", .record handler, .optional⟩]

/-- The names of the members of a record. -/
def names (type : RecordType) : List String := type.fields.map Field.name

theorem nodup_names (type : RecordType)
    : type.names.Nodup := by
  cases type <;> decide

/-- What a record is decoded to. A handler comes with the handlers inside it. -/
def Value : RecordType → Type
  | document => Document
  | entry => Entry
  | commodity => Commodity
  | boughtGroup => BoughtGroup
  | providerRef => ProviderRef
  | linkEntry => LinkEntry
  | linkDeclaration => LinkDeclaration
  | commodityDef => CommodityDef
  | probeProperty => ProbeProperty
  | entityProperty => EntityProperty
  | handler => List Handler

/-- A record that nothing is said of. -/
def blank : (type : RecordType) → type.Value
  | document => (default : Document)
  | entry => (default : Entry)
  | commodity => (default : Commodity)
  | boughtGroup => (default : BoughtGroup)
  | providerRef => (default : ProviderRef)
  | linkEntry => (default : LinkEntry)
  | linkDeclaration => (default : LinkDeclaration)
  | commodityDef => (default : CommodityDef)
  | probeProperty => (default : ProbeProperty)
  | entityProperty => (default : EntityProperty)
  | handler => ([] : List Handler)

/-- The decoder of a record. -/
def decode (depth : Nat) : (type : RecordType) → Json → Option type.Value
  | document => Document.decode depth
  | entry => Entry.decode depth
  | commodity => Commodity.decode depth
  | boughtGroup => BoughtGroup.decode depth
  | providerRef => ProviderRef.decode depth
  | linkEntry => LinkEntry.decode depth
  | linkDeclaration => LinkDeclaration.decode depth
  | commodityDef => CommodityDef.decode depth
  | probeProperty => ProbeProperty.decode depth
  | entityProperty => EntityProperty.decode depth
  | handler => Handler.decodeChain depth

end RecordType

namespace Shape

def Value : Shape → Type
  | text => String
  | flag => Bool
  | integer => Int32
  | record type => type.Value
  | records type => List type.Value

/-- The value of a member that is left out without being missed. -/
def blank : (shape : Shape) → shape.Value
  | text => ""
  | flag => false
  | integer => (0 : Int32)
  | record type => type.blank
  | records type => ([] : List type.Value)

/-- What a value decodes to where containers may be nested this deep. -/
def decode (depth : Nat) : (shape : Shape) → Json → Option shape.Value
  | text => Format.text
  | flag => Format.flag
  | integer => Format.integer
  | record type => type.decode depth
  | records type => fun value => do (← Format.items depth value).mapM (type.decode (depth - 1))

end Shape

namespace Field

def Value : Field → Type
  | ⟨_, shape, .optional⟩ => Option shape.Value
  | ⟨_, shape, _⟩ => shape.Value

/-- What a member decodes to among the members of a record. -/
def read (depth : Nat) : (field : Field) → Members Json → Option field.Value
  | ⟨name, shape, .required⟩, members =>
      (members.find? name).elim Format.refuse (shape.decode depth)
  | ⟨name, shape, .optional⟩, members => members.getOptional name (shape.decode depth)
  | ⟨name, shape, .defaulted⟩, members => members.get name shape.blank (shape.decode depth)

end Field

-----------------------------------------------------------------------------------------
-- Readings compared
-----------------------------------------------------------------------------------------

/-- Where the first reading gives a value, the second one gives the same value if it is kept, and
none if it is not. -/
def Outcome {α : Type} (kept : Prop) (first second : Option α) : Prop :=
  ∀ value, first = some value → (kept → second = some value) ∧ (¬ kept → second = none)

namespace Outcome

variable {α β : Type} {kept also : Prop} {first second : Option α}

theorem refl (first : Option α) (h : kept)
    : Outcome kept first first :=
  fun _ hvalue => ⟨fun _ => hvalue, fun hnot => absurd h hnot⟩

theorem congr (h : Outcome kept first second) (hiff : kept ↔ also)
    : Outcome also first second := by
  rwa [propext hiff] at h

/-- What is put together from two readings is kept exactly when both are. -/
theorem bind {next later : α → Option β} (h : Outcome kept first second)
    (hnext : ∀ value, Outcome also (next value) (later value))
    : Outcome (kept ∧ also) (first >>= next) (second >>= later) := by
  intro result hresult
  obtain ⟨value, hvalue, hresult⟩ := Option.bind_eq_some_iff.mp hresult
  obtain ⟨hkept, hlost⟩ := h value hvalue
  obtain ⟨hkept', hlost'⟩ := hnext value result hresult
  constructor
  · intro hboth
    rw [hkept hboth.1]
    exact hkept' hboth.2
  · intro hnot
    by_cases hk : kept
    · rw [hkept hk]
      exact hlost' (fun ha => hnot ⟨hk, ha⟩)
    · rw [hlost hk]
      rfl

theorem bind_left (h : Outcome kept first second) (next : α → Option β)
    : Outcome kept (first >>= next) (second >>= next) :=
  (h.bind (fun value => refl (next value) trivial)).congr (and_iff_left trivial)

theorem bind_right (first : Option α) {next later : α → Option β}
    (h : ∀ value, Outcome kept (next value) (later value))
    : Outcome kept (first >>= next) (first >>= later) :=
  ((refl first trivial).bind h).congr (and_iff_right trivial)

/-- Items of a list are read one by one, so one that is read differently decides. -/
theorem mapM {read : α → Option β} {item another : α} (h : Outcome kept (read item) (read another))
    (front back : List α)
    : Outcome kept ((front ++ item :: back).mapM read) ((front ++ another :: back).mapM read) := by
  rw [List.mapM_append, List.mapM_append, List.mapM_cons, List.mapM_cons]
  exact bind_right _ (fun _ => (h.bind_left _).bind_left _)

end Outcome

namespace RecordType

/-- The members of two records are read alike where their members are: the decoder of a record reads
the members in the table, each of them once. -/
theorem outcome_decode (type : RecordType) {depth : Nat} {value other : Json}
    {members others : Members Json} {kept : String → Prop}
    (hvalue : Format.members depth type.names value = some members)
    (hother : Format.members depth type.names other = some others)
    (hfields
      : ∀ field ∈ type.fields,
          Outcome (kept field.name) (field.read (depth - 1) members)
            (field.read (depth - 1) others))
    : Outcome (∀ field ∈ type.fields, kept field.name) (type.decode depth value)
        (type.decode depth other) := by
  -- Behind the members that both records have, the members are read one by one.
  have hbehind
      : ∀ {α : Type} {all : Prop} {next : Members Json → Option α},
          Outcome all (next members) (next others)
          → Outcome all (Format.members depth type.names value >>= next)
              (Format.members depth type.names other >>= next) := by
    intro α all next h
    rw [hvalue, hother]
    exact h
  cases type <;> simp only [fields, List.forall_mem_cons] at hfields ⊢
  case document =>
    obtain ⟨hentries, _⟩ := hfields
    exact hbehind (hentries.bind (fun _ => .refl _ (by simp)))
  case entry =>
    obtain ⟨hclass, hkind, hpriority, hsold, hbought, hlinks, _⟩ := hfields
    exact hbehind (hclass.bind (fun _ => hkind.bind (fun _ => hpriority.bind (fun _ =>
      hsold.bind (fun _ => hbought.bind (fun _ => hlinks.bind (fun _ => .refl _ (by simp))))))))
  case commodity =>
    obtain ⟨htype, hkey, hoptional, _⟩ := hfields
    exact hbehind (htype.bind (fun _ => hkey.bind (fun _ => hoptional.bind (fun _ =>
      .refl _ (by simp)))))
  case boughtGroup =>
    obtain ⟨hkey, hvalues, _⟩ := hfields
    exact hbehind (hkey.bind (fun _ => hvalues.bind (fun _ => .refl _ (by simp))))
  case providerRef =>
    obtain ⟨hclass, hlabel, hleast, hmost, _⟩ := hfields
    exact hbehind (hclass.bind (fun _ => hlabel.bind (fun _ => hleast.bind (fun _ =>
      hmost.bind (fun _ => .refl _ (by simp))))))
  case linkEntry =>
    obtain ⟨hkey, hdeclaration, _⟩ := hfields
    exact hbehind (hkey.bind (fun _ => hdeclaration.bind (fun _ => .refl _ (by simp))))
  case linkDeclaration =>
    obtain ⟨hbuyer, hseller, hlabel, hcommodities, hkey, hexternal, hprobes, hproperties, _⟩ :=
      hfields
    exact hbehind (hbuyer.bind (fun _ => hseller.bind (fun _ => hlabel.bind (fun _ =>
      hcommodities.bind (fun _ => hkey.bind (fun _ => hexternal.bind (fun _ =>
        hprobes.bind (fun _ => hproperties.bind (fun _ => .refl _ (by simp))))))))))
  case commodityDef =>
    obtain ⟨htype, hkey, _⟩ := hfields
    exact hbehind (htype.bind (fun _ => hkey.bind (fun _ => .refl _ (by simp))))
  case probeProperty =>
    obtain ⟨hname, hdescription, _⟩ := hfields
    exact hbehind (hname.bind (fun _ => hdescription.bind (fun _ => .refl _ (by simp))))
  case entityProperty =>
    obtain ⟨hentity, hattribute, htopology, hhandlers, _⟩ := hfields
    -- The handlers are read first.
    refine Outcome.congr (hbehind (hhandlers.bind (fun _ => hentity.bind (fun _ =>
      hattribute.bind (fun _ => htopology.bind (fun _ => .refl _ trivial)))))) ?_
    simp [and_comm, and_left_comm]
  case handler =>
    obtain ⟨hmethod, htype, happly, hnext, _⟩ := hfields
    cases depth with
    | zero => cases hvalue
    | succ depth =>
        exact hbehind (hmethod.bind (fun _ => htype.bind (fun _ => happly.bind (fun _ =>
          hnext.bind (fun _ => .refl _ (by simp))))))

/-- A record is decoded only where its members are found. -/
theorem exists_members_of_decode {type : RecordType} {depth : Nat} {json : Json}
    {value : type.Value} (h : type.decode depth json = some value)
    : ∃ members, Format.members depth type.names json = some members := by
  cases type
  case handler =>
    cases depth with
    | zero => cases h
    | succ depth =>
        obtain ⟨members, hmembers, _⟩ := Option.bind_eq_some_iff.mp h
        exact ⟨members, hmembers⟩
  all_goals
    obtain ⟨members, hmembers, _⟩ := Option.bind_eq_some_iff.mp h
    exact ⟨members, hmembers⟩

end RecordType

-----------------------------------------------------------------------------------------
-- Members that are there, changed or left out
-----------------------------------------------------------------------------------------

/-- A member that is not null is decoded. -/
theorem Members.getOptional_of_nonNull {α : Type} {members : Members Json} {name : String}
    {decode : Json → Option α} {json : Json} (hmember : members.find? name = some json)
    (h : json.nonNull? = some json)
    : members.getOptional name decode = decode json >>= fun value => pure (some value) := by
  rw [Members.getOptional, Members.get, hmember]
  change (some json.nonNull? >>= fun found => _) = _
  rw [h]
  rfl

namespace Field

/-- The value that a member may be left out for. -/
def default? : Field → Option Json
  | ⟨_, _, .optional⟩ => some .null
  | ⟨_, .flag, .defaulted⟩ => some (.bool false)
  | ⟨_, .records _, .defaulted⟩ => some (.array [])
  | ⟨_, .record _, .defaulted⟩ => some (.object [])
  | _ => none

variable {field : Field} {depth : Nat} {members others : Members Json}

theorem read_congr (h : members.find? field.name = others.find? field.name)
    : field.read depth members = field.read depth others := by
  obtain ⟨name, shape, presence⟩ := field
  cases presence with
  | required => exact congrArg (fun found => Option.elim found _ _) h
  | optional =>
      simp only [read, Members.getOptional, Members.get]
      rw [h]
  | defaulted =>
      simp only [read, Members.get]
      rw [h]

/-- Members whose values decode alike are read alike, unless one of them is taken for a missing
one. -/
theorem outcome_read {json other : Json} {kept : Prop}
    (hmember : members.find? field.name = some json) (hother : others.find? field.name = some other)
    (hpresent : json.nonNull? = some json ∧ other.nonNull? = some other)
    (h : Outcome kept (field.shape.decode depth json) (field.shape.decode depth other))
    : Outcome kept (field.read depth members) (field.read depth others) := by
  obtain ⟨name, shape, presence⟩ := field
  cases presence with
  | required =>
      simp only [read, hmember, hother]
      exact h
  | optional =>
      simp only [read, Members.getOptional_of_nonNull hmember hpresent.1,
        Members.getOptional_of_nonNull hother hpresent.2]
      exact h.bind_left _
  | defaulted =>
      simp only [read, Members.get, hmember, hother]
      exact h

end Field

/-- Links are the only records that may be left out for an empty one. -/
theorem RecordType.eq_linkDeclaration {type other : RecordType} {name : String}
    (h : ⟨name, .record other, .defaulted⟩ ∈ type.fields)
    : other = .linkDeclaration := by
  cases type <;> simp_all [fields]

/-- A member that has its default may be left out. -/
theorem Field.read_of_default? {type : RecordType} {field : Field} (hf : field ∈ type.fields)
    {json : Json} (h : field.default? = some json) {depth : Nat} {members others : Members Json}
    (hmember : members.find? field.name = some json) (hother : others.find? field.name = none)
    {value : field.Value} (hread : field.read depth members = some value)
    : field.read depth others = some value := by
  obtain ⟨name, shape, presence⟩ := field
  cases presence with
  | required => cases h
  | optional =>
      obtain rfl := Option.some.inj h
      simp only [read, Members.getOptional, Members.get, hmember, hother] at hread ⊢
      exact hread
  | defaulted =>
      simp only [read, Members.get, hmember, hother] at hread ⊢
      cases shape with
      | text => cases h
      | integer => cases h
      | flag =>
          obtain rfl := Option.some.inj h
          exact hread
      | records type =>
          obtain rfl := Option.some.inj h
          cases depth with
          | zero => cases hread
          | succ depth => exact hread
      | record type =>
          obtain rfl := Option.some.inj h
          obtain rfl := RecordType.eq_linkDeclaration hf
          cases depth with
          | zero => cases hread
          | succ depth => exact hread

end SupplyGraph.Template
