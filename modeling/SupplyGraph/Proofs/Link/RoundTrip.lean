import Mathlib.Data.List.Sort
import SupplyGraph.Proofs.Json.Decoding
import SupplyGraph.Proofs.Json.Grammar
import SupplyGraph.Proofs.Link.Encoding
import SupplyGraph.Proofs.Text.Octets

/-!
Reading encoded links. Many texts stand for one link; the text that the link itself is written as is
one of them, it is what all of them are rewritten to, and its sets are in order.
-/

namespace SupplyGraph

-----------------------------------------------------------------------------------------
-- Values that stand for links
-----------------------------------------------------------------------------------------

namespace Json

structure IsHandlerStep (json : Json) (step : HandlerStep) : Prop where
  record : json.IsRecord HandlerStep.names
  methodName : IsPart IsText (json.part? HandlerStep.names "methodName") step.methodName
  entityType : IsPart IsLabel (json.part? HandlerStep.names "entityType") step.entityType
  directlyApply : IsPart IsFlag (json.part? HandlerStep.names "directlyApply") step.directlyApply

structure IsPropagation (json : Json) (propagation : Propagation) : Prop where
  record : json.IsRecord Propagation.names
  entity : IsPart IsLabel (json.part? Propagation.names "entity") propagation.entity
  attributeName
    : IsOptionalPart IsText (json.part? Propagation.names "attribute") propagation.attributeName
  useTopoExt : IsPart IsFlag (json.part? Propagation.names "useTopoExt") propagation.useTopoExt
  handlers
    : IsPart (IsList IsHandlerStep) (json.part? Propagation.names "handlers") propagation.handlers

structure IsLink (json : Json) (link : Link) : Prop where
  record : json.IsRecord Link.names
  key : IsOptionalPart IsLabel (json.part? Link.names "key") link.key
  buyer : IsPart IsLabel (json.part? Link.names "buyer") link.buyer
  seller : IsPart IsLabel (json.part? Link.names "seller") link.seller
  relationship : IsOptionalPart IsLabel (json.part? Link.names "relationship") link.relationship
  linkKey : IsOptionalPart IsText (json.part? Link.names "linkKey") link.linkKey
  hasExternalEntity
    : IsPart IsFlag (json.part? Link.names "hasExternalEntity") link.hasExternalEntity
  commodities : IsPart (IsSet IsLabel) (json.part? Link.names "commodities") link.commodities
  probeProperties
    : IsPart (IsSet IsText) (json.part? Link.names "probeProperties") link.probeProperties
  propagations
    : IsPart (IsList IsPropagation) (json.part? Link.names "propagations") link.propagations

end Json

-----------------------------------------------------------------------------------------
-- Reading links
-----------------------------------------------------------------------------------------

open Json (Decodes decodes_string decodes_bool decodes_labelled decodes_record)

/-- A step is decoded exactly if its three parts are there and stand for something. -/
theorem HandlerStep.decodes_ofJson?
    : Decodes HandlerStep.ofJson? Json.IsHandlerStep := by
  refine decodes_record (fun _ _ h => h.record) (fun json found step hfound hrecord => ?_)
  simp (disch := decide) only [Option.bind_eq_bind, Option.bind_eq_some_iff, Option.pure_def,
    Option.some.injEq, decodes_string.member? hfound, decodes_labelled.member? hfound,
    decodes_bool.member? hfound]
  constructor
  · rintro ⟨_, hmethod, _, htype, _, happly, rfl⟩
    exact ⟨hrecord, hmethod, htype, happly⟩
  · intro h
    exact ⟨_, h.methodName, _, h.entityType, _, h.directlyApply, rfl⟩

/-- The attribute of a propagation may be missing; its other parts must be there. -/
theorem Propagation.decodes_ofJson?
    : Decodes Propagation.ofJson? Json.IsPropagation := by
  refine decodes_record (fun _ _ h => h.record) (fun json found propagation hfound hrecord => ?_)
  simp (disch := decide) only [Option.bind_eq_bind, Option.bind_eq_some_iff, Option.pure_def,
    Option.some.injEq, decodes_labelled.member? hfound, decodes_string.optionalMember? hfound,
    decodes_bool.member? hfound, HandlerStep.decodes_ofJson?.list.member? hfound]
  constructor
  · rintro ⟨_, hentity, _, hattribute, _, htopology, _, hhandlers, rfl⟩
    exact ⟨hrecord, hentity, hattribute, htopology, hhandlers⟩
  · intro h
    exact ⟨_, h.entity, _, h.attributeName, _, h.useTopoExt, _, h.handlers, rfl⟩

/-- The key, the relationship and the link key of a link may be missing; its other parts must be
there. -/
theorem Link.decodes_ofJson?
    : Decodes Link.ofJson? Json.IsLink := by
  refine decodes_record (fun _ _ h => h.record) (fun json found link hfound hrecord => ?_)
  simp (disch := decide) only [Option.bind_eq_bind, Option.bind_eq_some_iff, Option.pure_def,
    Option.some.injEq, decodes_labelled.member? hfound, decodes_labelled.optionalMember? hfound,
    decodes_string.optionalMember? hfound, decodes_bool.member? hfound,
    decodes_labelled.set.member? hfound, decodes_string.set.member? hfound,
    Propagation.decodes_ofJson?.list.member? hfound]
  constructor
  · rintro ⟨_, hkey, _, hbuyer, _, hseller, _, hrelationship, _, hlinkKey, _, hexternal, _,
      hcommodities, _, hproperties, _, hpropagations, rfl⟩
    exact ⟨hrecord, hkey, hbuyer, hseller, hrelationship, hlinkKey, hexternal, hcommodities,
      hproperties, hpropagations⟩
  · intro h
    exact ⟨_, h.key, _, h.buyer, _, h.seller, _, h.relationship, _, h.linkKey, _,
      h.hasExternalEntity, _, h.commodities, _, h.probeProperties, _, h.propagations, rfl⟩

-----------------------------------------------------------------------------------------
-- Writing links
-----------------------------------------------------------------------------------------

open Json (Encodes encodes_string encodes_bool encodes_ofLabelled isRecord_object)

/-- A step is written as an object, with a member for each of its parts. -/
theorem HandlerStep.encodes_toJson
    : Encodes HandlerStep.toJson Json.IsHandlerStep := fun step => {
  record := isRecord_object rfl (by decide)
  methodName := encodes_string.part step.methodName
  entityType := encodes_ofLabelled.part step.entityType
  directlyApply := encodes_bool.part step.directlyApply }

theorem Propagation.encodes_toJson
    : Encodes Propagation.toJson Json.IsPropagation := fun propagation => {
  record := isRecord_object rfl (by decide)
  entity := encodes_ofLabelled.part propagation.entity
  attributeName := encodes_string.optionalPart (fun _ => rfl) propagation.attributeName
  useTopoExt := encodes_bool.part propagation.useTopoExt
  handlers := HandlerStep.encodes_toJson.list.part propagation.handlers }

namespace Link

/-- A link is written as a value that stands for it. -/
theorem encodes_toJson
    : Encodes Link.toJson Json.IsLink := fun link => {
  record := isRecord_object rfl (by decide)
  key := encodes_ofLabelled.optionalPart (fun _ => rfl) link.key
  buyer := encodes_ofLabelled.part link.buyer
  seller := encodes_ofLabelled.part link.seller
  relationship := encodes_ofLabelled.optionalPart (fun _ => rfl) link.relationship
  linkKey := encodes_string.optionalPart (fun _ => rfl) link.linkKey
  hasExternalEntity := encodes_bool.part link.hasExternalEntity
  commodities := encodes_ofLabelled.set.part link.commodities
  probeProperties := encodes_string.set.part link.probeProperties
  propagations := Propagation.encodes_toJson.list.part link.propagations }

/-- A text is read as a link exactly if it is written for some value that stands for the link. -/
theorem ofJsonText?_eq_some_iff {text : String} {link : Link}
    : ofJsonText? text = some link ↔ ∃ json, Json.Writes text json ∧ json.IsLink link := by
  simp only [ofJsonText?, Option.bind_eq_bind, Option.bind_eq_some_iff, Json.parse?_eq_some_iff,
    decodes_ofJson? _ link]

/-- The text that a link is written as is one of those that stand for it. -/
theorem writes_render_toJson (link : Link)
    : Json.Writes link.toJson.render link.toJson :=
  Json.parse?_eq_some_iff.mp (faithful_toJson.exact link).parse?_render

/-- A link is read from the text that it is written as. -/
theorem ofJsonText?_render_toJson (link : Link)
    : ofJsonText? link.toJson.render = some link :=
  ofJsonText?_eq_some_iff.mpr ⟨link.toJson, link.writes_render_toJson, encodes_toJson link⟩

end Link

-----------------------------------------------------------------------------------------
-- Sets in order
-----------------------------------------------------------------------------------------

/-- The members of a set stand in the order in which the vocabulary lists its values, if that one is
ascending. -/
theorem sublist_all {α : Type} [Labelled α] [LawfulLabelled α] [Key α]
    (hall : (Labelled.all : List α).Pairwise (· < ·)) (set : SortedSet α)
    : set.toList.Sublist Labelled.all := by
  have : Std.Antisymm (fun left right : α => left < right) :=
    ⟨fun _ _ hlt hgt => absurd hgt (Key.lt_asymm hlt)⟩
  have hsubperm : set.toList.Subperm Labelled.all :=
    List.subperm_of_subset (set.ascending.imp Key.ne_of_lt)
      (fun value _ => LawfulLabelled.mem_all value)
  exact List.sublist_of_subperm_of_pairwise hsubperm set.ascending hall

namespace Link

/-- The members of a link whose sets are written in order: the commodities as the vocabulary lists
them, and the probe properties by their bytes, each of them once. -/
structure ListsInOrder (members : List (String × Json)) : Prop where
  commodities
    : ∃ values : List CommodityType,
        members.lookup "commodities" = some (.array (values.map Json.ofLabelled))
        ∧ values.Sublist Labelled.all
        ∧ values.Nodup
  probeProperties
    : ∃ values : List String,
        members.lookup "probeProperties" = some (.array (values.map Json.string))
        ∧ values.Pairwise (fun first second => Text.octets first < Text.octets second)

/-- The two sets of a link are written in ascending order, as they are kept. -/
theorem exists_listsInOrder (link : Link)
    : ∃ members, link.toJson = .object members ∧ ListsInOrder members := by
  refine ⟨_, rfl, ⟨link.commodities.toList, rfl, ?_, ?_⟩, ⟨link.probeProperties.toList, rfl, ?_⟩⟩
  · exact sublist_all (by decide +kernel) link.commodities
  · exact link.commodities.ascending.imp Key.ne_of_lt
  · exact link.probeProperties.ascending.imp Text.octets_lt

-----------------------------------------------------------------------------------------
-- Texts of links
-----------------------------------------------------------------------------------------

/-- The text of a link written anew. -/
def rewriteText? (text : String) : Option String :=
  (ofJsonText? text).map (fun link => link.toJson.render)

/-- Links are read from their texts and from all others that stand for them; what such a text is
rewritten to stays as it is and has its sets in order. -/
theorem ofJsonText?_normalizes
    : (∀ link : Link, ofJsonText? link.toJson.render = some link)
      ∧ (∀ text link,
          ofJsonText? text = some link ↔ ∃ json, Json.Writes text json ∧ json.IsLink link)
      ∧ (∀ text normal,
          rewriteText? text = some normal
          → rewriteText? normal = some normal
            ∧ ∃ members, Json.Writes normal (.object members) ∧ ListsInOrder members) := by
  refine ⟨ofJsonText?_render_toJson, fun _ _ => ofJsonText?_eq_some_iff, ?_⟩
  intro text normal h
  obtain ⟨link, _, rfl⟩ := Option.map_eq_some_iff.mp h
  obtain ⟨members, hmembers, hordered⟩ := link.exists_listsInOrder
  refine ⟨?_, members, ?_, hordered⟩
  · rw [rewriteText?, ofJsonText?_render_toJson, Option.map_some]
  · exact hmembers ▸ link.writes_render_toJson

/-- A link as an author may put it: in an order of its own, with blanks around labels and sets that
repeat themselves, and without what may be left out. -/
def looseText : String :=
  "\x7b\"seller\":\" STORAGE\",\"buyer\":\"IP\",\"hasExternalEntity\":true,\"propagations\":[],"
    ++ "\"commodities\":[\"MEM\",\"CPU\\t\",\"MEM\"],\"probeProperties\":[\"é\",\"z\",\"é\"]\x7d"

def looseLink : Link := {
  key := none
  buyer := .ip
  seller := .storage
  relationship := none
  linkKey := none
  hasExternalEntity := true
  commodities := ⟨[.cpu, .mem], by decide⟩
  probeProperties := ⟨["z", "é"], by decide⟩
  propagations := [] }

/-- Blanks around a label, a repeated commodity and parts that are left out are gone once the text
has been rewritten. -/
theorem ofJsonText?_normalizes_looseText
    : rewriteText? looseText = some looseLink.toJson.render
      ∧ rewriteText? looseLink.toJson.render = some looseLink.toJson.render
      ∧ ∃ members,
          Json.Writes looseLink.toJson.render (.object members) ∧ ListsInOrder members := by
  have hread : ofJsonText? looseText = some looseLink := by decide +kernel
  have hwritten : rewriteText? looseText = some looseLink.toJson.render := by
    rw [rewriteText?, hread, Option.map_some]
  exact ⟨hwritten, ofJsonText?_normalizes.2.2 looseText _ hwritten⟩

end Link

end SupplyGraph
