import SupplyGraph.Proofs.Entry.Checks
import SupplyGraph.Proofs.Entry.Declaration
import SupplyGraph.Proofs.Entry.Reading

/-!
What entries describe. Each part of an entry describes a part of a node: names mean what the
vocabulary knows them as, lists are taken item by item, and everything else is taken as it is
written. Whatever has been declared is described so, and a description leaves no choice.
-/

namespace SupplyGraph

namespace Template

-----------------------------------------------------------------------------------------
-- What the parts of an entry describe
-----------------------------------------------------------------------------------------

variable (vocabulary : Vocabulary)

/-- A handler describes a step by its names; the method is the one with that name. -/
structure Handler.Describes (handler : Handler) (step : HandlerStep) : Prop where
  methodName : nonBlank? handler.methodName = some step.methodName
  entityType
    : ∃ name,
        handler.entityType = some name
        ∧ vocabulary.entityNamed? (some name) = some step.entityType
  directlyApply : step.directlyApply = handler.directlyApply

/-- A property describes a propagation through the steps that its handlers describe, in order. -/
structure EntityProperty.Describes (property : EntityProperty) (propagation : Propagation)
    : Prop where
  entity
    : ∃ name,
        property.entity = some name
        ∧ vocabulary.entityNamed? (some name) = some propagation.entity
  attributeName : propagation.attributeName = property.attributeName
  useTopoExt : propagation.useTopoExt = property.useTopoExt
  handlers : List.Forall₂ (Handler.Describes vocabulary) property.handlers propagation.handlers

/-- A link entry describes a link between the entity types that its references mean. -/
structure LinkEntry.Describes (entry : LinkEntry) (link : Link) : Prop where
  key : Option.Rel (fun name entityType => vocabulary.entityNamed? (some name) = some entityType)
    entry.key link.key
  buyer : vocabulary.entityNamed? entry.value.buyerRef = some link.buyer
  seller : vocabulary.entityNamed? entry.value.sellerRef = some link.seller
  relationship : Option.Rel (fun label relationship => Labelled.parse? label = some relationship)
    entry.value.relationship link.relationship
  linkKey : link.linkKey = entry.value.key
  hasExternalEntity : link.hasExternalEntity = entry.value.hasExternalEntity.getD false
  commodities
    : link.commodities.IsImage
        (fun definition => vocabulary.commodityNamed? definition.commodityType)
        entry.value.commodityDefs
  probeProperties
    : link.probeProperties.IsImage (fun property => nonBlank? property.name)
        entry.value.probeProperties
  propagations
    : List.Forall₂ (EntityProperty.Describes vocabulary) entry.value.entityProperties
        link.propagations

namespace BoughtGroup

/-- The provider that a bought group names. -/
def provider? (group : BoughtGroup) : Option EntityType :=
  group.key.bind (ProviderRef.provider? vocabulary)

/-- The label that a bought group gives to its provider. -/
def label? (group : BoughtGroup) : Option Relationship :=
  group.key.bind (fun reference => reference.providerType.bind Labelled.parse?)

/-- The cardinality that a bought group states, which it does by any bound. -/
def cardinality? (group : BoughtGroup) : Option Cardinality :=
  group.key.bind (fun reference =>
    if reference.cardinalityMin = none ∧ reference.cardinalityMax = none then none
    else some ⟨reference.cardinalityMin, reference.cardinalityMax⟩)

end BoughtGroup

/-- Bought groups describe what a node says of a provider: all their commodities, the label that
they have in common, and the first cardinality that one of them states. -/
structure DescribeProvider (groups : List BoughtGroup) (provider : EntityType) (node : Node)
    : Prop where
  bought
    : ∃ commodities : SortedSet CommodityType,
        node.bought.find? provider = some commodities
        ∧ commodities.IsImage
            (fun commodity => vocabulary.commodityNamed? commodity.commodityType)
            (groups.flatMap BoughtGroup.value)
  label
    : ∃ label,
        node.providerLabels.find? provider = some label
        ∧ ∀ group ∈ groups, group.label? = some label
  cardinality : node.cardinalities.find? provider = groups.findSome? BoughtGroup.cardinality?

namespace Entry

/-- The bought groups of an entry that name a provider, in order. -/
def groupsFrom (entry : Entry) (provider : EntityType) : List BoughtGroup :=
  entry.commodityBought.filter (fun group => group.provider? vocabulary = some provider)

/-- An entry describes a node: what it sells, what it buys from each provider that a bought group
names and from no other, and its links in order. -/
structure Describes (entry : Entry) (node : Node) : Prop where
  entityType : vocabulary.entityNamed? (some entry.templateClass) = some node.entityType
  sold
    : node.sold.IsImage (fun commodity => vocabulary.commodityNamed? commodity.commodityType)
        entry.commoditySold
  keyedSold
    : node.keyedSold.IsImage (fun commodity => vocabulary.commodityNamed? commodity.commodityType)
        (entry.commoditySold.filter (fun commodity => commodity.key.isSome))
  named : ∀ group ∈ entry.commodityBought, (group.provider? vocabulary).isSome
  providers
    : ∀ provider,
        entry.groupsFrom vocabulary provider ≠ []
        → DescribeProvider vocabulary (entry.groupsFrom vocabulary provider) provider node
  noOthers
    : ∀ provider,
        entry.groupsFrom vocabulary provider = []
        → node.bought.find? provider = none
          ∧ node.providerLabels.find? provider = none
          ∧ node.cardinalities.find? provider = none
  links : List.Forall₂ (LinkEntry.Describes vocabulary) entry.externalLink node.links
  templates
    : ∃ kind,
        Option.Rel (fun label kind => Labelled.parse? label = some kind) entry.templateType kind
        ∧ node.templates = [⟨kind, entry.templatePriority⟩]

end Entry

end Template

variable {vocabulary : Vocabulary}

-----------------------------------------------------------------------------------------
-- What has been declared is described
-----------------------------------------------------------------------------------------

/-- A part that may be missing is missing on both sides, or it stands for what is there. -/
theorem rel_of_readOptional? {α β : Type} {read : α → Option β} {part : Option α}
    {result : Option β} (h : readOptional? read part = some result)
    : Option.Rel (fun value meaning => read value = some meaning) part result := by
  cases part with
  | none =>
      obtain rfl := Option.some.inj h
      exact .none
  | some value =>
      obtain ⟨meaning, hread, rfl⟩ := Option.map_eq_some_iff.mp h
      exact .some hread

/-- A handler describes the step that it stands for. -/
theorem HandlerStep.describes_of_declared? {handler : Template.Handler} {step : HandlerStep}
    (h : declared? vocabulary handler = some step)
    : handler.Describes vocabulary step := by
  simp only [declared?, Option.bind_eq_bind, Option.bind_eq_some_iff, Option.pure_def,
    Option.some.injEq] at h
  obtain ⟨methodName, hmethod, name, hname, entityType, hentity, rfl⟩ := h
  exact ⟨hmethod, ⟨name, hname, hentity⟩, rfl⟩

/-- A property describes the propagation that it stands for, step by step. -/
theorem Propagation.describes_of_declared? {property : Template.EntityProperty}
    {propagation : Propagation} (h : declared? vocabulary property = some propagation)
    : property.Describes vocabulary propagation := by
  simp only [declared?, Option.bind_eq_bind, Option.bind_eq_some_iff, Option.pure_def,
    Option.some.injEq] at h
  obtain ⟨name, hname, entity, hentity, handlers, hhandlers, rfl⟩ := h
  obtain ⟨_, hread⟩ := readNonempty?_eq_some_iff.mp hhandlers
  exact ⟨⟨name, hname, hentity⟩, rfl, rfl,
    (forall₂_of_mapM hread).imp (fun _ _ hstep => HandlerStep.describes_of_declared? hstep)⟩

/-- A link entry describes the link that it stands for. -/
theorem Link.describes_of_declared? {node : EntityType} {entry : Template.LinkEntry} {link : Link}
    (h : declared? vocabulary node entry = some link)
    : entry.Describes vocabulary link := by
  simp only [declared?, Option.bind_eq_bind, Option.bind_eq_some_iff, Option.filter_eq_some_iff,
    readNonempty?_eq_some_iff] at h
  obtain ⟨base, ⟨hbase, _⟩, commodities, ⟨_, hcommodities⟩, names, ⟨_, hnames⟩, propagations,
    ⟨_, hpropagations⟩, hlink⟩ := h
  obtain rfl := Option.some.inj hlink
  simp only [references?, Option.bind_eq_bind, Option.bind_eq_some_iff] at hbase
  obtain ⟨seller, hseller, buyer, hbuyer, key, hkey, relationship, hrelationship, hbase⟩ := hbase
  obtain rfl := Option.some.inj hbase
  exact {
    key := rel_of_readOptional? hkey
    buyer := hbuyer
    seller := hseller
    relationship := rel_of_readOptional? hrelationship
    linkKey := rfl
    hasExternalEntity := rfl
    commodities := SortedSet.isImage_ofList hcommodities
    probeProperties := SortedSet.isImage_ofList hnames
    propagations := (forall₂_of_mapM hpropagations).imp
      (fun _ _ hp => Propagation.describes_of_declared? hp) }

-----------------------------------------------------------------------------------------
-- Purchases from one provider
-----------------------------------------------------------------------------------------

/-- Bounds that are in order are kept as they are, and no bounds give no cardinality. -/
theorem Cardinality.eq_of_declared? {least most : Option Int32} {cardinality : Option Cardinality}
    (h : declared? least most = some cardinality)
    : (if least = none ∧ most = none then none else some ⟨least, most⟩) = cardinality := by
  cases least with
  | none => cases most <;> exact Option.some.inj h
  | some least =>
      cases most with
      | none => exact Option.some.inj h
      | some most => exact Option.some.inj (Option.ite_none_left_eq_some.mp h).2

/-- A purchase is what its group states of the provider, and has the commodities of all its
items. -/
theorem Purchase.parts_of_declared? {group : Template.BoughtGroup} {purchase : Purchase}
    (h : declared? vocabulary group = some purchase)
    : group.provider? vocabulary = some purchase.provider
      ∧ group.label? = some purchase.relationship
      ∧ group.cardinality? = purchase.cardinality
      ∧ purchase.commodities.IsImage
          (fun commodity => vocabulary.commodityNamed? commodity.commodityType) group.value := by
  simp only [declared?, Option.bind_eq_bind, Option.bind_eq_some_iff, Option.pure_def,
    Option.some.injEq] at h
  obtain ⟨reference, hkey, provider, hprovider, relationship, hrelationship, cardinality,
    hcardinality, commodities, hcommodities, rfl⟩ := h
  refine ⟨?_, ?_, ?_, SortedSet.isImage_ofList hcommodities⟩
  · rw [Template.BoughtGroup.provider?, hkey, Option.bind_some]
    exact Option.bind_eq_some_iff.mpr hprovider
  · rw [Template.BoughtGroup.label?, hkey, Option.bind_some]
    exact Option.bind_eq_some_iff.mpr hrelationship
  · rw [Template.BoughtGroup.cardinality?, hkey]
    exact Cardinality.eq_of_declared? hcardinality

namespace Purchase

variable {purchases : List Purchase}

/-- Purchases from a provider. -/
def allFrom (purchases : List Purchase) (provider : EntityType) : List Purchase :=
  purchases.filter (fun purchase => purchase.provider = provider)

/-- The purchases from a provider are those of the groups that name it. -/
theorem mapM_groupsFrom {entry : Template.Entry}
    (h : entry.commodityBought.mapM (declared? vocabulary) = some purchases)
    (provider : EntityType)
    : (entry.groupsFrom vocabulary provider).mapM (declared? vocabulary)
      = some (allFrom purchases provider) := by
  refine mapM_filter h (fun group purchase hp => ?_)
  rw [(parts_of_declared? hp).1]
  simp

/-- The first bounds for a provider are those of the first purchase from it that has a cardinality,
by induction on the purchases. -/
theorem lookupEntry_filterMap_bounds? (purchases : List Purchase) (provider : EntityType)
    : lookupEntry provider (purchases.filterMap bounds?)
      = (allFrom purchases provider).findSome? cardinality := by
  induction purchases with
  | nil => rfl
  | cons purchase rest ih =>
      rw [allFrom] at ih ⊢
      by_cases hp : purchase.provider = provider
      · cases hc : purchase.cardinality <;> simp [bounds?, lookupEntry, hc, hp, ih]
      · cases hc : purchase.cardinality <;> simp [bounds?, lookupEntry, hc, hp, Ne.symm hp, ih]

end Purchase

end SupplyGraph
