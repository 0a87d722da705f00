import SupplyGraph.Compiler
import SupplyGraph.Proofs.Fault.Location

/-!
Faults of entries. Every check of an entry locates its faults in the part of the entry that it
checks, whatever else the entry has.
-/

namespace SupplyGraph

variable {vocabulary : Vocabulary} {path : FieldPath} {fault : Fault}

-----------------------------------------------------------------------------------------
-- Trade
-----------------------------------------------------------------------------------------

/-- A commodity is refused at its type. -/
theorem Template.Commodity.locatedIn_of_resolve {position : Nat} {commodity : Template.Commodity}
    (h : commodity.resolve vocabulary path position = .error fault)
    : fault.LocatedIn vocabulary (path.index position) commodity.toJson :=
  (Vocabulary.locatedIn_of_commodity h).member (by decide) rfl

/-- A provider is refused at its class, which is blank or not known. -/
theorem Purchase.locatedIn_of_provider? {reference : Template.ProviderRef}
    (h : provider? vocabulary path reference = .error fault)
    : fault.LocatedIn vocabulary path reference.toJson := by
  suffices hname
      : fault.LocatedIn vocabulary (path.field "templateClass")
          (Json.optional .string reference.templateClass) from
    hname.member (by decide) rfl
  rw [provider?] at h
  split at h
  next hempty =>
    obtain rfl := Except.error.inj h
    exact Fault.locatedIn_self ⟨reference.templateClass, rfl, String.isEmpty_iff.mp hempty⟩
  next => exact Vocabulary.locatedIn_of_reference h

/-- A group is refused at its label, which is missing or not known. -/
theorem Purchase.locatedIn_of_relationship? {provider : EntityType}
    {reference : Template.ProviderRef} (h : relationship? path provider reference = .error fault)
    : fault.LocatedIn vocabulary path reference.toJson := by
  suffices hlabel
      : fault.LocatedIn vocabulary (path.field "providerType")
          (Json.optional .string reference.providerType) from
    hlabel.member (by decide) rfl
  rw [relationship?] at h
  generalize reference.providerType = label at h ⊢
  cases label with
  | none =>
      obtain rfl := Except.error.inj h
      exact Fault.locatedIn_self rfl
  | some label => exact Relationship.locatedIn_of_ofLabel h

/-- Bounds in the wrong order are blamed on the lower one. -/
theorem Cardinality.locatedIn_of_ofBounds {least most : Option Int32}
    (h : ofBounds path least most = .error fault)
    : fault.LocatedIn vocabulary path
        (Json.optional (fun least => Json.integer least.toInt) least) := by
  cases least with
  | none => cases most <;> cases h
  | some least =>
      cases most with
      | none => cases h
      | some most =>
          rw [ofBounds] at h
          split at h
          · obtain rfl := Except.error.inj h
            exact Fault.locatedIn_self rfl
          · cases h

/-- A purchase is refused for its provider, for its relationship, for the number of providers or for
a commodity. -/
theorem Purchase.locatedIn_of_ofGroup {position : Nat} {group : Template.BoughtGroup}
    (h : ofGroup vocabulary position group = .error fault)
    : fault.LocatedIn vocabulary (.index [.field "commodityBought"] position) group.toJson := by
  rw [ofGroup] at h
  suffices hpart
      : fault.LocatedIn vocabulary
            (FieldPath.field (.index [.field "commodityBought"] position) "key")
            (Json.optional Template.ProviderRef.toJson group.key)
        ∨ fault.LocatedIn vocabulary
            (FieldPath.field (.index [.field "commodityBought"] position) "value")
            (.array (group.value.map Template.Commodity.toJson)) from
    hpart.elim (fun hkey => hkey.member (by decide) rfl)
      (fun hvalue => hvalue.member (by decide) rfl)
  generalize group.key = key at h ⊢
  cases key with
  | none =>
      obtain rfl := Except.error.inj h
      exact .inl (Fault.locatedIn_self ⟨none, rfl, rfl⟩)
  | some reference =>
      rcases bind_eq_error_iff.mp h with hprovider | ⟨provider, _, h⟩
      · exact .inl (locatedIn_of_provider? hprovider)
      rcases bind_eq_error_iff.mp h with hrelationship | ⟨relationship, _, h⟩
      · exact .inl (locatedIn_of_relationship? hrelationship)
      rcases bind_eq_error_iff.mp h with hcardinality | ⟨cardinality, _, h⟩
      · exact .inl ((Cardinality.locatedIn_of_ofBounds hcardinality).member (by decide) rfl)
      rcases bind_eq_error_iff.mp h with hcommodities | ⟨commodities, _, h⟩
      · exact .inr (locatedIn_of_collect
          (fun _ _ _ => Template.Commodity.locatedIn_of_resolve) hcommodities)
      · cases h

/-- The sold commodities are refused as an empty list or at one of them. -/
theorem Trade.locatedIn_of_soldOf {sold : List Template.Commodity}
    (h : soldOf vocabulary sold = .error fault)
    : fault.LocatedIn vocabulary [.field "commoditySold"]
        (.array (sold.map Template.Commodity.toJson)) := by
  rw [soldOf] at h
  split at h
  next hempty =>
    obtain rfl := Except.error.inj h
    rw [List.isEmpty_iff.mp hempty]
    exact Fault.locatedIn_self rfl
  next =>
    refine locatedIn_of_collect (fun position commodity fault hfault => ?_) h
    rcases bind_eq_error_iff.mp hfault with hresolve | ⟨_, _, hdone⟩
    · exact Template.Commodity.locatedIn_of_resolve hresolve
    · cases hdone

/-- The trade of an entry is refused in what it sells or in one of its groups. -/
theorem Trade.locatedIn_of_ofEntry {entry : Template.Entry}
    (h : ofEntry vocabulary entry = .error fault)
    : fault.LocatedIn vocabulary [] entry.toJson := by
  rw [ofEntry] at h
  rcases bind_eq_error_iff.mp h with hsold | ⟨_, _, h⟩
  · exact (locatedIn_of_soldOf hsold).member (by decide) rfl
  rcases bind_eq_error_iff.mp h with hbought | ⟨_, _, h⟩
  · have hgroups
        : fault.LocatedIn vocabulary [.field "commodityBought"]
            (.array (entry.commodityBought.map Template.BoughtGroup.toJson)) :=
      locatedIn_of_collect (fun _ _ _ => Purchase.locatedIn_of_ofGroup) hbought
    exact hgroups.member (by decide) rfl
  · cases h

theorem Trade.collect_of_ofEntry_eq_ok {entry : Template.Entry} {trade : Trade}
    (h : ofEntry vocabulary entry = .ok trade)
    : Sequence.collect (Purchase.ofGroup vocabulary) entry.commodityBought = .ok trade.bought := by
  rw [ofEntry] at h
  obtain ⟨_, _, h⟩ := bind_eq_ok_iff.mp h
  obtain ⟨bought, hbought, h⟩ := bind_eq_ok_iff.mp h
  obtain rfl := pure_eq_ok_iff.mp h
  exact hbought

-----------------------------------------------------------------------------------------
-- Providers
-----------------------------------------------------------------------------------------

/-- The label of a purchase stands in the group that declares it. -/
theorem Purchase.exists_of_ofGroup_eq_ok {position : Nat} {group : Template.BoughtGroup}
    {purchase : Purchase} (h : ofGroup vocabulary position group = .ok purchase)
    : ∃ reference label,
        group.key = some reference
        ∧ reference.providerType = some label
        ∧ Labelled.parse? label = some purchase.relationship := by
  rw [← toOption_eq_some_iff, toOption_ofGroup, declared?] at h
  obtain ⟨reference, hkey, h⟩ := Option.bind_eq_some_iff.mp h
  obtain ⟨_, _, h⟩ := Option.bind_eq_some_iff.mp h
  obtain ⟨relationship, hrelationship, h⟩ := Option.bind_eq_some_iff.mp h
  obtain ⟨label, hlabel, hparse⟩ := Option.bind_eq_some_iff.mp hrelationship
  obtain ⟨_, _, h⟩ := Option.bind_eq_some_iff.mp h
  obtain ⟨_, _, h⟩ := Option.bind_eq_some_iff.mp h
  obtain rfl := Option.some.inj h
  exact ⟨reference, label, hkey, hlabel, hparse⟩

/-- A conflict of labels blames the part that holds the later label. -/
theorem Labels.blames_of_conflict? {labels : Labels} {provider : EntityType}
    {declared : Relationship} {cause : Cause} (h : labels.conflict? provider declared = some cause)
    {label : String} (hlabel : Labelled.parse? label = some declared)
    : cause.Blames vocabulary (.string label) := by
  rw [conflict?] at h
  cases hfind : labels.find? provider with
  | none => simp [hfind] at h
  | some existing =>
      simp only [hfind] at h
      split at h
      · cases h
      · obtain rfl := Option.some.inj h
        rw [Cause.Blames, label_of_parse?_eq_some hlabel]
        exact holds_string label

/-- Adding a purchase fails where the group states the relationship. -/
theorem Provision.locatedIn_of_add {provision : Provision} {position : Nat}
    {group : Template.BoughtGroup} {purchase : Purchase}
    (hp : Purchase.ofGroup vocabulary position group = .ok purchase)
    (h : provision.add position purchase = .error fault)
    : fault.LocatedIn vocabulary (.index [.field "commodityBought"] position) group.toJson := by
  obtain ⟨reference, label, hkey, hlabel, hparse⟩ := Purchase.exists_of_ofGroup_eq_ok hp
  suffices hpart
      : fault.LocatedIn vocabulary
          (FieldPath.field (.index [.field "commodityBought"] position) "key")
          (Json.optional Template.ProviderRef.toJson group.key) from
    hpart.member (by decide) rfl
  suffices hpart
      : fault.LocatedIn vocabulary
          (FieldPath.field
            (FieldPath.field (.index [.field "commodityBought"] position) "key") "providerType")
          (Json.optional .string reference.providerType) by
    rw [hkey]
    exact hpart.member (by decide) rfl
  rw [add] at h
  rcases bind_eq_error_iff.mp h with hdeclare | ⟨labels, _, h⟩
  · rw [Labels.declare] at hdeclare
    split at hdeclare
    next cause hconflict =>
      obtain rfl := Except.error.inj hdeclare
      rw [hlabel]
      exact Fault.locatedIn_self (Labels.blames_of_conflict? hconflict hparse)
    next => cases hdeclare
  · by_cases hhosting : purchase.relationship.isHosting = true
    · simp only [if_pos hhosting] at h
      cases h
    · simp only [if_neg hhosting] at h
      cases h

/-- Two labels of one provider are a conflict in the group that declares the later one. -/
theorem Provision.locatedIn_of_ofPurchases {entry : Template.Entry} {bought : List Purchase}
    (hb : Sequence.collect (Purchase.ofGroup vocabulary) entry.commodityBought = .ok bought)
    (h : ofPurchases bought = .error fault)
    : fault.LocatedIn vocabulary [] entry.toJson := by
  obtain ⟨provision, ⟨purchase, position⟩, hm, hadd⟩ := exists_of_foldlM_eq_error h
  obtain ⟨group, hgroup, hpurchase⟩ :=
    Sequence.exists_of_collect_eq_ok hb (List.mem_zipIdx_iff_getElem?.mp hm)
  have hgroups
      : fault.LocatedIn vocabulary [.field "commodityBought"]
          (.array (entry.commodityBought.map Template.BoughtGroup.toJson)) :=
    (locatedIn_of_add hpurchase hadd).item hgroup
  exact hgroups.member (by decide) rfl

-----------------------------------------------------------------------------------------
-- Properties of links
-----------------------------------------------------------------------------------------

/-- A handler is refused at a member of its own, whatever handlers follow it. -/
theorem HandlerStep.locatedIn_of_ofHandler {handler : Template.Handler}
    {rest : List Template.Handler} (h : ofHandler vocabulary path handler = .error fault)
    : fault.LocatedIn vocabulary path (Template.Handler.chainToJson (handler :: rest)) := by
  suffices hpart
      : fault.LocatedIn vocabulary (path.field "methodName")
            (Json.optional .string handler.methodName)
        ∨ fault.LocatedIn vocabulary (path.field "entityType")
            (Json.optional .string handler.entityType) from
    hpart.elim (fun hmethod => hmethod.member (by decide) rfl)
      (fun hentity => hentity.member (by decide) rfl)
  rw [ofHandler] at h
  split at h
  next hempty =>
    obtain rfl := Except.error.inj h
    exact .inl (Fault.locatedIn_self ⟨handler.methodName, rfl, String.isEmpty_iff.mp hempty⟩)
  next =>
    generalize handler.entityType = name at h ⊢
    cases name with
    | none =>
        obtain rfl := Except.error.inj h
        exact .inr (Fault.locatedIn_self rfl)
    | some name =>
        rcases bind_eq_error_iff.mp h with hreference | ⟨_, _, h⟩
        · exact .inr (Vocabulary.locatedIn_of_reference hreference)
        · cases h

/-- The path goes one handler down where the chain does, by induction on the chain. -/
theorem HandlerStep.locatedIn_of_ofChain {handlers : List Template.Handler}
    (h : ofChain vocabulary path handlers = .error fault)
    : fault.LocatedIn vocabulary path (Template.Handler.chainToJson handlers) := by
  induction handlers generalizing path with
  | nil => cases h
  | cons handler rest ih =>
      rw [ofChain] at h
      rcases bind_eq_error_iff.mp h with hhandler | ⟨_, _, h⟩
      · exact locatedIn_of_ofHandler hhandler
      rcases bind_eq_error_iff.mp h with hrest | ⟨_, _, h⟩
      · exact (ih hrest).member (by decide) rfl
      · cases h

/-- A chain is refused as missing or somewhere along it. -/
theorem HandlerStep.locatedIn_of_ofHandlers {handlers : List Template.Handler}
    (h : ofHandlers vocabulary path handlers = .error fault)
    : fault.LocatedIn vocabulary path (Template.Handler.chainToJson handlers) := by
  rw [ofHandlers] at h
  split at h
  next hempty =>
    obtain rfl := Except.error.inj h
    rw [List.isEmpty_iff.mp hempty]
    exact Fault.locatedIn_self rfl
  next => exact locatedIn_of_ofChain h

/-- A property is refused at its entity type or in its chain of handlers. -/
theorem Propagation.locatedIn_of_ofProperty {position : Nat} {property : Template.EntityProperty}
    (h : ofProperty vocabulary path position property = .error fault)
    : fault.LocatedIn vocabulary (path.index position) property.toJson := by
  suffices hpart
      : fault.LocatedIn vocabulary ((path.index position).field "entity")
            (Json.optional .string property.entity)
        ∨ fault.LocatedIn vocabulary ((path.index position).field "propertyHandler")
            (Template.Handler.chainToJson property.handlers) from
    hpart.elim (fun hentity => hentity.member (by decide) rfl)
      (fun hhandlers => hhandlers.member (by decide) rfl)
  rw [ofProperty] at h
  generalize property.entity = name at h ⊢
  cases name with
  | none =>
      obtain rfl := Except.error.inj h
      exact .inl (Fault.locatedIn_self rfl)
  | some name =>
      rcases bind_eq_error_iff.mp h with hreference | ⟨_, _, h⟩
      · exact .inl (Vocabulary.locatedIn_of_reference hreference)
      rcases bind_eq_error_iff.mp h with hhandlers | ⟨_, _, h⟩
      · exact .inr (HandlerStep.locatedIn_of_ofHandlers hhandlers)
      · cases h

theorem locatedIn_of_probePropertyName {position : Nat} {property : Template.ProbeProperty}
    (h : probePropertyName path position property = .error fault)
    : fault.LocatedIn vocabulary (path.index position) property.toJson := by
  suffices hname
      : fault.LocatedIn vocabulary ((path.index position).field "name")
          (Json.optional .string property.name) from
    hname.member (by decide) rfl
  rw [probePropertyName] at h
  split at h
  next hempty =>
    obtain rfl := Except.error.inj h
    exact Fault.locatedIn_self ⟨property.name, rfl, String.isEmpty_iff.mp hempty⟩
  next => cases h

-----------------------------------------------------------------------------------------
-- Links
-----------------------------------------------------------------------------------------

/-- The buyer of the link is the one that the declaration refers to, and its relationship is the one
with the label in the declaration. -/
structure Link.RefersAs (vocabulary : Vocabulary) (declaration : Template.LinkDeclaration)
    (link : Link)
    : Prop where
  buyer : vocabulary.entityNamed? declaration.buyerRef = some link.buyer
  relationship
    : ∀ declared ∈ link.relationship,
        ∃ label,
          declaration.relationship = some label ∧ Labelled.parse? label = some declared

section Rules

variable {context : LinkContext} {declaration : Template.LinkDeclaration} {link : Link}

/-- A list of a declaration is refused as a whole if it is empty, and else for one of its items. -/
theorem LinkRule.locatedIn_of_fill {α β : Type} {encode : α → Json} {cause : Cause}
    {check : Nat → α → Except Fault β} {items : List α} {add : Link → List β → Link}
    (h : (fill link ⟨path, cause⟩ check items add).2 = some fault)
    (hmissing : cause.Blames vocabulary (.array []))
    (hcheck
      : ∀ position item fault,
          check position item = .error fault
          → fault.LocatedIn vocabulary (path.index position) (encode item))
    : fault.LocatedIn vocabulary path (.array (items.map encode)) := by
  rw [fill] at h
  split at h
  next hempty =>
    obtain rfl := Option.some.inj h
    rw [List.isEmpty_iff.mp hempty]
    exact Fault.locatedIn_self hmissing
  next => exact locatedIn_of_run hcheck (Prod.ext rfl h)

/-- Every rule locates its fault in the declaration of the link. -/
theorem LinkRule.locatedIn_of_apply {rule : LinkRule}
    (hlink : link.RefersAs context.vocabulary declaration)
    (h : (rule.apply context path declaration link).2 = some fault)
    : fault.LocatedIn context.vocabulary path declaration.toJson := by
  cases rule with
  | scope =>
      rw [apply] at h
      split at h
      · cases h
      · obtain rfl := Option.some.inj h
        have hblames
            : (Cause.linkOutOfScope context.node link.buyer link.seller).Blames
                context.vocabulary (Json.optional .string declaration.buyerRef) :=
          ⟨_, holds_optional declaration.buyerRef, hlink.buyer⟩
        exact (Fault.locatedIn_self hblames).member (by decide) rfl
  | commodityDefs =>
      rw [apply] at h
      have hlist
          : fault.LocatedIn context.vocabulary (path.field "commodityDefs")
              (.array (declaration.commodityDefs.map Template.CommodityDef.toJson)) := by
        refine locatedIn_of_fill h rfl (fun position definition fault hfault => ?_)
        exact (Vocabulary.locatedIn_of_commodity hfault).member (by decide) rfl
      exact hlist.member (by decide) rfl
  | probeProperties =>
      rw [apply] at h
      have hlist
          : fault.LocatedIn context.vocabulary (path.field "probeEntityPropertyDef")
              (.array (declaration.probeProperties.map Template.ProbeProperty.toJson)) :=
        locatedIn_of_fill h rfl (fun _ _ _ => locatedIn_of_probePropertyName)
      exact hlist.member (by decide) rfl
  | entityProperties =>
      rw [apply] at h
      have hlist
          : fault.LocatedIn context.vocabulary (path.field "externalEntityPropertyDefs")
              (.array (declaration.entityProperties.map Template.EntityProperty.toJson)) :=
        locatedIn_of_fill h rfl (fun _ _ _ => Propagation.locatedIn_of_ofProperty)
      exact hlist.member (by decide) rfl
  | hostingConsistency =>
      suffices hpart
          : fault.LocatedIn context.vocabulary (path.field "relationship")
              (Json.optional .string declaration.relationship) from
        hpart.member (by decide) rfl
      rw [apply] at h
      split at h
      next => cases h
      next declared hdeclared =>
        obtain ⟨cause, hconflict, rfl⟩ := Option.map_eq_some_iff.mp h
        rw [Link.declaredLabel?] at hdeclared
        split at hdeclared
        next =>
          obtain ⟨label, hlabel, hparse⟩ := hlink.relationship declared hdeclared
          rw [hlabel]
          exact Fault.locatedIn_self (Labels.blames_of_conflict? hconflict hparse)
        next => cases hdeclared

/-- Rules only add to a link; what it refers to stays. -/
theorem LinkRule.refersAs_apply (rule : LinkRule)
    (hlink : link.RefersAs context.vocabulary declaration)
    : (rule.apply context path declaration link).1.RefersAs context.vocabulary declaration := by
  obtain ⟨hbuyer, hrelationship⟩ := hlink
  cases rule with
  | scope | hostingConsistency =>
      rw [apply]
      split <;> exact ⟨hbuyer, hrelationship⟩
  | commodityDefs | probeProperties | entityProperties =>
      rw [apply]
      dsimp only [fill]
      split <;> exact ⟨hbuyer, hrelationship⟩

/-- By induction on the rules, each of which leaves what the link refers to as it is. -/
theorem LinkRule.locatedIn_of_applyAll {rules : List LinkRule}
    (hlink : link.RefersAs context.vocabulary declaration)
    (h : applyAll context path declaration rules link = .error fault)
    : fault.LocatedIn context.vocabulary path declaration.toJson := by
  induction rules generalizing link with
  | nil => cases h
  | cons rule rest ih =>
      rw [applyAll, List.foldlM_cons] at h
      rcases bind_eq_error_iff.mp h with hrule | ⟨next, hnext, hrest⟩
      · split at hrule
        next => cases hrule
        next heq =>
          obtain rfl := Except.error.inj hrule
          exact locatedIn_of_apply hlink (congrArg Prod.snd heq)
      · split at hnext
        next extended heq =>
          obtain rfl := Except.ok.inj hnext
          have hextended
              : (rule.apply context path declaration link).1.RefersAs context.vocabulary
                  declaration :=
            rule.refersAs_apply hlink
          rw [heq] at hextended
          exact ih hextended hrest
        next => cases hnext

end Rules

/-- The buyer of a link and its relationship are those that are written in its declaration. -/
theorem Link.refersAs_of_ofReferences {entry : Template.LinkEntry} {link : Link}
    (h : ofReferences vocabulary path entry = .ok link)
    : link.RefersAs vocabulary entry.value := by
  rw [ofReferences] at h
  obtain ⟨seller, _, h⟩ := bind_eq_ok_iff.mp h
  obtain ⟨buyer, hbuyer, h⟩ := bind_eq_ok_iff.mp h
  obtain ⟨key, _, h⟩ := bind_eq_ok_iff.mp h
  obtain ⟨relationship, hrelationship, h⟩ := bind_eq_ok_iff.mp h
  obtain rfl := pure_eq_ok_iff.mp h
  constructor
  · rw [← toOption_eq_some_iff, Vocabulary.toOption_reference] at hbuyer
    exact hbuyer
  · rintro declared ⟨⟩
    rw [← toOption_eq_some_iff, toOption_checkOptional] at hrelationship
    cases hlabel : entry.value.relationship with
    | none => simp [hlabel, readOptional?] at hrelationship
    | some label => exact ⟨label, rfl, by simpa [hlabel, readOptional?] using hrelationship⟩

/-- A link is refused for the seller or the buyer, for its key or for its relationship, in this
order. -/
theorem Link.locatedIn_of_ofReferences {entry : Template.LinkEntry}
    (h : ofReferences vocabulary path entry = .error fault)
    : fault.LocatedIn vocabulary path entry.toJson := by
  suffices hpart
      : fault.LocatedIn vocabulary (path.field "key") (Json.optional .string entry.key)
        ∨ fault.LocatedIn vocabulary (path.field "value") entry.value.toJson from
    hpart.elim (fun hkey => hkey.member (by decide) rfl)
      (fun hvalue => hvalue.member (by decide) rfl)
  rw [ofReferences] at h
  rcases bind_eq_error_iff.mp h with hseller | ⟨_, _, h⟩
  · exact .inr ((Vocabulary.locatedIn_of_reference hseller).member (by decide) rfl)
  rcases bind_eq_error_iff.mp h with hbuyer | ⟨_, _, h⟩
  · exact .inr ((Vocabulary.locatedIn_of_reference hbuyer).member (by decide) rfl)
  rcases bind_eq_error_iff.mp h with hkey | ⟨_, _, h⟩
  · exact .inl (locatedIn_of_checkOptional (fun _ _ => Vocabulary.locatedIn_of_reference) hkey)
  rcases bind_eq_error_iff.mp h with hrelationship | ⟨_, _, h⟩
  · have hlabel
        : fault.LocatedIn vocabulary ((path.field "value").field "relationship")
            (Json.optional .string entry.value.relationship) :=
      locatedIn_of_checkOptional (fun _ _ => Relationship.locatedIn_of_ofLabel) hrelationship
    exact .inr (hlabel.member (by decide) rfl)
  · cases h

/-- A link is refused at one of its references or in what one of the rules checks. -/
theorem Link.locatedIn_of_validate {context : LinkContext} {position : Nat}
    {entry : Template.LinkEntry} (h : validate context position entry = .error fault)
    : fault.LocatedIn context.vocabulary (.index [.field "externalLink"] position)
        entry.toJson := by
  rw [validate] at h
  rcases bind_eq_error_iff.mp h with hreferences | ⟨link, hlink, hrules⟩
  · exact locatedIn_of_ofReferences hreferences
  · have hvalue := LinkRule.locatedIn_of_applyAll (refersAs_of_ofReferences hlink) hrules
    exact hvalue.member (by decide) rfl

/-- The links of an entry are refused for one of them, in whatever context the links before it have
left. By induction on the link entries. -/
theorem Link.exists_of_validateFrom_eq_error {context : LinkContext} {position : Nat}
    {entries : List Template.LinkEntry} (h : validateFrom context position entries = .error fault)
    : ∃ later entry,
        entries[later]? = some entry
        ∧ fault.LocatedIn context.vocabulary
            (.index [.field "externalLink"] (position + later)) entry.toJson := by
  induction entries generalizing context position with
  | nil => cases h
  | cons entry rest ih =>
      rw [validateFrom] at h
      rcases bind_eq_error_iff.mp h with hentry | ⟨link, _, h⟩
      · exact ⟨0, entry, rfl, locatedIn_of_validate hentry⟩
      rcases bind_eq_error_iff.mp h with hrest | ⟨_, _, h⟩
      · obtain ⟨later, refused, hrefused, hfault⟩ := ih hrest
        have hvocabulary : (context.after link).vocabulary = context.vocabulary := by
          rw [LinkContext.after]
          split <;> rfl
        rw [hvocabulary, Nat.add_assoc, Nat.add_comm 1] at hfault
        exact ⟨later + 1, refused, hrefused, hfault⟩
      · cases h

-----------------------------------------------------------------------------------------
-- Entries
-----------------------------------------------------------------------------------------

/-- Whatever an entry is refused for, the field leads from the entry to the part to blame. -/
theorem Node.locatedIn_of_ofEntry {entry : Template.Entry}
    (h : ofEntry vocabulary entry = .error fault)
    : fault.LocatedIn vocabulary [] entry.toJson := by
  rw [ofEntry] at h
  rcases bind_eq_error_iff.mp h with hclass | ⟨_, _, h⟩
  · have hreference
        : vocabulary.reference [.field "templateClass"] (some entry.templateClass)
          = .error fault :=
      hclass
    exact (Vocabulary.locatedIn_of_reference hreference).member (by decide) rfl
  rcases bind_eq_error_iff.mp h with hkind | ⟨_, _, h⟩
  · have hlabel
        : fault.LocatedIn vocabulary [.field "templateType"]
            (Json.optional .string entry.templateType) :=
      locatedIn_of_checkOptional (fun _ _ => TemplateKind.locatedIn_of_ofLabel) hkind
    exact hlabel.member (by decide) rfl
  rcases bind_eq_error_iff.mp h with htrade | ⟨trade, htrade, h⟩
  · exact Trade.locatedIn_of_ofEntry htrade
  rcases bind_eq_error_iff.mp h with hprovision | ⟨_, _, h⟩
  · exact Provision.locatedIn_of_ofPurchases (Trade.collect_of_ofEntry_eq_ok htrade) hprovision
  rcases bind_eq_error_iff.mp h with hlinks | ⟨_, _, h⟩
  · obtain ⟨position, link, hlink, hfault⟩ := Link.exists_of_validateFrom_eq_error hlinks
    rw [Nat.zero_add] at hfault
    exact (hfault.item hlink).member (by decide) rfl
  · cases h

end SupplyGraph
