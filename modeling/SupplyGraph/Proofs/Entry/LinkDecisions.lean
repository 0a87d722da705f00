import SupplyGraph.Proofs.Entry.Decisions
import SupplyGraph.Proofs.Entry.Links

/-!
What decides a link. Its references come first, then the rules in their order, each of which leaves
the references alone; the labels that a link is compared with are those stated before it.
-/

namespace SupplyGraph

open Check

variable {vocabulary : Vocabulary}

-----------------------------------------------------------------------------------------
-- Labels as they are stated
-----------------------------------------------------------------------------------------

/-- What a link refers to is found under the names in its declaration. -/
theorem Link.named_of_references? {entry : Template.LinkEntry} {link : Link}
    (h : references? vocabulary entry = some link)
    : vocabulary.entityNamed? entry.value.sellerRef = some link.seller
      ∧ vocabulary.entityNamed? entry.value.buyerRef = some link.buyer
      ∧ readOptional? Labelled.parse? entry.value.relationship = some link.relationship := by
  simp only [references?, Option.bind_eq_bind, Option.bind_eq_some_iff] at h
  obtain ⟨seller, hseller, buyer, hbuyer, key, _, relationship, hrelationship, hlink⟩ := h
  obtain rfl := Option.some.inj hlink
  exact ⟨hseller, hbuyer, hrelationship⟩

/-- The label that a link entry states is the one that its link gives to its seller. -/
theorem Link.stated?_of_references? {node : EntityType} {entry : Template.LinkEntry} {link : Link}
    (h : references? vocabulary entry = some link)
    : entry.stated? vocabulary (some node) = link.label? node := by
  obtain ⟨hseller, hbuyer, hrelationship⟩ := named_of_references? h
  simp only [Template.LinkEntry.stated?, hseller, hbuyer, Link.label?, Link.declaredLabel?,
    Option.bind_eq_bind, Option.bind_some]
  cases hr : entry.value.relationship with
  | none =>
      rw [hr, readOptional?] at hrelationship
      simp [← Option.some.inj hrelationship]
  | some label =>
      rw [hr, readOptional?, Option.map_eq_some_iff] at hrelationship
      obtain ⟨relationship, hl, hlink⟩ := hrelationship
      by_cases hn : link.buyer = node
      · simp [hl, ← hlink, hn]
      · have hn' : ¬ node = link.buyer := fun he => hn he.symm
        simp [hl, hn, hn']

/-- The label that a link entry states is the one of the link that it stands for. -/
theorem Link.stated?_of_declared? {node : EntityType} {entry : Template.LinkEntry} {link : Link}
    (h : declared? vocabulary node entry = some link)
    : entry.stated? vocabulary (some node) = link.label? node := by
  simp only [declared?, Option.bind_eq_bind, Option.bind_eq_some_iff, Option.filter_eq_some_iff]
    at h
  obtain ⟨base, ⟨hbase, _⟩, commodities, _, names, _, propagations, _, hlink⟩ := h
  rw [stated?_of_references? hbase, ← Option.some.inj hlink]
  rfl

variable (vocabulary)

-----------------------------------------------------------------------------------------
-- Properties and references
-----------------------------------------------------------------------------------------

/-- A handler is checked for its method name, for its entity type and for what the type means. -/
theorem decides_ofHandler (path : FieldPath) (handler : Template.Handler)
    : Decides
        [ Check.require (path.field "methodName") (nonBlank? handler.methodName).isSome
            (.incompleteHandler .noMethodName),
          Check.require (path.field "entityType") handler.entityType.isSome
            (.incompleteHandler .noEntityType),
          knownEntity vocabulary (path.field "entityType") handler.entityType]
        (HandlerStep.ofHandler vocabulary path handler) := by
  rw [HandlerStep.ofHandler, nonBlank?]
  by_cases hb : (Text.trim (handler.methodName.getD "")).isEmpty
  · simp only [hb, if_true]
    exact Decides.failing rfl _
  · simp only [hb]
    refine Decides.passing rfl ?_
    cases handler.entityType with
    | none => exact Decides.failing rfl _
    | some name => exact Decides.passing rfl ((decides_reference vocabulary _ _).bind_pure _)

theorem decides_ofChain (path : FieldPath) (handlers : List Template.Handler) (depth : Nat)
    : Decides
        ((handlers.zipIdx depth).flatMap (fun (handler, depth) =>
          Template.Handler.checksAt vocabulary path depth handler))
        (HandlerStep.ofChain vocabulary
          (path ++ List.replicate depth (.field "nextHandler")) handlers) := by
  induction handlers generalizing depth with
  | nil => exact Decides.ok _
  | cons handler rest ih =>
      rw [List.zipIdx_cons, List.flatMap_cons, HandlerStep.ofChain]
      refine (decides_ofHandler vocabulary _ handler).bind (fun step _ => ?_)
      have hdeeper
          : (path ++ List.replicate depth (Step.field "nextHandler")) ++ [.field "nextHandler"]
            = path ++ List.replicate (depth + 1) (.field "nextHandler") := by
        rw [List.append_assoc, ← List.replicate_succ']
      have hrest := ih (depth + 1)
      rw [← hdeeper] at hrest
      exact hrest.bind_pure _

/-- A chain of handlers is refused at its own field if it is empty. -/
theorem decides_ofHandlers (path : FieldPath) (handlers : List Template.Handler)
    : Decides
        (nonEmpty path (.incompleteHandler .noHandler) (Template.Handler.checksAt vocabulary path)
          handlers)
        (HandlerStep.ofHandlers vocabulary path handlers) := by
  cases handlers with
  | nil => exact Decides.failing rfl _
  | cons handler rest =>
      have hchain := decides_ofChain vocabulary path (handler :: rest) 0
      rw [List.replicate_zero, List.append_nil] at hchain
      exact Decides.passing rfl hchain

/-- A property is checked for its entity type before its handlers are. -/
theorem decides_ofProperty (list : FieldPath) (position : Nat) (property : Template.EntityProperty)
    : Decides (property.checks vocabulary (list.index position))
        (Propagation.ofProperty vocabulary list position property) := by
  obtain ⟨entity, attributeName, useTopoExt, handlers⟩ := property
  cases entity with
  | none => exact Decides.failing rfl _
  | some name =>
      refine Decides.passing rfl ?_
      refine (decides_reference vocabulary _ _).bind (fun entity _ => ?_)
      exact (decides_ofHandlers vocabulary _ _).bind_pure _

/-- A reported property is checked for nothing but its name. -/
theorem decides_probePropertyName (list : FieldPath) (position : Nat)
    (property : Template.ProbeProperty)
    : Decides
        [ Check.require ((list.index position).field "name") (nonBlank? property.name).isSome
            (.missingProbeProperties .unnamedDefinition)]
        (probePropertyName list position property) := by
  rw [probePropertyName, nonBlank?]
  by_cases hb : (Text.trim (property.name.getD "")).isEmpty
  · simp only [hb, if_true]
    exact Decides.failing rfl _
  · simp only [hb]
    exact Decides.passing rfl (Decides.ok _)

/-- The seller of a link is checked first, then the buyer, the key and the relationship. -/
theorem decides_ofReferences (path : FieldPath) (entry : Template.LinkEntry)
    : Decides (entry.referenceChecks vocabulary path)
        (Link.ofReferences vocabulary path entry) := by
  rw [Link.ofReferences, Template.LinkEntry.referenceChecks]
  refine (decides_reference vocabulary _ _).bind (fun seller _ => ?_)
  refine (decides_reference vocabulary _ _).bind (fun buyer _ => ?_)
  refine Decides.bind ?_ (fun key _ => Decides.bind_pure ?_ _)
  · exact decides_checkOptional
      (fun key =>
        (key.map (fun name => knownEntity vocabulary (path.field "key") (some name))).toList)
      rfl (fun name => decides_reference vocabulary _ _) entry.key
  · exact decides_checkOptional
      (fun label => [knownLabel Relationship _ .unknownRelationship label])
      rfl (decides_relationship _) entry.value.relationship

/-- The rules are applied one after the other, each of them to what the rules before it made. -/
theorem LinkRule.applyAll_cons (context : LinkContext) (path : FieldPath)
    (declaration : Template.LinkDeclaration) (rule : LinkRule) (rules : List LinkRule)
    (link : Link)
    : applyAll context path declaration (rule :: rules) link
      = outcomeOf (rule.apply context path declaration link)
        >>= applyAll context path declaration rules := by
  rw [applyAll, List.foldlM_cons]
  cases rule.apply context path declaration link with
  | mk next fault => cases fault <;> rfl

/-- A rule leaves the references of a link alone, and so its label. -/
theorem LinkRule.label?_of_outcome {context : LinkContext} {path : FieldPath}
    {declaration : Template.LinkDeclaration} {rule : LinkRule} {link next : Link}
    (h : outcomeOf (rule.apply context path declaration link) = .ok next) (node : EntityType)
    : next.label? node = link.label? node := by
  have hpassed := outcomeOf_eq_ok_iff.mp h
  cases rule with
  | scope =>
      obtain ⟨_, rfl⟩ := apply_scope_eq_iff.mp hpassed
      rfl
  | commodityDefs =>
      obtain ⟨_, _, rfl⟩ := apply_commodityDefs_eq_iff.mp hpassed
      rfl
  | probeProperties =>
      obtain ⟨_, _, rfl⟩ := apply_probeProperties_eq_iff.mp hpassed
      rfl
  | entityProperties =>
      obtain ⟨_, _, rfl⟩ := apply_entityProperties_eq_iff.mp hpassed
      rfl
  | hostingConsistency =>
      obtain ⟨_, rfl⟩ := apply_hostingConsistency_eq_iff.mp hpassed
      rfl

/-- A section is decided by its list not being empty and by its items. -/
theorem decides_fill {α β : Type} {checks : Nat → α → List Check}
    {check : Nat → α → Except Fault β}
    (h : ∀ position item, Decides (checks position item) (check position item)) (link : Link)
    (field : FieldPath) (missing : Cause) (items : List α) (add : Link → List β → Link)
    : Decides (nonEmpty field missing checks items)
        (outcomeOf (LinkRule.fill link ⟨field, missing⟩ check items add)) := by
  cases items with
  | nil => exact Decides.failing rfl _
  | cons item rest =>
      refine Decides.passing rfl ?_
      rw [Decides, inTurn, Decides.run h, faultOf?_outcomeOf]
      rfl

section Sections

variable (context : LinkContext) (path : FieldPath) (declaration : Template.LinkDeclaration)
  (link : Link)

/-- The scope is checked against the two sides that the link was found to have. -/
theorem decides_scope {node : Option EntityType} (hnode : node = some context.node)
    {entry : Template.LinkEntry} (h : Link.references? context.vocabulary entry = some link)
    : Decides [⟨path.field "buyerRef", entry.outOfScope? context.vocabulary node⟩]
        (outcomeOf (LinkRule.scope.apply context path declaration link)) := by
  obtain ⟨hseller, hbuyer, _⟩ := Link.named_of_references? h
  simp only [Template.LinkEntry.outOfScope?, hnode, hseller, hbuyer, Option.bind_eq_bind,
    Option.bind_some]
  rw [LinkRule.apply]
  by_cases hs : context.node = link.buyer ∨ context.node = link.seller
  · simp only [if_pos hs]
    exact Decides.passing rfl (Decides.ok _)
  · simp only [if_neg hs]
    exact Decides.failing rfl _

theorem decides_commodityDefs
    : Decides (Template.LinkDeclaration.commodityChecks context.vocabulary path declaration)
        (outcomeOf (LinkRule.commodityDefs.apply context path declaration link)) := by
  rw [LinkRule.apply]
  exact decides_fill (fun index definition => decides_commodity context.vocabulary _ _) _ _ _ _ _

theorem decides_probeProperties
    : Decides (Template.LinkDeclaration.probeChecks path declaration)
        (outcomeOf (LinkRule.probeProperties.apply context path declaration link)) := by
  rw [LinkRule.apply]
  exact decides_fill (decides_probePropertyName _) _ _ _ _ _

theorem decides_entityProperties
    : Decides (Template.LinkDeclaration.propertyChecks context.vocabulary path declaration)
        (outcomeOf (LinkRule.entityProperties.apply context path declaration link)) := by
  rw [LinkRule.apply]
  exact decides_fill (decides_ofProperty context.vocabulary _) _ _ _ _ _

/-- The label of a link is checked against the labels that the node has from before. -/
theorem decides_hostingConsistency {pairs : List (EntityType × Relationship)}
    (h : SingleValued pairs) (hlabels : context.labels = SortedMap.firsts pairs)
    : Decides
        [⟨path.field "relationship",
          (link.label? context.node).bind (contradiction? pairs)⟩]
        (outcomeOf (LinkRule.hostingConsistency.apply context path declaration link)) := by
  simp only [LinkRule.apply, Link.label?, hlabels]
  cases link.declaredLabel? context.node with
  | none => exact Decides.passing rfl (Decides.ok _)
  | some declared =>
      have hconflict := Labels.conflict?_firsts h (link.seller, declared)
      simp only [Option.map_some, Option.bind_some, ← hconflict]
      cases Labels.conflict? (SortedMap.firsts pairs) link.seller declared with
      | none => exact Decides.passing rfl (Decides.ok _)
      | some cause => exact Decides.failing rfl _

end Sections

/-- Rules are decided by the checks of the first one and, if it passes, by those of the others. -/
theorem decides_applyAll_cons {context : LinkContext} {path : FieldPath}
    {declaration : Template.LinkDeclaration} {rule : LinkRule} {rules : List LinkRule}
    {link : Link} {first second : List Check}
    (h : Decides first (outcomeOf (rule.apply context path declaration link)))
    (hn : ∀ next, outcomeOf (rule.apply context path declaration link) = .ok next →
      Decides second (LinkRule.applyAll context path declaration rules next))
    : Decides (first ++ second)
        (LinkRule.applyAll context path declaration (rule :: rules) link) := by
  rw [LinkRule.applyAll_cons]
  exact h.bind hn

/-- A link behind labels of which no two contradict each other is decided by its checks. -/
theorem decides_validate (context : LinkContext) {pairs : List (EntityType × Relationship)}
    (h : SingleValued pairs) (hlabels : context.labels = SortedMap.firsts pairs) (position : Nat)
    (entry : Template.LinkEntry)
    : Decides (entry.checks context.vocabulary (some context.node) pairs position)
        (Link.validate context position entry) := by
  simp only [Template.LinkEntry.checks, List.append_assoc, Link.validate, LinkRule.all]
  refine (decides_ofReferences context.vocabulary _ entry).bind (fun link hlink => ?_)
  have hreferences := toOption_eq_some_iff.mpr hlink
  rw [Link.toOption_ofReferences] at hreferences
  rw [Link.stated?_of_references? hreferences]
  refine decides_applyAll_cons (decides_scope context _ _ link rfl hreferences)
    (fun first hfirst => ?_)
  refine decides_applyAll_cons (decides_commodityDefs context _ _ first) (fun second hsecond => ?_)
  refine decides_applyAll_cons (decides_probeProperties context _ _ second)
    (fun third hthird => ?_)
  refine decides_applyAll_cons (decides_entityProperties context _ _ third)
    (fun fourth hfourth => ?_)
  rw [← LinkRule.label?_of_outcome hfirst, ← LinkRule.label?_of_outcome hsecond,
    ← LinkRule.label?_of_outcome hthird, ← LinkRule.label?_of_outcome hfourth,
    ← List.append_nil [_]]
  exact decides_applyAll_cons (decides_hostingConsistency context _ _ fourth h hlabels)
    (fun final _ => Decides.ok final)

/-- Links behind others are decided by their checks, by induction on those that are still to be
checked. -/
theorem decides_validateFrom {node : EntityType} {before : List (EntityType × Relationship)}
    {whole done rest : List Template.LinkEntry} (hwhole : whole = done ++ rest)
    (h : SingleValued
      (before ++ done.filterMap (Template.LinkEntry.stated? vocabulary (some node))))
    : Decides
        ((rest.zipIdx done.length).flatMap (fun (link, position) =>
          link.checks vocabulary (some node)
            (before
              ++ (whole.take position).filterMap
                  (Template.LinkEntry.stated? vocabulary (some node)))
            position))
        (Link.validateFrom
          ⟨vocabulary, node,
            SortedMap.firsts
              (before ++ done.filterMap (Template.LinkEntry.stated? vocabulary (some node)))⟩
          done.length rest) := by
  induction rest generalizing done with
  | nil => exact Decides.ok _
  | cons entry rest ih =>
      rw [List.zipIdx_cons, List.flatMap_cons, Link.validateFrom]
      have hbefore : whole.take done.length = done := by rw [hwhole, List.take_left]
      simp only [hbefore]
      refine (decides_validate ⟨vocabulary, node, SortedMap.firsts _⟩ h rfl _ entry).bind
        (fun link hlink => Decides.bind_pure ?_ _)
      obtain ⟨hdeclared, hlabel⟩ := Link.validate_eq_ok_iff.mp hlink
      have hs := (Link.forall_conflict?_eq_none_iff h link).mp hlabel
      have hstated
          : before ++ (done ++ [entry]).filterMap
                (Template.LinkEntry.stated? vocabulary (some node))
            = before ++ done.filterMap (Template.LinkEntry.stated? vocabulary (some node))
              ++ (link.label? node).toList := by
        rw [List.filterMap_append, ← List.append_assoc, ← Link.stated?_of_declared? hdeclared]
        rfl
      rw [Link.after_firsts hs, ← hstated]
      rw [← hstated] at hs
      have hrow := ih (by rw [hwhole, List.append_assoc]; rfl) hs
      rwa [List.length_append] at hrow

/-- Every link is checked against the labels of the node and of the links before it. -/
theorem decides_validateAll {node : EntityType} {before : List (EntityType × Relationship)}
    (h : SingleValued before) (links : List Template.LinkEntry)
    : Decides
        (inTurn
          (fun position link =>
            link.checks vocabulary (some node)
              (before
                ++ (links.take position).filterMap
                    (Template.LinkEntry.stated? vocabulary (some node)))
              position)
          links)
        (Link.validateAll ⟨vocabulary, node, SortedMap.firsts before⟩ links) := by
  rw [← List.append_nil before] at h
  have hlinks := @decides_validateFrom vocabulary node before links [] links rfl h
  rwa [List.filterMap_nil, List.append_nil] at hlinks

end SupplyGraph
