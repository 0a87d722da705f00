import SupplyGraph.Proofs.Chain.Grouping
import SupplyGraph.Proofs.Compile.DerivedFields

/-!
Entries whose lists are shared out over two entries. The labels inside one entry are checked as
those of two entries are, so that both documents compile or none does; the chains differ in nothing
but the templates, where the second entry leaves a record of its own.
-/

namespace SupplyGraph

/-- Two entries share out the lists of an entry, of which both keep something to sell. Apart from
the lists they are copies of the entry. -/
structure Template.Entry.IsSplit (entry first second : Template.Entry) : Prop where
  sold : entry.commoditySold = first.commoditySold ++ second.commoditySold
  bought : entry.commodityBought = first.commodityBought ++ second.commodityBought
  links : entry.externalLink = first.externalLink ++ second.externalLink
  firstSells : first.commoditySold ≠ []
  secondSells : second.commoditySold ≠ []
  firstCopy
    : first = { entry with
        commoditySold := first.commoditySold
        commodityBought := first.commodityBought
        externalLink := first.externalLink }
  secondCopy
    : second = { entry with
        commoditySold := second.commoditySold
        commodityBought := second.commodityBought
        externalLink := second.externalLink }

/-- What the entries for an entity type leave in the templates of its node. -/
def records (vocabulary : Vocabulary) (entityType : EntityType) (entries : List Template.Entry)
    : List TemplateMeta :=
  (entries.filter (fun entry => entry.entityType? vocabulary = some entityType)).filterMap
    Template.Entry.record?

variable {vocabulary : Vocabulary} {entry first second : Template.Entry}

namespace Template.Entry.IsSplit

theorem entityType?_first (h : entry.IsSplit first second)
    : first.entityType? vocabulary = entry.entityType? vocabulary :=
  congrArg (fun copy => copy.entityType? vocabulary) h.firstCopy

theorem entityType?_second (h : entry.IsSplit first second)
    : second.entityType? vocabulary = entry.entityType? vocabulary :=
  congrArg (fun copy => copy.entityType? vocabulary) h.secondCopy

theorem record?_first (h : entry.IsSplit first second)
    : first.record? = entry.record? := by
  rw [h.firstCopy]
  rfl

theorem record?_second (h : entry.IsSplit first second)
    : second.record? = entry.record? := by
  rw [h.secondCopy]
  rfl

/-- An entry declares what the two entries declare that share out its lists. -/
theorem declaration?_eq_some_iff (h : entry.IsSplit first second) {entityType : EntityType}
    {declaration : Declaration}
    : entry.declaration? vocabulary = some (entityType, declaration)
      ↔ ∃ front back,
          first.declaration? vocabulary = some (entityType, front)
          ∧ second.declaration? vocabulary = some (entityType, back)
          ∧ declaration = { front ++ back with templates := front.templates } := by
  simp only [Template.Entry.declaration?_eq_some_iff, h.entityType?_first, h.entityType?_second,
    h.record?_first, h.record?_second, h.sold, h.bought, h.links, mapM_append_eq_some_iff,
    readNonempty?_append_eq_some_iff h.firstSells h.secondSells]
  constructor
  · intro hi
    obtain ⟨ht, hr, ⟨sold, moreSold, hsold, hmoreSold, hs⟩, ⟨bought, moreBought, hbought,
      hmoreBought, hb⟩, links, moreLinks, hlinks, hmoreLinks, hl⟩ := hi
    refine ⟨⟨sold, bought, links, declaration.templates⟩,
      ⟨moreSold, moreBought, moreLinks, declaration.templates⟩,
      ⟨ht, hr, hsold, hbought, hlinks⟩, ⟨ht, hr, hmoreSold, hmoreBought, hmoreLinks⟩, ?_⟩
    obtain ⟨_, _, _, _⟩ := declaration
    obtain rfl := hs
    obtain rfl := hb
    obtain rfl := hl
    rfl
  · intro hi
    obtain ⟨front, back, ⟨ht, hr, hsold, hbought, hlinks⟩, ⟨_, _, hmoreSold, hmoreBought,
      hmoreLinks⟩, rfl⟩ := hi
    exact ⟨ht, hr, ⟨_, _, hsold, hmoreSold, rfl⟩, ⟨_, _, hbought, hmoreBought, rfl⟩,
      _, _, hlinks, hmoreLinks, rfl⟩

/-- An entry has a node on its own exactly when both entries that share out its lists have one and
these agree. Its node is the group of the two, but for the templates. -/
theorem soleNode?_eq_some_iff (h : entry.IsSplit first second) {node : Node}
    : soleNode? vocabulary entry = some node
      ↔ ∃ front back,
          soleNode? vocabulary first = some front
          ∧ soleNode? vocabulary second = some back
          ∧ Labels.Agree front.labels back.labels
          ∧ (front.extend back).withTemplates front.templates = node := by
  simp only [SupplyGraph.soleNode?_eq_some_iff, Node.ofEntry_eq_ok_iff, h.declaration?_eq_some_iff]
  constructor
  · intro hi
    obtain ⟨entityType, _, ⟨front, back, hf, hb, rfl⟩, hs, rfl⟩ := hi
    obtain ⟨hfront, hback, ha⟩ := Declaration.singleValued_labels_append_iff.mp hs
    refine ⟨_, _, ⟨entityType, front, hf, hfront, rfl⟩, ⟨entityType, back, hb, hback, rfl⟩, ha, ?_⟩
    rw [← Declaration.node_append]
    rfl
  · intro hi
    obtain ⟨_, _, ⟨entityType, front, hf, hfront, rfl⟩, ⟨other, back, hb, hback, rfl⟩, ha,
      rfl⟩ := hi
    have ht : other = entityType := by
      have hfirst := (Template.Entry.declaration?_eq_some_iff.mp hf).1
      have hsecond := (Template.Entry.declaration?_eq_some_iff.mp hb).1
      rw [h.entityType?_first] at hfirst
      rw [h.entityType?_second, hfirst] at hsecond
      exact (Option.some.inj hsecond).symm
    subst ht
    refine ⟨other, _, ⟨front, back, hf, hb, rfl⟩,
      Declaration.singleValued_labels_append_iff.mpr ⟨hfront, hback, ha⟩, ?_⟩
    rw [← Declaration.node_append]
    rfl

/-- The two parts of an entry have nodes of one type, as they have its class. -/
theorem sameType (h : entry.IsSplit first second) {front back : Node}
    (hf : soleNode? vocabulary first = some front)
    (hb : soleNode? vocabulary second = some back)
    : back.entityType = front.entityType := by
  have hfront := (soleNode?_spec hf).1
  have hback := (soleNode?_spec hb).1
  rw [h.entityType?_first] at hfront
  rw [h.entityType?_second, hfront] at hback
  exact (Option.some.inj hback).symm

end Template.Entry.IsSplit

/-- The node of an entry has the record of the entry and no other. -/
theorem templates_soleNode? {node : Node} (h : soleNode? vocabulary entry = some node)
    : ∃ record, entry.record? = some record ∧ node.templates = [record] := by
  obtain ⟨_, declaration, hd, _, rfl⟩ := Node.ofEntry_eq_ok_iff.mp (soleNode?_eq_some_iff.mp h)
  obtain ⟨_, hr, _⟩ := Template.Entry.declaration?_eq_some_iff.mp hd
  obtain ⟨record, hr, ht⟩ := Option.map_eq_some_iff.mp hr
  exact ⟨record, hr, ht.symm⟩

/-- Both entries leave the record that the entry leaves. -/
theorem Template.Entry.IsSplit.templates (h : entry.IsSplit first second) {front back : Node}
    (hf : soleNode? vocabulary first = some front)
    (hb : soleNode? vocabulary second = some back)
    : ∃ record,
        entry.record? = some record
        ∧ front.templates = [record]
        ∧ back.templates = [record] := by
  obtain ⟨record, hr, hfront⟩ := templates_soleNode? hf
  obtain ⟨other, ho, hback⟩ := templates_soleNode? hb
  rw [h.record?_first] at hr
  rw [h.record?_second, hr] at ho
  obtain rfl := Option.some.inj ho
  exact ⟨record, hr, hfront, hback⟩

/-- Sole nodes have the records of their entries as templates, by induction on the entries. -/
theorem flatMap_templates_soleNodes {entityType : EntityType} {entries : List Template.Entry}
    (h : ∀ entry ∈ entries, (soleNode? vocabulary entry).isSome)
    : (soleNodes vocabulary entityType entries).flatMap Node.templates
      = records vocabulary entityType entries := by
  induction entries with
  | nil => rfl
  | cons entry rest ih =>
      obtain ⟨hentry, hrest⟩ := List.forall_mem_cons.mp h
      have htail := ih hrest
      obtain ⟨node, hn⟩ := Option.isSome_iff_exists.mp hentry
      obtain ⟨record, hr, ht⟩ := templates_soleNode? hn
      simp only [soleNodes, records, List.filter_cons] at htail ⊢
      by_cases htype : entry.entityType? vocabulary = some entityType
      · simp only [htype, decide_true, if_true, List.filterMap_cons, hn, hr, List.flatMap_cons, ht,
          htail, List.singleton_append]
      · simpa only [htype, decide_false, Bool.false_eq_true, if_false] using htail

section Documents

variable {before after : List Template.Entry}

/-- The two entries have nodes of their own that fit in with those of all other entries. That is
all that both documents need, the one with the entry and the one with the entries that share it
out. -/
structure SplitCompiles (vocabulary : Vocabulary) (before after : List Template.Entry)
    (first second : Template.Entry) (front back : Node)
    : Prop where
  first : soleNode? vocabulary first = some front
  second : soleNode? vocabulary second = some back
  sameType : back.entityType = front.entityType
  others : ∀ entry ∈ before ++ after, (soleNode? vocabulary entry).isSome
  compatible
    : (before.filterMap (soleNode? vocabulary)
        ++ front :: back :: after.filterMap (soleNode? vocabulary)).Pairwise Node.Compatible

/-- The document with the two parts compiles exactly when their nodes fit in, and the chain has both
of them. -/
theorem compile_shared_eq_ok_iff (h : entry.IsSplit first second) {chain : Chain}
    : compile vocabulary ⟨before ++ first :: second :: after⟩ = .ok chain
      ↔ ∃ front back,
          SplitCompiles vocabulary before after first second front back
          ∧ Chain.ofNodes
              (before.filterMap (soleNode? vocabulary)
                ++ front :: back :: after.filterMap (soleNode? vocabulary))
            = chain := by
  simp only [compile_eq_ok_iff, List.forall_mem_append, List.forall_mem_cons,
    List.filterMap_append, List.filterMap_cons]
  constructor
  · intro hi
    obtain ⟨⟨hbefore, hfirst, hsecond, hafter⟩, hp, hchain⟩ := hi
    obtain ⟨front, hf⟩ := Option.isSome_iff_exists.mp hfirst
    obtain ⟨back, hb⟩ := Option.isSome_iff_exists.mp hsecond
    simp only [hf, hb] at hp hchain
    exact ⟨front, back,
      ⟨hf, hb, h.sameType hf hb, List.forall_mem_append.mpr ⟨hbefore, hafter⟩, hp⟩, hchain⟩
  · intro hi
    obtain ⟨front, back, ⟨hf, hb, _, hothers, hp⟩, hchain⟩ := hi
    obtain ⟨hbefore, hafter⟩ := List.forall_mem_append.mp hothers
    simp only [hf, hb, Option.isSome_some, true_and]
    exact ⟨⟨hbefore, hafter⟩, hp, hchain⟩

/-- The document with the whole entry compiles under the same condition, and the chain has their
joint node with one record. -/
theorem compile_whole_eq_ok_iff (h : entry.IsSplit first second) {chain : Chain}
    : compile vocabulary ⟨before ++ entry :: after⟩ = .ok chain
      ↔ ∃ front back,
          SplitCompiles vocabulary before after first second front back
          ∧ Chain.ofNodes
              (before.filterMap (soleNode? vocabulary)
                ++ (front.extend back).withTemplates front.templates
                  :: after.filterMap (soleNode? vocabulary))
            = chain := by
  simp only [compile_eq_ok_iff, List.forall_mem_append, List.forall_mem_cons,
    List.filterMap_append, List.filterMap_cons]
  constructor
  · intro hi
    obtain ⟨⟨hbefore, hentry, hafter⟩, hp, hchain⟩ := hi
    obtain ⟨node, hn⟩ := Option.isSome_iff_exists.mp hentry
    simp only [hn] at hp hchain
    obtain ⟨front, back, hf, hb, ha, rfl⟩ := h.soleNode?_eq_some_iff.mp hn
    have ht := h.sameType hf hb
    exact ⟨front, back, ⟨hf, hb, ht, List.forall_mem_append.mpr ⟨hbefore, hafter⟩,
      (Node.pairwise_group_iff ht ha).mp hp⟩, hchain⟩
  · intro hi
    obtain ⟨front, back, ⟨hf, hb, ht, hothers, hp⟩, hchain⟩ := hi
    obtain ⟨hbefore, hafter⟩ := List.forall_mem_append.mp hothers
    -- The two entries stand side by side, so that their nodes are compared with each other too.
    have ha : Labels.Agree front.labels back.labels := by
      have hgroup := (List.pairwise_append.mp hp).2.1
      exact (List.pairwise_cons.mp hgroup).1 back List.mem_cons_self ht.symm
    have hn := h.soleNode?_eq_some_iff.mpr ⟨front, back, hf, hb, ha, rfl⟩
    simp only [hn, Option.isSome_some, true_and]
    exact ⟨⟨hbefore, hafter⟩, (Node.pairwise_group_iff ht ha).mpr hp, hchain⟩

/-- An entry and two entries that share out its lists compile alike, among whatever other entries.
The two chains have the same nodes, but that the entry leaves its record once in the templates of
its node and the two entries leave it twice in a row. -/
theorem compile_split (h : entry.IsSplit first second) (before after : List Template.Entry)
    : ((∃ chain, compile vocabulary ⟨before ++ entry :: after⟩ = .ok chain)
        ↔ ∃ chain, compile vocabulary ⟨before ++ first :: second :: after⟩ = .ok chain)
      ∧ ∀ whole shared,
          compile vocabulary ⟨before ++ entry :: after⟩ = .ok whole
          → compile vocabulary ⟨before ++ first :: second :: after⟩ = .ok shared
          → ∀ entityType,
              (entry.entityType? vocabulary ≠ some entityType
                → shared.node? entityType = whole.node? entityType)
              ∧ (entry.entityType? vocabulary = some entityType
                → ∃ (node : Node) (record : TemplateMeta),
                    entry.record? = some record
                    ∧ whole.node? entityType
                      = some (node.withTemplates
                          (records vocabulary entityType before
                            ++ record :: records vocabulary entityType after))
                    ∧ shared.node? entityType
                      = some (node.withTemplates
                          (records vocabulary entityType before
                            ++ record :: record :: records vocabulary entityType after))) := by
  refine ⟨?_, ?_⟩
  · simp only [compile_whole_eq_ok_iff h, compile_shared_eq_ok_iff h]
    exact ⟨fun ⟨_, front, back, hc, _⟩ => ⟨_, front, back, hc, rfl⟩,
      fun ⟨_, front, back, hc, _⟩ => ⟨_, front, back, hc, rfl⟩⟩
  · intro whole shared hwhole hshared entityType
    obtain ⟨front, back, hc, rfl⟩ := (compile_whole_eq_ok_iff h).mp hwhole
    obtain ⟨_, _, hs, rfl⟩ := (compile_shared_eq_ok_iff h).mp hshared
    obtain rfl := Option.some.inj (hc.first.symm.trans hs.first)
    obtain rfl := Option.some.inj (hc.second.symm.trans hs.second)
    have htype : entry.entityType? vocabulary = some front.entityType := by
      rw [← h.entityType?_first]
      exact (soleNode?_spec hc.first).1
    rw [htype]
    -- Only the node for the entity type of the entry is joined from other nodes.
    refine ⟨fun hne => ?_, fun he => ?_⟩
    · exact (Chain.node?_group_of_ne _ _ _ hc.sameType
        (fun he => hne (congrArg some he))).symm
    · obtain rfl := Option.some.inj he
      obtain ⟨record, hr, hfront, hback⟩ := h.templates hc.first hc.second
      obtain ⟨hbefore, hafter⟩ := List.forall_mem_append.mp hc.others
      obtain ⟨node, hgroup, hmembers⟩ :=
        Chain.node?_group (before.filterMap (soleNode? vocabulary))
          (after.filterMap (soleNode? vocabulary)) front.templates hc.sameType
      rw [← soleNodes_eq_filter, ← soleNodes_eq_filter, flatMap_templates_soleNodes hbefore,
        flatMap_templates_soleNodes hafter] at hgroup hmembers
      refine ⟨node, record, hr, ?_, ?_⟩
      · simpa [hfront] using hgroup
      · simpa [hfront, hback] using hmembers

/-- The host runs the machine by the first entry, and the link says so by the second one. -/
theorem compile_split_hostedMachine
    : ∃ first second,
        hostedMachine.IsSplit first second
        ∧ first.externalLink = []
        ∧ second.commodityBought.length = 1
        ∧ ∃ chain, compile .standard ⟨[first, second]⟩ = .ok chain := by
  have h
      : hostedMachine.IsSplit
          { hostedMachine with
            commoditySold := hostedMachine.commoditySold.take 1
            commodityBought := hostedMachine.commodityBought.take 1
            externalLink := [] }
          { hostedMachine with
            commoditySold := hostedMachine.commoditySold.drop 1
            commodityBought := hostedMachine.commodityBought.drop 1 } :=
    ⟨rfl, rfl, rfl, by decide, by decide, rfl, rfl⟩
  have hwhole : (compile .standard ⟨[hostedMachine]⟩).toOption.isSome := by
    decide +kernel
  obtain ⟨chain, hchain⟩ := Option.isSome_iff_exists.mp hwhole
  refine ⟨_, _, h, rfl, rfl, ?_⟩
  exact (compile_split h [] []).1.mp ⟨chain, toOption_eq_some_iff.mp hchain⟩

end Documents

end SupplyGraph
