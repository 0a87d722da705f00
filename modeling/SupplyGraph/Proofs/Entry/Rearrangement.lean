import Mathlib.Data.List.Perm.Basic
import SupplyGraph.Proofs.Entry.Description

/-!
Entries that are written in another order. The lists of an entry may be rearranged at every level;
its parts then stand for the same as before, and only the order of what it declares is another one.
-/

namespace SupplyGraph

-----------------------------------------------------------------------------------------
-- Lists in another order
-----------------------------------------------------------------------------------------

/-- The items of a list in another order, each of them rearranged itself. -/
def Rearranged {α : Type} (relates : α → α → Prop) (items others : List α) : Prop :=
  ∃ middle, List.Forall₂ relates items middle ∧ middle.Perm others

section Lists

variable {α β : Type} {relates : α → α → Prop} {items others : List α}

/-- A rearrangement can be undone if that of its items can. -/
theorem Rearranged.symm (h : Rearranged relates items others)
    (hr : ∀ item other, relates item other → relates other item)
    : Rearranged relates others items := by
  obtain ⟨middle, hmiddle, hp⟩ := h
  have hback : List.Forall₂ relates middle items :=
    (hmiddle.imp (fun item other => hr item other)).flip
  exact List.perm_comp_forall₂ hp.symm hback

/-- Where rearranged items stand for the same, a rearranged list has the same results in another
order. -/
theorem Rearranged.exists_mapM {read : α → Option β} {results : List β}
    (h : Rearranged relates items others)
    (hr : ∀ item other, relates item other → read item = read other)
    (hm : items.mapM read = some results)
    : ∃ reordered, others.mapM read = some reordered ∧ results.Perm reordered := by
  obtain ⟨middle, hmiddle, hp⟩ := h
  have hread : items.mapM read = middle.mapM read := by
    clear hm hp
    induction hmiddle with
    | nil => rfl
    | cons hfirst _ ih => rw [List.mapM_cons, List.mapM_cons, hr _ _ hfirst, ih]
  rw [hread] at hm
  exact exists_mapM_of_perm hp hm

/-- A list in another order still has an item, and the same results in another order. -/
theorem exists_readNonempty?_of_perm {read : α → Option β} {results : List β}
    (hp : items.Perm others) (h : readNonempty? read items = some results)
    : ∃ reordered, readNonempty? read others = some reordered ∧ results.Perm reordered := by
  obtain ⟨hne, hread⟩ := readNonempty?_eq_some_iff.mp h
  obtain ⟨reordered, hreordered, hresults⟩ := exists_mapM_of_perm hp hread
  refine ⟨reordered, readNonempty?_eq_some_iff.mpr ⟨fun he => ?_, hreordered⟩, hresults⟩
  rw [he] at hp
  exact hne hp.eq_nil

/-- A set does not show the order in which its values were listed. -/
theorem SortedSet.ofList_eq_of_perm {κ : Type} [Key κ] {values reordered : List κ}
    (hp : values.Perm reordered)
    : ofList values = ofList reordered :=
  ext (fun value => by rw [mem_ofList, mem_ofList, hp.mem_iff])

end Lists

namespace Template

/-- The same bought group with its commodities in another order. -/
structure BoughtGroup.IsRearrangement (group other : BoughtGroup) : Prop where
  key : group.key = other.key
  value : group.value.Perm other.value

/-- The same link entry with its commodities and its reported properties in another order. -/
structure LinkEntry.IsRearrangement (entry other : LinkEntry) : Prop where
  commodityDefs : entry.value.commodityDefs.Perm other.value.commodityDefs
  probeProperties : entry.value.probeProperties.Perm other.value.probeProperties
  otherwise
    : other = { entry with
        value := { entry.value with
          commodityDefs := other.value.commodityDefs
          probeProperties := other.value.probeProperties } }

/-- The same entry with its lists in another order, and with rearranged groups and links in them. -/
structure Entry.IsRearrangement (entry other : Entry) : Prop where
  templateClass : entry.templateClass = other.templateClass
  templateType : entry.templateType = other.templateType
  templatePriority : entry.templatePriority = other.templatePriority
  commoditySold : entry.commoditySold.Perm other.commoditySold
  commodityBought
    : Rearranged BoughtGroup.IsRearrangement entry.commodityBought other.commodityBought
  externalLink : Rearranged LinkEntry.IsRearrangement entry.externalLink other.externalLink

theorem BoughtGroup.IsRearrangement.symm {group other : BoughtGroup}
    (h : group.IsRearrangement other)
    : other.IsRearrangement group :=
  ⟨h.key.symm, h.value.symm⟩

theorem LinkEntry.IsRearrangement.symm {entry other : LinkEntry} (h : entry.IsRearrangement other)
    : other.IsRearrangement entry :=
  ⟨h.commodityDefs.symm, h.probeProperties.symm, by rw [h.otherwise]⟩

theorem Entry.IsRearrangement.symm {entry other : Entry} (h : entry.IsRearrangement other)
    : other.IsRearrangement entry where
  templateClass := h.templateClass.symm
  templateType := h.templateType.symm
  templatePriority := h.templatePriority.symm
  commoditySold := h.commoditySold.symm
  commodityBought := h.commodityBought.symm (fun _ _ hg => hg.symm)
  externalLink := h.externalLink.symm (fun _ _ hl => hl.symm)

end Template

variable {vocabulary : Vocabulary}

-----------------------------------------------------------------------------------------
-- What rearranged parts stand for
-----------------------------------------------------------------------------------------

/-- A group keeps its commodities as a set, so it stands for the same purchase in any order. -/
theorem Purchase.declared?_of_isRearrangement {group other : Template.BoughtGroup}
    {purchase : Purchase} (h : group.IsRearrangement other)
    (hd : declared? vocabulary group = some purchase)
    : declared? vocabulary other = some purchase := by
  simp only [declared?, Option.bind_eq_bind, Option.bind_eq_some_iff, Option.pure_def,
    Option.some.injEq] at hd ⊢
  obtain ⟨reference, hkey, provider, hprovider, relationship, hrelationship, cardinality,
    hcardinality, commodities, hcommodities, rfl⟩ := hd
  obtain ⟨reordered, hreordered, hp⟩ := exists_mapM_of_perm h.value hcommodities
  exact ⟨reference, h.key.symm.trans hkey, provider, hprovider, relationship, hrelationship,
    cardinality, hcardinality, reordered, hreordered, by rw [SortedSet.ofList_eq_of_perm hp]⟩

/-- Both or neither of two rearranged groups stand for a purchase, and then for the same one. -/
theorem Purchase.declared?_congr {group other : Template.BoughtGroup}
    (h : group.IsRearrangement other)
    : declared? vocabulary group = declared? vocabulary other :=
  Option.ext (fun _ =>
    ⟨declared?_of_isRearrangement h, declared?_of_isRearrangement h.symm⟩)

/-- A link keeps its commodities and its reported properties as sets, so it stands for the same link
in any order. -/
theorem Link.declared?_of_isRearrangement {node : EntityType} {entry other : Template.LinkEntry}
    {link : Link} (h : entry.IsRearrangement other)
    (hd : declared? vocabulary node entry = some link)
    : declared? vocabulary node other = some link := by
  have hreferences : references? vocabulary other = references? vocabulary entry := by
    rw [h.otherwise]
    rfl
  have hproperties : other.value.entityProperties = entry.value.entityProperties := by
    rw [h.otherwise]
  simp only [declared?, Option.bind_eq_bind, Option.bind_eq_some_iff, Option.pure_def,
    Option.some.injEq, hreferences, hproperties] at hd ⊢
  obtain ⟨base, hbase, commodities, hcommodities, names, hnames, propagations, hpropagations,
    rfl⟩ := hd
  obtain ⟨moved, hmoved, hc⟩ := exists_readNonempty?_of_perm h.commodityDefs hcommodities
  obtain ⟨renamed, hrenamed, hn⟩ := exists_readNonempty?_of_perm h.probeProperties hnames
  exact ⟨base, hbase, moved, hmoved, renamed, hrenamed, propagations, hpropagations, by
    rw [SortedSet.ofList_eq_of_perm hc, SortedSet.ofList_eq_of_perm hn]⟩

/-- Both or neither of two rearranged link entries stand for a link, and then for the same one. -/
theorem Link.declared?_congr {node : EntityType} {entry other : Template.LinkEntry}
    (h : entry.IsRearrangement other)
    : declared? vocabulary node entry = declared? vocabulary node other :=
  Option.ext (fun _ =>
    ⟨declared?_of_isRearrangement h, declared?_of_isRearrangement h.symm⟩)

/-- The same declaration with its lists in another order. -/
structure Declaration.IsReordering (declaration other : Declaration) : Prop where
  sold : declaration.sold.Perm other.sold
  bought : declaration.bought.Perm other.bought
  links : declaration.links.Perm other.links
  templates : declaration.templates = other.templates

/-- A rearranged entry declares the same in another order. -/
theorem Template.Entry.exists_declaration?_of_isRearrangement {entry other : Entry}
    {entityType : EntityType} {declaration : Declaration} (h : entry.IsRearrangement other)
    (hd : entry.declaration? vocabulary = some (entityType, declaration))
    : ∃ reordered,
        other.declaration? vocabulary = some (entityType, reordered)
        ∧ declaration.IsReordering reordered := by
  obtain ⟨htype, hrecord, hsold, hbought, hlinks⟩ := declaration?_eq_some_iff.mp hd
  obtain ⟨sold, hsold, hs⟩ := exists_readNonempty?_of_perm h.commoditySold hsold
  obtain ⟨bought, hbought, hb⟩ :=
    h.commodityBought.exists_mapM (fun _ _ hg => Purchase.declared?_congr hg) hbought
  obtain ⟨links, hlinks, hl⟩ :=
    h.externalLink.exists_mapM (fun _ _ hl => Link.declared?_congr hl) hlinks
  refine ⟨⟨sold, bought, links, declaration.templates⟩,
    declaration?_eq_some_iff.mpr ⟨?_, ?_, hsold, hbought, hlinks⟩, hs, hb, hl, rfl⟩
  · rwa [entityType?, ← h.templateClass]
  · rwa [record?, ← h.templateType, ← h.templatePriority]

end SupplyGraph
