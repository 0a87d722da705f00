import SupplyGraph.Proofs.Compile.DerivedFields
import SupplyGraph.Proofs.Entry.LinkDecisions
import SupplyGraph.Proofs.Entry.Reading

/-!
What rules do to a link. A rule adds to its own section and to nothing else, and what it finds wrong
does not depend on the sections; rules may therefore be applied in any order.
-/

namespace SupplyGraph

-----------------------------------------------------------------------------------------
-- What is taken over from a list
-----------------------------------------------------------------------------------------

theorem SortedSet.foldl_insert_eq_union {κ : Type} [Key κ] (set : SortedSet κ) (values : List κ)
    : values.foldl insert set = set ∪ ofList values := by
  ext value
  rw [mem_foldl_insert, mem_union, mem_ofList]

/-- The results that are taken over from a list: those of all items, of which there is at least one,
if there is no fault, and else those of the items before the first one that means nothing. -/
def Takes {α β : Type} (read : α → Option β) (items : List α) (results : List β)
    : Option Fault → Prop
  | none => items ≠ [] ∧ items.mapM read = some results
  | some _ =>
      (items = [] ∧ results = [])
      ∨ ∃ front bad back,
          items = front ++ bad :: back ∧ front.mapM read = some results ∧ read bad = none

section Lists

variable {α β : Type} {check : Nat → α → Except Fault β} {read : α → Option β}

/-- A run that ends with a fault has the results of the items before it, by induction on the
items. -/
theorem Sequence.exists_of_run_eq_fault
    (h : ∀ position item, (check position item).toOption = read item) {position : Nat}
    {items : List α} {results : List β} {fault : Fault}
    (hrun : Sequence.run check position items = (results, some fault))
    : ∃ front bad back,
        items = front ++ bad :: back ∧ front.mapM read = some results ∧ read bad = none := by
  induction items generalizing position results with
  | nil => cases hrun
  | cons item rest ih =>
      rw [Sequence.run] at hrun
      cases hc : check position item with
      | error found =>
          rw [hc] at hrun
          obtain ⟨rfl, _⟩ := Prod.mk.inj hrun
          refine ⟨[], item, rest, rfl, rfl, ?_⟩
          rw [← h position, hc]
          rfl
      | ok result =>
          rw [hc] at hrun
          cases hrest : Sequence.run check (position + 1) rest with
          | mk later last =>
              simp only [hrest, Prod.mk.injEq] at hrun
              obtain ⟨rfl, rfl⟩ := hrun
              obtain ⟨front, bad, back, rfl, hfront, hbad⟩ := ih hrest
              have hitem : read item = some result := by
                rw [← h position, hc]
                rfl
              exact ⟨item :: front, bad, back, rfl, by simp [hitem, hfront], hbad⟩

namespace LinkRule

variable {link : Link} {missing : Fault} {items : List α} {add : Link → List β → Link}

/-- A section gets what its list comes to before the first fault. -/
theorem fst_fill (hadd : add link [] = link)
    : (fill link missing check items add).1 = add link (Sequence.run check 0 items).1 := by
  cases items with
  | nil => exact hadd.symm
  | cons item rest => rfl

theorem takes_fill (h : ∀ position item, (check position item).toOption = read item)
    : Takes read items (Sequence.run check 0 items).1
        (fill link missing check items add).2 := by
  cases items with
  | nil => exact Or.inl ⟨rfl, rfl⟩
  | cons item rest =>
      change Takes read (item :: rest) _ (Sequence.run check 0 (item :: rest)).2
      cases hrun : Sequence.run check 0 (item :: rest) with
      | mk results fault =>
          cases fault with
          | none => exact ⟨by simp, (Sequence.run_eq_iff h 0 _ _).mp hrun⟩
          | some fault => exact Or.inr (Sequence.exists_of_run_eq_fault h hrun)

end LinkRule

end Lists

-----------------------------------------------------------------------------------------
-- What a rule adds
-----------------------------------------------------------------------------------------

/-- The link with nothing in its sections. -/
def Link.bare (link : Link) : Link :=
  { link with commodities := ∅, probeProperties := ∅, propagations := [] }

namespace LinkRule

variable {context : LinkContext} {path : FieldPath} {declaration : Template.LinkDeclaration}

/-- What a rule adds to its section of a link when it comes to a verdict. The other sections stay as
they are, and two of the rules have no section. -/
def Adds (vocabulary : Vocabulary) (declaration : Template.LinkDeclaration)
    (verdict : Option Fault) (link next : Link)
    : LinkRule → Prop
  | scope => next = link
  | commodityDefs =>
      ∃ commodities,
        Takes (fun definition => vocabulary.commodityNamed? definition.commodityType)
          declaration.commodityDefs commodities verdict
        ∧ next = { link with
            commodities := link.commodities ∪ SortedSet.ofList commodities }
  | probeProperties =>
      ∃ names,
        Takes (fun property => nonBlank? property.name) declaration.probeProperties names verdict
        ∧ next = { link with
            probeProperties := link.probeProperties ∪ SortedSet.ofList names }
  | entityProperties =>
      ∃ propagations,
        Takes (Propagation.declared? vocabulary) declaration.entityProperties propagations verdict
        ∧ next = { link with propagations := link.propagations ++ propagations }
  | hostingConsistency => next = link

/-- Every rule adds what belongs to its verdict, and touches nothing else. -/
theorem adds_apply (rule : LinkRule) (link : Link)
    : rule.Adds context.vocabulary declaration (rule.apply context path declaration link).2 link
        (rule.apply context path declaration link).1 := by
  cases rule with
  | scope =>
      rw [Adds, apply]
      split <;> rfl
  | commodityDefs =>
      refine ⟨_, takes_fill (fun _ _ => Vocabulary.toOption_commodity _ _ _), ?_⟩
      rw [apply, fst_fill rfl, SortedSet.foldl_insert_eq_union]
  | probeProperties =>
      refine ⟨_, takes_fill (toOption_probePropertyName _), ?_⟩
      rw [apply, fst_fill rfl, SortedSet.foldl_insert_eq_union]
  | entityProperties =>
      refine ⟨_, takes_fill (Propagation.toOption_ofProperty _ _), ?_⟩
      rw [apply, fst_fill (by rw [List.append_nil])]
  | hostingConsistency =>
      rw [Adds, apply]
      split <;> rfl

theorem Adds.bare_eq {vocabulary : Vocabulary} {verdict : Option Fault} {link next : Link}
    {rule : LinkRule} (h : rule.Adds vocabulary declaration verdict link next)
    : next.bare = link.bare := by
  cases rule with
  | scope => rw [show next = link from h]
  | commodityDefs =>
      obtain ⟨_, _, rfl⟩ := h
      rfl
  | probeProperties =>
      obtain ⟨_, _, rfl⟩ := h
      rfl
  | entityProperties =>
      obtain ⟨_, _, rfl⟩ := h
      rfl
  | hostingConsistency => rw [show next = link from h]

-----------------------------------------------------------------------------------------
-- The verdict of a rule
-----------------------------------------------------------------------------------------

/-- The verdict on a section is the one on its list, for any link. -/
theorem snd_fill {α β : Type} {missing : Fault} {check : Nat → α → Except Fault β}
    {items : List α} {add : Link → List β → Link} (link : Link)
    : (fill link missing check items add).2
      = if items.isEmpty then some missing else (Sequence.run check 0 items).2 := by
  rw [fill]
  split <;> rfl

theorem snd_apply_bare (rule : LinkRule) (link : Link)
    : (rule.apply context path declaration link.bare).2
      = (rule.apply context path declaration link).2 := by
  cases rule with
  | scope =>
      have hbuyer : link.bare.buyer = link.buyer := rfl
      have hseller : link.bare.seller = link.seller := rfl
      rw [apply, apply, hbuyer, hseller]
      split <;> rfl
  | commodityDefs => simp only [apply, snd_fill]
  | probeProperties => simp only [apply, snd_fill]
  | entityProperties => simp only [apply, snd_fill]
  | hostingConsistency =>
      have hlabel : link.bare.declaredLabel? context.node = link.declaredLabel? context.node := rfl
      rw [apply, apply, hlabel]
      split <;> rfl

/-- Links that differ in their sections only are judged alike. -/
theorem snd_apply_congr (rule : LinkRule) {link other : Link} (h : other.bare = link.bare)
    : (rule.apply context path declaration other).2
      = (rule.apply context path declaration link).2 := by
  rw [← snd_apply_bare, h, snd_apply_bare]

-----------------------------------------------------------------------------------------
-- Rules in another order
-----------------------------------------------------------------------------------------

/-- What two rules leave of a link does not depend on which of them comes first: they add what does
not depend on the link, and different rules add it to different sections. -/
theorem fst_apply_comm (first second : LinkRule) (link : Link)
    : (second.apply context path declaration (first.apply context path declaration link).1).1
      = (first.apply context path declaration (second.apply context path declaration link).1).1
      := by
  have hscope : ∀ link, (scope.apply context path declaration link).1 = link :=
    fun link => adds_apply scope link
  obtain ⟨commodities, hcommodityDefs⟩
      : ∃ commodities : List CommodityType, ∀ link,
          (commodityDefs.apply context path declaration link).1
            = { link with commodities := commodities.foldl SortedSet.insert link.commodities } :=
    ⟨_, fun _ => fst_fill rfl⟩
  obtain ⟨names, hprobeProperties⟩
      : ∃ names : List String, ∀ link,
          (probeProperties.apply context path declaration link).1
            = { link with probeProperties := names.foldl SortedSet.insert link.probeProperties } :=
    ⟨_, fun _ => fst_fill rfl⟩
  obtain ⟨propagations, hentityProperties⟩
      : ∃ propagations : List Propagation, ∀ link,
          (entityProperties.apply context path declaration link).1
            = { link with propagations := link.propagations ++ propagations } :=
    ⟨_, fun _ => fst_fill (by rw [List.append_nil])⟩
  have hhosting : ∀ link, (hostingConsistency.apply context path declaration link).1 = link :=
    fun link => adds_apply hostingConsistency link
  cases first <;> cases second <;>
    simp only [hscope, hcommodityDefs, hprobeProperties, hentityProperties, hhosting]

/-- Rules accept a link exactly when each of them does on its own, and then they leave it one after
the other what each of them adds; by induction on the rules. -/
theorem applyAll_eq_ok_iff {rules : List LinkRule} {link final : Link}
    : applyAll context path declaration rules link = .ok final
      ↔ (∀ rule ∈ rules, (rule.apply context path declaration link).2 = none)
        ∧ rules.foldl (fun link rule => (rule.apply context path declaration link).1) link
          = final := by
  induction rules generalizing link with
  | nil => simp [applyAll, pure_eq_ok_iff]
  | cons rule rest ih =>
      -- The later rules judge the link like the one that the first rule was applied to.
      have hjudged
          : ∀ other : LinkRule,
              (other.apply context path declaration
                  (rule.apply context path declaration link).1).2
                = (other.apply context path declaration link).2 :=
        fun other => snd_apply_congr other (adds_apply rule link).bare_eq
      simp only [applyAll_cons_eq_ok_iff, Prod.ext_iff, List.forall_mem_cons, List.foldl_cons]
      constructor
      · intro h
        obtain ⟨next, ⟨rfl, hpassed⟩, hrest⟩ := h
        obtain ⟨hall, hfinal⟩ := ih.mp hrest
        exact ⟨⟨hpassed, fun other hm => (hjudged other).symm.trans (hall other hm)⟩, hfinal⟩
      · intro h
        obtain ⟨⟨hpassed, hall⟩, hfinal⟩ := h
        exact ⟨_, ⟨rfl, hpassed⟩,
          ih.mpr ⟨fun other hm => (hjudged other).trans (hall other hm), hfinal⟩⟩

/-- Rules in another order accept a link when these do, and make the same link of it. -/
theorem applyAll_eq_ok_iff_of_perm {rules others : List LinkRule} (h : rules.Perm others)
    {link final : Link}
    : applyAll context path declaration rules link = .ok final
      ↔ applyAll context path declaration others link = .ok final := by
  rw [applyAll_eq_ok_iff, applyAll_eq_ok_iff,
    h.foldl_eq' (fun first _ second _ link => fst_apply_comm first second link)]
  exact and_congr_left' (forall_congr' (fun rule => imp_congr_left h.mem_iff))

/-- A rule adds to its own section only, and on a fault what stands before the fault; its verdict is
the same for every link that differs in its sections only. Rules in another order therefore accept
the same declarations for the same link, and make the same link of it. -/
theorem framed_and_commute (context : LinkContext) (path : FieldPath)
    (declaration : Template.LinkDeclaration) (link : Link)
    : (∀ rule : LinkRule,
        rule.Adds context.vocabulary declaration
            (rule.apply context path declaration link).2 link
            (rule.apply context path declaration link).1
        ∧ ∀ other : Link,
            other.bare = link.bare
            → (rule.apply context path declaration other).2
              = (rule.apply context path declaration link).2)
      ∧ ∀ rules : List LinkRule,
          rules.Perm all
          → ∀ final,
              applyAll context path declaration rules link = .ok final
              ↔ applyAll context path declaration all link = .ok final :=
  ⟨fun rule => ⟨adds_apply rule link, fun _ hb => snd_apply_congr rule hb⟩,
    fun _ hp _ => applyAll_eq_ok_iff_of_perm hp⟩

/-- A link from a host that has something in each section. -/
def filledLink : Link where
  key := none
  buyer := .virtualMachine
  seller := .physicalMachine
  relationship := some .hosting
  linkKey := none
  hasExternalEntity := false
  commodities := SortedSet.ofList [.cpu]
  probeProperties := SortedSet.ofList ["name"]
  propagations := [⟨.storage, none, false, []⟩]

theorem framed_and_commute_hostedMachine
    : all.reverse.Perm all
      ∧ ∃ entry ∈ hostedMachine.externalLink, ∃ final,
          applyAll ⟨.standard, .virtualMachine, ∅⟩ [] entry.value all.reverse filledLink = .ok final
          ∧ final.commodities.toList = [.cpu, .netThroughput]
          ∧ final.probeProperties.toList = ["name", "uuid"]
          ∧ final.propagations.length = 2 := by
  have hperm : all.reverse.Perm all := List.reverse_perm all
  obtain ⟨entry, hentry⟩ : ∃ entry, hostedMachine.externalLink = [entry] := ⟨_, rfl⟩
  have h
      : hostedMachine.externalLink.map (fun entry =>
          (applyAll ⟨.standard, .virtualMachine, ∅⟩ [] entry.value all filledLink).toOption.map
            (fun final =>
              (final.commodities.toList, final.probeProperties.toList, final.propagations.length)))
        = [some ([.cpu, .netThroughput], ["name", "uuid"], 2)] := by
    decide +kernel
  rw [hentry, List.map_singleton, List.singleton_inj] at h
  obtain ⟨final, hfinal, hsections⟩ := Option.map_eq_some_iff.mp h
  obtain ⟨hcommodities, hsections⟩ := Prod.mk.inj hsections
  obtain ⟨hnames, hlength⟩ := Prod.mk.inj hsections
  obtain ⟨_, hcommute⟩ :=
    framed_and_commute ⟨.standard, .virtualMachine, ∅⟩ [] entry.value filledLink
  exact ⟨hperm, entry, by simp [hentry], final,
    (hcommute _ hperm final).mpr (toOption_eq_some_iff.mp hfinal), hcommodities, hnames, hlength⟩

end LinkRule

end SupplyGraph
