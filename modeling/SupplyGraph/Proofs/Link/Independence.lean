import SupplyGraph.Proofs.Compile.DerivedFields
import SupplyGraph.Proofs.Entry.LinkDecisions
import SupplyGraph.Proofs.Entry.Reading

/-!
What links have to do with each other. The links of an entry are checked one after the other, with
the labels of those before; yet all that this comes to is that each of them passes alone and that
no two of them give a seller different labels.
-/

namespace SupplyGraph

open Check

-----------------------------------------------------------------------------------------
-- Labels as a list
-----------------------------------------------------------------------------------------

namespace SortedMap

variable {κ α : Type} [Key κ] (map : SortedMap κ α)

/-- A map has one value for each of its keys. -/
theorem singleValued_entries : SingleValued map.entries := by
  intro key left right hl hr
  rw [← map.find?_eq_some_iff] at hl hr
  exact Option.some.inj (hl.symm.trans hr)

theorem firsts_entries : firsts map.entries = map := by
  ext key : 1
  rw [find?_firsts]
  rfl

end SortedMap

/-- The labels of a context are those of a list of pairs, namely of its own entries. -/
theorem LinkContext.eq_firsts (context : LinkContext)
    : context = ⟨context.vocabulary, context.node, SortedMap.firsts context.labels.entries⟩ := by
  rw [SortedMap.firsts_entries]

/-- A label is contradicted exactly if its seller has another one, which the cause tells. -/
theorem Check.contradiction?_eq_some_iff {pairs : List (EntityType × Relationship)}
    (h : SingleValued pairs) {seller : EntityType} {declared : Relationship} {cause : Cause}
    : contradiction? pairs (seller, declared) = some cause
      ↔ ∃ existing,
          (seller, existing) ∈ pairs
          ∧ existing ≠ declared
          ∧ cause = .conflictingLabels seller existing declared := by
  simp only [← Labels.conflict?_firsts h, Labels.conflict?,
    ← SortedMap.find?_firsts_eq_some_iff h]
  cases (SortedMap.firsts pairs).find? seller with
  | none => simp
  | some existing => simp [eq_comm]

/-- A label is checked against two lists in turn. -/
theorem Check.contradiction?_append (front back : List (EntityType × Relationship))
    (stated : EntityType × Relationship)
    : contradiction? (front ++ back) stated
      = (contradiction? front stated).or (contradiction? back stated) := by
  rw [contradiction?, List.find?_append, Option.map_or]
  rfl

theorem LinkRule.applyAll_append {context : LinkContext} {path : FieldPath}
    {declaration : Template.LinkDeclaration} {link : Link} (front back : List LinkRule)
    : applyAll context path declaration (front ++ back) link
      = applyAll context path declaration front link
        >>= applyAll context path declaration back :=
  List.foldlM_append

-----------------------------------------------------------------------------------------
-- Links that agree
-----------------------------------------------------------------------------------------

namespace Link

/-- The link gives a label to a seller that the node buys from. -/
def Gives (node seller : EntityType) (label : Relationship) (link : Link) : Prop :=
  link.buyer = node ∧ link.seller = seller ∧ link.relationship = some label

/-- The label that a link is checked for is the one that it gives. -/
theorem label?_eq_some_iff {node seller : EntityType} {label : Relationship} {link : Link}
    : link.label? node = some (seller, label) ↔ link.Gives node seller label := by
  simp only [label?, declaredLabel?, Option.map_eq_some_iff, Option.ite_none_right_eq_some,
    Prod.mk.injEq, Gives]
  constructor
  · intro h
    obtain ⟨_, ⟨hbuyer, hrelationship⟩, hseller, rfl⟩ := h
    exact ⟨hbuyer, hseller, hrelationship⟩
  · intro h
    obtain ⟨hbuyer, hseller, hrelationship⟩ := h
    exact ⟨label, ⟨hbuyer, hrelationship⟩, hseller, rfl⟩

/-- No two of the links give a seller of the node different labels. -/
def Consistent (node : EntityType) (links : List Link) : Prop :=
  ∀ first ∈ links,
    ∀ second ∈ links,
      ∀ seller left right,
        first.Gives node seller left → second.Gives node seller right → left = right

/-- Links are consistent exactly if the labels that they give to a node have one value for each
seller. -/
theorem consistent_iff_singleValued {node : EntityType} {links : List Link}
    : Consistent node links ↔ SingleValued (links.filterMap (label? node)) := by
  constructor
  · intro h seller left right hleft hright
    obtain ⟨first, hf, hleft⟩ := List.mem_filterMap.mp hleft
    obtain ⟨second, hs, hright⟩ := List.mem_filterMap.mp hright
    exact h first hf second hs seller left right (label?_eq_some_iff.mp hleft)
      (label?_eq_some_iff.mp hright)
  · intro h first hf second hs seller left right hleft hright
    exact h seller left right
      (List.mem_filterMap.mpr ⟨first, hf, label?_eq_some_iff.mpr hleft⟩)
      (List.mem_filterMap.mpr ⟨second, hs, label?_eq_some_iff.mpr hright⟩)

-----------------------------------------------------------------------------------------
-- Links that are accepted
-----------------------------------------------------------------------------------------

/-- The links are those that the link entries come to, each of them alone. -/
def EachAlone (context : LinkContext) (entries : List Template.LinkEntry) (links : List Link)
    : Prop :=
  List.Forall₂ (fun item link => validate context item.2 item.1 = .ok link) entries.zipIdx links

/-- Every link entry has a link of its own. -/
theorem EachAlone.exists_link {context : LinkContext} {entries : List Template.LinkEntry}
    {links : List Link} (h : EachAlone context entries links) {position : Nat}
    {entry : Template.LinkEntry} (hentry : entries[position]? = some entry)
    : ∃ link ∈ links, validate context position entry = .ok link := by
  obtain ⟨link, hm, hlink⟩ :=
    exists_right_of_forall₂ h (List.mk_mem_zipIdx_iff_getElem?.mpr hentry)
  exact ⟨link, hm, hlink⟩

/-- Every link has a link entry of its own. -/
theorem EachAlone.exists_entry {context : LinkContext} {entries : List Template.LinkEntry}
    {links : List Link} (h : EachAlone context entries links) {link : Link} (hm : link ∈ links)
    : ∃ position entry,
        entries[position]? = some entry ∧ validate context position entry = .ok link := by
  obtain ⟨⟨entry, position⟩, hentry, hlink⟩ := exists_left_of_forall₂ h hm
  exact ⟨position, entry, List.mk_mem_zipIdx_iff_getElem?.mp hentry, hlink⟩

/-- Each link is valid alone exactly if it is declared and does not contradict the labels of the
node. -/
theorem eachAlone_iff {context : LinkContext} {entries : List Template.LinkEntry}
    {links : List Link}
    : EachAlone context entries links
      ↔ entries.mapM (declared? context.vocabulary context.node) = some links
        ∧ ∀ link ∈ links, ∀ pair,
            link.label? context.node = some pair
            → context.labels.conflict? pair.1 pair.2 = none := by
  simp only [EachAlone, validate_eq_ok_iff, forall₂_and_right]
  refine and_congr_left' ?_
  have hplaces : entries.zipIdx.map Prod.fst = entries := List.zipIdx_map_fst 0 entries
  constructor
  · intro h
    rw [← hplaces]
    exact mapM_of_forall₂ (List.forall₂_map_left_iff.mpr h)
  · intro h
    rw [← hplaces] at h
    exact List.forall₂_map_left_iff.mp (forall₂_of_mapM h)

/-- Links contradict no label when none of their labels does. -/
theorem forall_conflict?_iff {labels : Labels} {node : EntityType} {links : List Link}
    : (∀ link ∈ links, ∀ pair,
        link.label? node = some pair → labels.conflict? pair.1 pair.2 = none)
      ↔ ∀ seller left right,
          (seller, left) ∈ labels.entries
          → (seller, right) ∈ links.filterMap (label? node)
          → left = right := by
  simp only [Labels.conflict?_eq_none_iff, SortedMap.find?_eq_some_iff]
  constructor
  · intro h seller left right hleft hright
    obtain ⟨link, hm, hlabel⟩ := List.mem_filterMap.mp hright
    exact h link hm _ hlabel left hleft
  · intro h link hm pair hlabel existing hexisting
    exact h pair.1 existing pair.2 hexisting (List.mem_filterMap.mpr ⟨link, hm, hlabel⟩)

/-- The link entries of an entry are accepted exactly when each of them is accepted alone and the
links are consistent. -/
theorem validateAll_eq_ok_iff {context : LinkContext} {entries : List Template.LinkEntry}
    {links : List Link}
    : validateAll context entries = .ok links
      ↔ EachAlone context entries links ∧ Consistent context.node links := by
  have hlabels := SortedMap.singleValued_entries context.labels
  rw [validateAll, context.eq_firsts, validateFrom_eq_ok_iff hlabels, ← context.eq_firsts,
    eachAlone_iff, forall_conflict?_iff, consistent_iff_singleValued, singleValued_append_iff,
    and_assoc]
  refine and_congr_right (fun _ => ?_)
  rw [and_iff_right hlabels, and_comm]

-----------------------------------------------------------------------------------------
-- A link behind others
-----------------------------------------------------------------------------------------

/-- The field of the label of the link entry at a position. -/
def labelPath (position : Nat) : FieldPath :=
  ((FieldPath.index [.field "externalLink"] position).field "value").field "relationship"

/-- The link, unless its label contradicts one of the labels before it. -/
def against (node : EntityType) (pairs : List (EntityType × Relationship)) (position : Nat)
    (link : Link)
    : Except Fault Link :=
  match (link.label? node).bind (contradiction? pairs) with
  | none => .ok link
  | some cause => .error ⟨labelPath position, cause⟩

/-- A link is held against two lists of labels in turn. -/
theorem against_append (node : EntityType) (front back : List (EntityType × Relationship))
    (position : Nat)
    : against node (front ++ back) position
      = fun link => against node front position link >>= against node back position := by
  funext link
  have hbind
      : (link.label? node).bind (contradiction? (front ++ back))
        = ((link.label? node).bind (contradiction? front)).or
            ((link.label? node).bind (contradiction? back)) := by
    cases link.label? node with
    | none => rfl
    | some stated => exact contradiction?_append front back stated
  rw [against, against, hbind]
  cases (link.label? node).bind (contradiction? front) <;> rfl

section Behind

variable {vocabulary : Vocabulary} {node : EntityType}
  {front back : List (EntityType × Relationship)}

/-- On its own, the last rule holds a link against the labels from before. -/
theorem applyAll_hostingConsistency {pairs : List (EntityType × Relationship)}
    (h : SingleValued pairs) (position : Nat) (declaration : Template.LinkDeclaration)
    : LinkRule.applyAll ⟨vocabulary, node, SortedMap.firsts pairs⟩
          ((FieldPath.index [.field "externalLink"] position).field "value") declaration
          [.hostingConsistency]
      = against node pairs position := by
  funext link
  rw [LinkRule.applyAll_cons, against, label?]
  simp only [LinkRule.apply]
  cases hd : link.declaredLabel? node with
  | none => rfl
  | some declared =>
      simp only [Option.map_some, Option.bind_some, ← Labels.conflict?_firsts h]
      cases Labels.conflict? (SortedMap.firsts pairs) link.seller declared <;> rfl

/-- A link behind others is checked like one behind fewer, and then against the labels of the
others. -/
theorem validate_append (hf : SingleValued front) (h : SingleValued (front ++ back))
    (position : Nat) (entry : Template.LinkEntry)
    : validate ⟨vocabulary, node, SortedMap.firsts (front ++ back)⟩ position entry
      = validate ⟨vocabulary, node, SortedMap.firsts front⟩ position entry
        >>= against node back position := by
  -- Only the last rule looks at the labels.
  have hrules
      : ∀ pairs : List (EntityType × Relationship), SingleValued pairs → ∀ link,
          LinkRule.applyAll ⟨vocabulary, node, SortedMap.firsts pairs⟩
              ((FieldPath.index [.field "externalLink"] position).field "value") entry.value
              LinkRule.all link
            = LinkRule.applyAll ⟨vocabulary, node, ∅⟩
                ((FieldPath.index [.field "externalLink"] position).field "value") entry.value
                [.scope, .commodityDefs, .probeProperties, .entityProperties] link
              >>= against node pairs position := by
    intro pairs hpairs link
    rw [← @applyAll_hostingConsistency vocabulary node pairs hpairs position entry.value]
    exact LinkRule.applyAll_append
      [.scope, .commodityDefs, .probeProperties, .entityProperties] [.hostingConsistency]
  simp only [validate, hrules _ h, hrules _ hf, bind_assoc, against_append]

/-- The link entries behind an accepted one are checked with its label among those before them. -/
theorem validateFrom_cons_of_ok (hf : SingleValued front) {position : Nat}
    {entry : Template.LinkEntry} {link : Link}
    (hlink : validate ⟨vocabulary, node, SortedMap.firsts front⟩ position entry = .ok link)
    : SingleValued (front ++ (link.label? node).toList)
      ∧ ∀ rest,
          validateFrom ⟨vocabulary, node, SortedMap.firsts front⟩ position (entry :: rest)
          = (validateFrom
              ⟨vocabulary, node, SortedMap.firsts (front ++ (link.label? node).toList)⟩
              (position + 1) rest).map (fun links => link :: links) := by
  have hs := (forall_conflict?_eq_none_iff hf link).mp (validate_eq_ok_iff.mp hlink).2
  refine ⟨hs, fun rest => ?_⟩
  rw [validateFrom, hlink, ← after_firsts hs]
  rfl

/-- Link entries are refused exactly when one of them is refused behind those before it, which are
accepted; by induction on the entries. -/
theorem validateFrom_eq_error_iff (hf : SingleValued front) {position : Nat}
    {entries : List Template.LinkEntry} {fault : Fault}
    : validateFrom ⟨vocabulary, node, SortedMap.firsts front⟩ position entries = .error fault
      ↔ ∃ accepted entry rest links,
          entries = accepted ++ entry :: rest
          ∧ validateFrom ⟨vocabulary, node, SortedMap.firsts front⟩ position accepted = .ok links
          ∧ validate
                ⟨vocabulary, node, SortedMap.firsts (front ++ links.filterMap (label? node))⟩
                (position + accepted.length) entry
              = .error fault := by
  induction entries generalizing front position with
  | nil => simp [validateFrom]
  | cons first others ih =>
      have hlater
          : ∀ accepted : List Template.LinkEntry,
              position + (first :: accepted).length = position + 1 + accepted.length := by
        intro accepted
        rw [List.length_cons]
        omega
      constructor
      · intro h
        cases hfirst : validate ⟨vocabulary, node, SortedMap.firsts front⟩ position first with
        | error found =>
            rw [validateFrom, hfirst] at h
            obtain rfl : found = fault := Except.error.inj h
            refine ⟨[], first, others, [], rfl, rfl, ?_⟩
            rwa [List.filterMap_nil, List.append_nil]
        | ok link =>
            obtain ⟨hs, hcons⟩ := validateFrom_cons_of_ok hf hfirst
            rw [hcons, map_eq_error_iff] at h
            obtain ⟨accepted, entry, rest, links, rfl, haccepted, hentry⟩ := (ih hs).mp h
            refine ⟨first :: accepted, entry, rest, link :: links, rfl, ?_, ?_⟩
            · rw [hcons, haccepted]
              rfl
            · rwa [filterMap_label?_cons, ← List.append_assoc, hlater]
      · intro hi
        obtain ⟨accepted, entry, rest, links, hentries, haccepted, hentry⟩ := hi
        cases accepted with
        | nil =>
            obtain ⟨rfl, rfl⟩ := List.cons.inj hentries
            obtain rfl := Except.ok.inj haccepted
            rw [List.filterMap_nil, List.append_nil] at hentry
            rw [validateFrom]
            exact bind_eq_error_iff.mpr (Or.inl hentry)
        | cons _ accepted =>
            obtain ⟨rfl, rfl⟩ := List.cons.inj hentries
            have hfirst := haccepted
            rw [validateFrom] at hfirst
            obtain ⟨link, hfirst, _⟩ := bind_eq_ok_iff.mp hfirst
            obtain ⟨hs, hcons⟩ := validateFrom_cons_of_ok hf hfirst
            rw [hcons, map_eq_ok_iff] at haccepted
            obtain ⟨later, haccepted, rfl⟩ := haccepted
            rw [hlater, filterMap_label?_cons, ← List.append_assoc] at hentry
            rw [hcons, map_eq_error_iff]
            exact (ih hs).mpr ⟨accepted, entry, rest, later, rfl, haccepted, hentry⟩

end Behind

-----------------------------------------------------------------------------------------
-- Links that are refused
-----------------------------------------------------------------------------------------

/-- What the link entry at a position is refused for: it is refused alone, or it passes alone and
its link gives a seller another label than the link of an earlier entry does, which passes alone
too. -/
inductive FailsAt (context : LinkContext) (entries : List Template.LinkEntry) (position : Nat)
    : Fault → Prop
  | alone {entry : Template.LinkEntry} {fault : Fault}
      (hentry : entries[position]? = some entry)
      (hfault : validate context position entry = .error fault)
    : FailsAt context entries position fault
  | contradicts {entry other : Template.LinkEntry} {link earlier : Link} {before : Nat}
      {seller : EntityType} {existing declared : Relationship}
      (hentry : entries[position]? = some entry)
      (hlink : validate context position entry = .ok link)
      (hbefore : before < position)
      (hother : entries[before]? = some other)
      (hearlier : validate context before other = .ok earlier)
      (hexisting : earlier.Gives context.node seller existing)
      (hdeclared : link.Gives context.node seller declared)
      (hdiffer : existing ≠ declared)
    : FailsAt context entries position
        ⟨labelPath position, .conflictingLabels seller existing declared⟩

/-- A link is refused exactly if its seller has another label, and the fault tells both. -/
theorem against_eq_error_iff {node : EntityType} {pairs : List (EntityType × Relationship)}
    (h : SingleValued pairs) {position : Nat} {link : Link} {fault : Fault}
    : against node pairs position link = .error fault
      ↔ ∃ seller existing declared,
          link.Gives node seller declared
          ∧ (seller, existing) ∈ pairs
          ∧ existing ≠ declared
          ∧ fault = ⟨labelPath position, .conflictingLabels seller existing declared⟩ := by
  constructor
  · intro hfault
    rw [against] at hfault
    split at hfault
    next => cases hfault
    next cause hcause =>
      obtain ⟨⟨seller, declared⟩, hlabel, hcause⟩ := Option.bind_eq_some_iff.mp hcause
      obtain ⟨existing, hm, hdiffer, rfl⟩ := (contradiction?_eq_some_iff h).mp hcause
      exact ⟨seller, existing, declared, label?_eq_some_iff.mp hlabel, hm, hdiffer,
        (Except.error.inj hfault).symm⟩
  · intro hi
    obtain ⟨seller, existing, declared, hgives, hm, hdiffer, rfl⟩ := hi
    rw [against, label?_eq_some_iff.mpr hgives, Option.bind_some,
      (contradiction?_eq_some_iff h).mpr ⟨existing, hm, hdiffer, rfl⟩]

section Failing

variable {context : LinkContext} {accepted rest : List Template.LinkEntry}
  {entry : Template.LinkEntry} {links : List Link} {fault : Fault}

/-- The labels of accepted links contradict neither each other nor those of the node. -/
theorem singleValued_of_accepted (h : validateAll context accepted = .ok links)
    : SingleValued (context.labels.entries ++ links.filterMap (label? context.node)) := by
  rw [validateAll, context.eq_firsts] at h
  exact ((validateFrom_eq_ok_iff (SortedMap.singleValued_entries _) 0 accepted).mp h).2

/-- The labels of accepted links are those that their entries give alone. -/
theorem mem_labels_of_accepted (h : validateAll context accepted = .ok links)
    {seller : EntityType} {label : Relationship}
    : (seller, label) ∈ links.filterMap (label? context.node)
      ↔ ∃ before other earlier,
          accepted[before]? = some other
          ∧ validate context before other = .ok earlier
          ∧ earlier.Gives context.node seller label := by
  obtain ⟨halone, _⟩ := validateAll_eq_ok_iff.mp h
  simp only [List.mem_filterMap, label?_eq_some_iff]
  constructor
  · intro hi
    obtain ⟨earlier, hm, hgives⟩ := hi
    obtain ⟨before, other, hother, hearlier⟩ := halone.exists_entry hm
    exact ⟨before, other, earlier, hother, hearlier, hgives⟩
  · intro hi
    obtain ⟨before, other, earlier, hother, hearlier, hgives⟩ := hi
    obtain ⟨link, hm, hlink⟩ := halone.exists_link hother
    obtain rfl := Except.ok.inj (hearlier.symm.trans hlink)
    exact ⟨earlier, hm, hgives⟩

/-- A link entry behind accepted ones is refused for what it fails at. -/
theorem validate_behind_eq_error_iff (h : validateAll context accepted = .ok links)
    : validate
          ⟨context.vocabulary, context.node,
            SortedMap.firsts (context.labels.entries ++ links.filterMap (label? context.node))⟩
          accepted.length entry
        = .error fault
      ↔ FailsAt context (accepted ++ entry :: rest) accepted.length fault := by
  have hall := singleValued_of_accepted h
  obtain ⟨hbase, hlinks, _⟩ := singleValued_append_iff.mp hall
  have hentry : (accepted ++ entry :: rest)[accepted.length]? = some entry := by simp
  have hbefore
      : ∀ before < accepted.length, (accepted ++ entry :: rest)[before]? = accepted[before]? :=
    fun before hlt => List.getElem?_append_left hlt
  rw [validate_append hbase hall, bind_eq_error_iff, ← context.eq_firsts]
  constructor
  · intro hi
    rcases hi with hfault | ⟨link, hlink, hfault⟩
    · exact .alone hentry hfault
    · obtain ⟨seller, existing, declared, hdeclared, hm, hdiffer, rfl⟩ :=
        (against_eq_error_iff hlinks).mp hfault
      obtain ⟨before, other, earlier, hother, hearlier, hexisting⟩ :=
        (mem_labels_of_accepted h).mp hm
      obtain ⟨hlt, _⟩ := List.getElem?_eq_some_iff.mp hother
      exact .contradicts hentry hlink hlt ((hbefore before hlt).trans hother) hearlier hexisting
        hdeclared hdiffer
  · intro hi
    cases hi with
    | alone hsame hfault =>
        obtain rfl := Option.some.inj (hentry.symm.trans hsame)
        exact Or.inl hfault
    | contradicts hsame hlink hlt hother hearlier hexisting hdeclared hdiffer =>
        obtain rfl := Option.some.inj (hentry.symm.trans hsame)
        refine Or.inr ⟨_, hlink, (against_eq_error_iff hlinks).mpr
          ⟨_, _, _, hdeclared, (mem_labels_of_accepted h).mpr ?_, hdiffer, rfl⟩⟩
        exact ⟨_, _, _, (hbefore _ hlt).symm.trans hother, hearlier, hexisting⟩

/-- Accepted link entries do not fail at any position. -/
theorem not_failsAt_of_accepted (h : validateAll context accepted = .ok links) {position : Nat}
    (hposition : position < accepted.length)
    : ¬ FailsAt context (accepted ++ rest) position fault := by
  obtain ⟨halone, hconsistent⟩ := validateAll_eq_ok_iff.mp h
  have hpassed
      : ∀ before < accepted.length, ∀ other,
          (accepted ++ rest)[before]? = some other
          → ∃ link ∈ links, validate context before other = .ok link := by
    intro before hlt other hother
    rw [List.getElem?_append_left hlt] at hother
    exact halone.exists_link hother
  intro hi
  cases hi with
  | alone hentry hfault =>
      obtain ⟨link, _, hlink⟩ := hpassed position hposition _ hentry
      exact absurd (hfault.symm.trans hlink) (by nofun)
  | contradicts hentry hlink hlt hother hearlier hexisting hdeclared hdiffer =>
      obtain ⟨first, hfirst, hsame⟩ := hpassed _ (Nat.lt_trans hlt hposition) _ hother
      obtain rfl := Except.ok.inj (hearlier.symm.trans hsame)
      obtain ⟨second, hsecond, hsame⟩ := hpassed position hposition _ hentry
      obtain rfl := Except.ok.inj (hlink.symm.trans hsame)
      exact hdiffer (hconsistent _ hfirst _ hsecond _ _ _ hexisting hdeclared)

/-- Link entries are refused exactly for what one of them fails at behind accepted ones. -/
theorem validateAll_eq_error_iff_exists_accepted {entries : List Template.LinkEntry}
    : validateAll context entries = .error fault
      ↔ ∃ accepted entry rest links,
          entries = accepted ++ entry :: rest
          ∧ validateAll context accepted = .ok links
          ∧ FailsAt context entries accepted.length fault := by
  have hrun
      := @validateFrom_eq_error_iff context.vocabulary context.node context.labels.entries
        (SortedMap.singleValued_entries _) 0 entries fault
  rw [← context.eq_firsts] at hrun
  refine hrun.trans ?_
  constructor
  · intro hi
    obtain ⟨accepted, entry, rest, links, rfl, haccepted, hentry⟩ := hi
    rw [Nat.zero_add] at hentry
    exact ⟨accepted, entry, rest, links, rfl, haccepted,
      (validate_behind_eq_error_iff haccepted).mp hentry⟩
  · intro hi
    obtain ⟨accepted, entry, rest, links, rfl, haccepted, hfails⟩ := hi
    refine ⟨accepted, entry, rest, links, rfl, haccepted, ?_⟩
    rw [Nat.zero_add]
    exact (validate_behind_eq_error_iff haccepted).mpr hfails

/-- Link entries that do not fail at any position are accepted. -/
theorem exists_accepted
    (h : ∀ position < accepted.length, ∀ fault, ¬ FailsAt context (accepted ++ rest) position fault)
    : ∃ links, validateAll context accepted = .ok links := by
  cases hresult : validateAll context accepted with
  | ok links => exact ⟨links, rfl⟩
  | error fault =>
      obtain ⟨before, entry, later, links, rfl, hbefore, hfails⟩ :=
        validateAll_eq_error_iff_exists_accepted.mp hresult
      refine absurd ?_ (h before.length (by simp) fault)
      have hentry := (validate_behind_eq_error_iff hbefore).mpr hfails
      rw [List.append_assoc, List.cons_append]
      exact (validate_behind_eq_error_iff hbefore).mp hentry

end Failing

/-- Link entries are refused exactly for what the first of them fails at that does. -/
theorem validateAll_eq_error_iff {context : LinkContext} {entries : List Template.LinkEntry}
    {fault : Fault}
    : validateAll context entries = .error fault
      ↔ ∃ position,
          FailsAt context entries position fault
          ∧ ∀ before < position, ∀ other, ¬ FailsAt context entries before other := by
  rw [validateAll_eq_error_iff_exists_accepted]
  constructor
  · intro hi
    obtain ⟨accepted, entry, rest, links, rfl, haccepted, hfails⟩ := hi
    exact ⟨accepted.length, hfails,
      fun before hlt other => not_failsAt_of_accepted haccepted hlt⟩
  · intro hi
    obtain ⟨position, hfails, hfirst⟩ := hi
    -- The entries are split at the position, where there is one.
    have hlt : position < entries.length := by
      cases hfails with
      | alone hentry _ => exact (List.getElem?_eq_some_iff.mp hentry).1
      | contradicts hentry _ _ _ _ _ _ _ => exact (List.getElem?_eq_some_iff.mp hentry).1
    have hsplit
        : entries.take position ++ entries[position] :: entries.drop (position + 1) = entries := by
      rw [← List.drop_eq_getElem_cons hlt, List.take_append_drop]
    have hlength : (entries.take position).length = position :=
      List.length_take_of_le (Nat.le_of_lt hlt)
    obtain ⟨links, haccepted⟩
        := @exists_accepted context (entries.take position) (entries.drop position) (by
          rw [List.take_append_drop, hlength]
          exact hfirst)
    refine ⟨_, _, _, links, hsplit.symm, haccepted, ?_⟩
    rwa [hlength]

/-- The link entries of an entry are accepted exactly when each of them is accepted alone and the
links are consistent, which are then the links of the entries alone. They are refused exactly for
what the first of them fails at that does. -/
theorem validateAll_checks_each_alone (context : LinkContext) (entries : List Template.LinkEntry)
    : (∀ links,
        validateAll context entries = .ok links
        ↔ EachAlone context entries links ∧ Consistent context.node links)
      ∧ ∀ fault,
          validateAll context entries = .error fault
          ↔ ∃ position,
              FailsAt context entries position fault
              ∧ ∀ before < position, ∀ other, ¬ FailsAt context entries before other :=
  ⟨fun _ => validateAll_eq_ok_iff, fun _ => validateAll_eq_error_iff⟩

/-- Two links from one host, of which only the first one is of a machine that the host runs. -/
def contraryLinks : List Template.LinkEntry :=
  hostedMachine.externalLink
    ++ hostedMachine.externalLink.map (fun entry =>
      { entry with value := { entry.value with relationship := "LAYERED_OVER" } })

theorem validateAll_checks_each_alone_contraryLinks
    : ∃ position,
        FailsAt ⟨.standard, .virtualMachine, ∅⟩ contraryLinks position
          ⟨labelPath 1, .conflictingLabels .physicalMachine .hosting .layeredOver⟩
        ∧ ∀ before < position, ∀ other,
            ¬ FailsAt ⟨.standard, .virtualMachine, ∅⟩ contraryLinks before other := by
  have hrefused
      : validateAll ⟨.standard, .virtualMachine, ∅⟩ contraryLinks
        = .error ⟨labelPath 1, .conflictingLabels .physicalMachine .hosting .layeredOver⟩ := by
    decide +kernel
  obtain ⟨_, hfaults⟩ :=
    validateAll_checks_each_alone ⟨.standard, .virtualMachine, ∅⟩ contraryLinks
  exact (hfaults _).mp hrefused

end Link

end SupplyGraph
