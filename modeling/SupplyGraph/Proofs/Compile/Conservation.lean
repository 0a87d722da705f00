import SupplyGraph.Proofs.Compile.Splitting
import SupplyGraph.Proofs.Sorted.Listing

/-!
Conservation of records. Every entry of a document leaves one record in the templates of one node,
and merging nodes loses none of them, so a compiled chain has as many as the document has entries.
-/

namespace SupplyGraph

namespace Chain

/-- The records of all nodes, node by node. -/
def records (chain : Chain) : List TemplateMeta := chain.nodeList.flatMap Node.templates

/-- Adding a node adds its records, whether or not it is merged into another node. -/
theorem perm_records_extendWith (chain : Chain) (node : Node)
    : (chain.extendWith node).records.Perm (chain.records ++ node.templates) := by
  simp only [records, nodeList, List.flatMap_map]
  cases hpresent : chain.node? node.entityType with
  | none =>
      have hnew : node.entityType ∉ chain.nodes.entries.map Prod.fst := by
        intro hm
        have hsome := (chain.nodes.mem_keys node.entityType).mp hm
        rw [node?] at hpresent
        simp [hpresent] at hsome
      have hentries
          : (chain.extendWith node).nodes.entries.Perm
              ((node.entityType, node) :: chain.nodes.entries) := by
        rw [extendWith, hpresent]
        exact perm_updateEntry hnew
      refine (hentries.flatMap_right _).trans ?_
      rw [List.flatMap_cons]
      exact List.perm_append_comm
  | some present =>
      obtain ⟨front, back, hentries, hchange⟩ :=
        exists_updateEntry_eq chain.nodes.ascending hpresent (fun _ => present.extend node)
      have hextended
          : (chain.extendWith node).nodes.entries
            = front ++ (node.entityType, present.extend node) :: back := by
        rw [extendWith, hpresent]
        exact hchange
      rw [hextended, hentries]
      simp only [List.flatMap_append, List.flatMap_cons, Node.extend, List.append_assoc]
      exact (List.perm_append_comm.append_left present.templates).append_left _

/-- The records of a chain are those of its nodes before they were merged, by induction from the
last node on. -/
theorem perm_records_ofNodes (nodes : List Node)
    : (ofNodes nodes).records.Perm (nodes.flatMap Node.templates) := by
  induction nodes using List.reverseRecOn with
  | nil => exact .rfl
  | append_singleton nodes node ih =>
      rw [ofNodes_concat, List.flatMap_append, List.flatMap_singleton]
      exact (perm_records_extendWith _ node).trans (ih.append_right node.templates)

end Chain

/-- Sole nodes have one record each, by induction on the entries. -/
theorem records_soleNodes {vocabulary : Vocabulary} {entries : List Template.Entry}
    (h : ∀ entry ∈ entries, (soleNode? vocabulary entry).isSome)
    : ((entries.filterMap (soleNode? vocabulary)).flatMap Node.templates).map some
      = entries.map Template.Entry.record? := by
  induction entries with
  | nil => rfl
  | cons entry rest ih =>
      obtain ⟨hentry, hrest⟩ := List.forall_mem_cons.mp h
      obtain ⟨node, hn⟩ := Option.isSome_iff_exists.mp hentry
      obtain ⟨record, hr, ht⟩ := templates_soleNode? hn
      rw [List.filterMap_cons_some hn, List.flatMap_cons, List.map_append, ht, ih hrest,
        List.map_singleton, List.singleton_append, List.map_cons, hr]

/-- The nodes of a compiled chain have the records of the entries, one for each, and no others. -/
theorem compile_keeps_records {vocabulary : Vocabulary} {document : Template.Document}
    {chain : Chain} (h : compile vocabulary document = .ok chain)
    : ∃ records,
        document.entries.map Template.Entry.record? = records.map some
        ∧ chain.records.Perm records := by
  obtain ⟨hall, _, rfl⟩ := compile_eq_ok_iff.mp h
  exact ⟨_, (records_soleNodes hall).symm, Chain.perm_records_ofNodes _⟩

/-- A compiled chain has as many records as its document has entries. -/
theorem length_records_of_compile {vocabulary : Vocabulary} {document : Template.Document}
    {chain : Chain} (h : compile vocabulary document = .ok chain)
    : chain.records.length = document.entries.length := by
  obtain ⟨records, hrecords, hperm⟩ := compile_keeps_records h
  have hlength := congrArg List.length hrecords
  rw [List.length_map, List.length_map] at hlength
  rw [hperm.length_eq, hlength]

end SupplyGraph
