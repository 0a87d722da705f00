import SupplyGraph.Proofs.Chain.Assembly
import SupplyGraph.Proofs.Entry.Declaration

/-!
Runs of the compiler. What a document comes to is settled by the nodes of its entries, each taken
as a document of its own: by whether all of them have one, and by whether these agree.
-/

namespace SupplyGraph

namespace Chain

theorem addEntry_eq_ok_iff {vocabulary : Vocabulary} {chain next : Chain} {position : Nat}
    {entry : Template.Entry}
    : chain.addEntry vocabulary position entry = .ok next
      ↔ ∃ node, Node.ofEntry vocabulary entry = .ok node ∧ chain.fold node = .ok next := by
  rw [← bind_eq_ok_iff, addEntry]
  cases Node.ofEntry vocabulary entry >>= chain.fold <;> simp

/-- An entry is refused for its own fault, or for the fault of folding its node. -/
theorem addEntry_eq_error_iff {vocabulary : Vocabulary} {chain : Chain} {position : Nat}
    {entry : Template.Entry} {rejection : Rejection}
    : chain.addEntry vocabulary position entry = .error rejection
      ↔ ∃ fault,
          rejection = fault.within position entry.templateClass
          ∧ (Node.ofEntry vocabulary entry = .error fault
            ∨ ∃ node,
                Node.ofEntry vocabulary entry = .ok node ∧ chain.fold node = .error fault) := by
  rw [addEntry]
  simp only [← bind_eq_error_iff]
  cases Node.ofEntry vocabulary entry >>= chain.fold with
  | ok next => simp
  | error fault => simp [eq_comm]

/-- Entries behind others are added to the chain that these come to. -/
theorem addEntries_append (vocabulary : Vocabulary) (chain : Chain) (position : Nat)
    (front back : List Template.Entry)
    : addEntries vocabulary chain position (front ++ back)
      = addEntries vocabulary chain position front
        >>= fun middle => addEntries vocabulary middle (position + front.length) back := by
  induction front generalizing chain position with
  | nil => rfl
  | cons entry rest ih =>
      simp only [List.cons_append, addEntries, List.length_cons]
      cases chain.addEntry vocabulary position entry with
      | error rejection => rfl
      | ok extended =>
          have hlength : position + (rest.length + 1) = position + 1 + rest.length := by omega
          rw [hlength]
          exact ih extended (position + 1)

end Chain

/-- The node of the document that has the entry alone, if this document compiles. -/
def soleNode? (vocabulary : Vocabulary) (entry : Template.Entry) : Option Node :=
  match compile vocabulary ⟨[entry]⟩ with
  | .ok chain => chain.nodeList.head?
  | .error _ => none

/-- A document of one entry fails exactly with the fault of this entry. -/
theorem compile_singleton (vocabulary : Vocabulary) (entry : Template.Entry)
    : compile vocabulary ⟨[entry]⟩
      = match Node.ofEntry vocabulary entry with
        | .ok node => .ok (Chain.ofNodes [node])
        | .error fault => .error (fault.within 0 entry.templateClass) := by
  simp only [compile, Chain.addEntries, Chain.addEntry]
  cases Node.ofEntry vocabulary entry <;> rfl

theorem compile_singleton_eq_ok_iff {vocabulary : Vocabulary} {entry : Template.Entry}
    {chain : Chain}
    : compile vocabulary ⟨[entry]⟩ = .ok chain
      ↔ ∃ node, Node.ofEntry vocabulary entry = .ok node ∧ Chain.ofNodes [node] = chain := by
  rw [compile_singleton]
  cases Node.ofEntry vocabulary entry <;> simp

theorem soleNode?_eq_some_iff {vocabulary : Vocabulary} {entry : Template.Entry} {node : Node}
    : soleNode? vocabulary entry = some node ↔ Node.ofEntry vocabulary entry = .ok node := by
  rw [soleNode?, compile_singleton]
  cases Node.ofEntry vocabulary entry with
  | error fault => simp
  | ok found =>
      change some found = some node ↔ _
      simp

/-- What is declared for an entity type gives a node of this type without contradictions. -/
theorem soleNode?_spec {vocabulary : Vocabulary} {entry : Template.Entry} {node : Node}
    (h : soleNode? vocabulary entry = some node)
    : entry.entityType? vocabulary = some node.entityType ∧ node.Coherent := by
  obtain ⟨entityType, declaration, hd, hs, rfl⟩ :=
    Node.ofEntry_eq_ok_iff.mp (soleNode?_eq_some_iff.mp h)
  exact ⟨(Template.Entry.declaration?_eq_some_iff.mp hd).1, Declaration.coherent_node hs⟩

/-- Entries are added to a chain of nodes exactly when each has a node on its own and all nodes
agree, by induction on the entries; the chain is then the one of all nodes. -/
theorem addEntries_ofNodes_eq_ok_iff {vocabulary : Vocabulary} (done : List Node)
    (h : done.Pairwise Node.Compatible) (position : Nat) (entries : List Template.Entry)
    {chain : Chain}
    : Chain.addEntries vocabulary (Chain.ofNodes done) position entries = .ok chain
      ↔ (∀ entry ∈ entries, (soleNode? vocabulary entry).isSome)
        ∧ (done ++ entries.filterMap (soleNode? vocabulary)).Pairwise Node.Compatible
        ∧ Chain.ofNodes (done ++ entries.filterMap (soleNode? vocabulary)) = chain := by
  induction entries generalizing done position with
  | nil => simp [Chain.addEntries, h]
  | cons entry rest ih =>
      simp only [Chain.addEntries, bind_eq_ok_iff, Chain.addEntry_eq_ok_iff,
        Chain.fold_ofNodes_eq_ok_iff h, ← soleNode?_eq_some_iff]
      cases hn : soleNode? vocabulary entry with
      | none => simp [hn]
      | some node =>
          have happend
              : done ++ (entry :: rest).filterMap (soleNode? vocabulary)
                = (done ++ [node]) ++ rest.filterMap (soleNode? vocabulary) := by
            simp [hn]
          rw [happend]
          simp only [List.forall_mem_cons, hn, Option.isSome_some, true_and]
          -- The entry folds in when its node agrees with all before it, so that agreement grows.
          constructor
          · intro hi
            obtain ⟨_, ⟨_, hnode, hc, rfl⟩, hrest⟩ := hi
            obtain rfl := Option.some.inj hnode
            have hp : (done ++ [node]).Pairwise Node.Compatible := by
              simpa [List.pairwise_append, h] using hc
            exact (ih _ hp (position + 1)).mp hrest
          · intro hi
            obtain ⟨hall, hp, hchain⟩ := hi
            have hfront := (List.pairwise_append.mp hp).1
            refine ⟨_, ⟨node, rfl, ?_, rfl⟩,
              (ih _ hfront (position + 1)).mpr ⟨hall, hp, hchain⟩⟩
            simpa [List.pairwise_append, h] using hfront

/-- A document compiles exactly when each entry has a node on its own and all nodes agree. -/
theorem compile_eq_ok_iff {vocabulary : Vocabulary} {document : Template.Document}
    {chain : Chain}
    : compile vocabulary document = .ok chain
      ↔ (∀ entry ∈ document.entries, (soleNode? vocabulary entry).isSome)
        ∧ (document.entries.filterMap (soleNode? vocabulary)).Pairwise Node.Compatible
        ∧ Chain.ofNodes (document.entries.filterMap (soleNode? vocabulary)) = chain :=
  addEntries_ofNodes_eq_ok_iff [] List.Pairwise.nil 0 document.entries

end SupplyGraph
