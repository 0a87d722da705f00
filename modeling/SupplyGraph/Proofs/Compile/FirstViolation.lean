import SupplyGraph.Proofs.Compile.DerivedFields

/-!
Rejected documents. A document is rejected at the first entry that does not compile behind the
entries before it, with a fault that no later entry can change: the fault of the entry on its own,
or else the least provider to which the entry and the entries before it give different labels.
-/

namespace SupplyGraph

variable {vocabulary : Vocabulary}

/-- Entries are refused with the first of them that the chain of all before it refuses, by
induction on the entries. -/
theorem Chain.addEntries_eq_error_iff {chain : Chain} {position : Nat}
    {entries : List Template.Entry} {rejection : Rejection}
    : addEntries vocabulary chain position entries = .error rejection
      ↔ ∃ front entry back reached,
          entries = front ++ entry :: back
          ∧ addEntries vocabulary chain position front = .ok reached
          ∧ reached.addEntry vocabulary (position + front.length) entry = .error rejection := by
  constructor
  · intro h
    induction entries generalizing chain position with
    | nil => cases h
    | cons entry rest ih =>
        rw [addEntries] at h
        cases hc : chain.addEntry vocabulary position entry with
        | error found =>
            rw [hc] at h
            obtain rfl : found = rejection := Except.error.inj h
            exact ⟨[], entry, rest, chain, rfl, rfl, hc⟩
        | ok extended =>
            rw [hc] at h
            obtain ⟨front, refused, back, reached, rfl, hreached, hrefused⟩ := ih h
            refine ⟨entry :: front, refused, back, reached, rfl, ?_, ?_⟩
            · rw [addEntries, hc]
              exact hreached
            · have hlength : position + (entry :: front).length = position + 1 + front.length := by
                rw [List.length_cons]
                omega
              rw [hlength, hrefused]
  · intro hi
    obtain ⟨front, entry, back, reached, rfl, hreached, hrefused⟩ := hi
    rw [addEntries_append, hreached]
    change addEntries vocabulary reached _ (entry :: back) = _
    rw [addEntries, hrefused]
    rfl

/-- A document is rejected with the first entry that the entries before it leave no room for. -/
theorem compile_eq_error_iff {entries : List Template.Entry} {rejection : Rejection}
    : compile vocabulary ⟨entries⟩ = .error rejection
      ↔ ∃ front entry back reached,
          entries = front ++ entry :: back
          ∧ compile vocabulary ⟨front⟩ = .ok reached
          ∧ reached.addEntry vocabulary front.length entry = .error rejection := by
  simp only [compile, Chain.addEntries_eq_error_iff, Nat.zero_add]

/-- Nothing that follows can change a rejection. -/
theorem compile_append_of_error {front : List Template.Entry} {rejection : Rejection}
    (h : compile vocabulary ⟨front⟩ = .error rejection) (back : List Template.Entry)
    : compile vocabulary ⟨front ++ back⟩ = .error rejection := by
  obtain ⟨earlier, entry, later, reached, rfl, hreached, hrefused⟩ := compile_eq_error_iff.mp h
  exact compile_eq_error_iff.mpr
    ⟨earlier, entry, later ++ back, reached, by simp, hreached, hrefused⟩

theorem compile_concat_of_ok {front : List Template.Entry} {reached : Chain}
    (h : compile vocabulary ⟨front⟩ = .ok reached) (entry : Template.Entry)
    : compile vocabulary ⟨front ++ [entry]⟩
      = reached.addEntry vocabulary front.length entry := by
  rw [compile] at h ⊢
  rw [Chain.addEntries_append, h, Nat.zero_add]
  change Chain.addEntries vocabulary reached front.length [entry] = _
  rw [Chain.addEntries]
  cases reached.addEntry vocabulary front.length entry <;> rfl

/-- Every beginning of entries that compile compiles. -/
theorem compile_take_ok {entries : List Template.Entry} {fewer more : Nat} (hle : fewer ≤ more)
    (h : ∃ chain, compile vocabulary ⟨entries.take more⟩ = .ok chain)
    : ∃ chain, compile vocabulary ⟨entries.take fewer⟩ = .ok chain := by
  obtain ⟨chain, hchain⟩ := h
  obtain ⟨back, hback⟩ := List.take_prefix_take_left (l := entries) hle
  cases hf : compile vocabulary ⟨entries.take fewer⟩ with
  | ok reached => exact ⟨reached, rfl⟩
  | error rejection =>
      have herror := compile_append_of_error hf back
      rw [hback, hchain] at herror
      cases herror

/-- The entries before a position compile, and with the entry at the position they do not. -/
def RejectedAt (vocabulary : Vocabulary) (entries : List Template.Entry) (position : Nat) : Prop :=
  (∃ chain, compile vocabulary ⟨entries.take position⟩ = .ok chain)
  ∧ ¬ ∃ chain, compile vocabulary ⟨entries.take (position + 1)⟩ = .ok chain

/-- Entries are rejected at one position at most, as all before this one compile. -/
theorem RejectedAt.unique {entries : List Template.Entry} {position other : Nat}
    (h : RejectedAt vocabulary entries position) (ho : RejectedAt vocabulary entries other)
    : other = position := by
  have hle : ¬ other < position := fun hlt => ho.2 (compile_take_ok hlt h.1)
  have hge : ¬ position < other := fun hlt => h.2 (compile_take_ok hlt ho.1)
  omega

/-- Entries are rejected at the position of the entry that is refused. -/
theorem rejectedAt_iff {entries : List Template.Entry} {position : Nat}
    : RejectedAt vocabulary entries position
      ↔ ∃ front entry back reached rejection,
          entries = front ++ entry :: back
          ∧ front.length = position
          ∧ compile vocabulary ⟨front⟩ = .ok reached
          ∧ reached.addEntry vocabulary position entry = .error rejection := by
  constructor
  · intro h
    obtain ⟨⟨reached, hreached⟩, hfails⟩ := h
    -- Past the last entry there is nothing more to be refused.
    have hlt : position < entries.length := by
      by_contra hge
      rw [List.take_of_length_le (by omega)] at hreached hfails
      exact hfails ⟨reached, hreached⟩
    have hlength : (entries.take position).length = position := by
      rw [List.length_take]
      omega
    have hsplit
        : entries
          = entries.take position ++ entries[position] :: entries.drop (position + 1) := by
      rw [← List.drop_eq_getElem_cons hlt, List.take_append_drop]
    have hnext := compile_concat_of_ok hreached entries[position]
    rw [List.take_append_getElem hlt, hlength] at hnext
    cases hrefused : reached.addEntry vocabulary position entries[position] with
    | ok chain => exact absurd ⟨chain, hnext.trans hrefused⟩ hfails
    | error rejection => exact ⟨_, _, _, reached, rejection, hsplit, hlength, hreached, hrefused⟩
  · intro h
    obtain ⟨front, entry, back, reached, rejection, rfl, rfl, hreached, hrefused⟩ := h
    refine ⟨⟨reached, by rwa [List.take_left]⟩, ?_⟩
    intro h
    obtain ⟨chain, hchain⟩ := h
    have htake : (front ++ entry :: back).take (front.length + 1) = front ++ [entry] := by
      simp [List.take_append, List.take_of_length_le (Nat.le_succ front.length)]
    rw [htake, compile_concat_of_ok hreached, hrefused] at hchain
    cases hchain

/-- The labels of a node and of one more differ at a provider, and at no smaller one. -/
structure Node.LeastConflict (present added : Node) (provider : EntityType)
    (existing declared : Relationship)
    : Prop where
  existingLabel : present.HasLabel provider existing
  declaredLabel : added.HasLabel provider declared
  differ : existing ≠ declared
  least
    : ∀ smaller < provider,
        ∀ first second,
          present.HasLabel smaller first → added.HasLabel smaller second → first = second

/-- For coherent nodes, the least difference of the collapsed labels is the least one of any. -/
theorem Node.leastConflict_of_leastDifference {present added : Node} (hp : present.Coherent)
    (ha : added.Coherent) {provider : EntityType} {existing declared : Relationship}
    (h : Labels.LeastDifference present.labels added.labels provider existing declared)
    : present.LeastConflict added provider existing declared where
  existingLabel := (hp.find?_labels provider existing).mp h.existingLabel
  declaredLabel := (ha.find?_labels provider declared).mp h.incomingLabel
  differ := h.differ
  least smaller hlt first second hf hs :=
    h.least smaller hlt first second ((hp.find?_labels smaller first).mpr hf)
      ((ha.find?_labels smaller second).mpr hs)

/-- What a rejection says when the entry at a position is refused by the chain of those before it:
the fault that the entry has on its own, or else the least conflict with the chain. -/
structure Rejection.Describes (vocabulary : Vocabulary) (reached : Chain) (position : Nat)
    (entry : Template.Entry) (rejection : Rejection)
    : Prop where
  index : rejection.entry = position
  className : rejection.template = entry.templateClass
  ownFault
    : ∀ alone,
        compile vocabulary ⟨[entry]⟩ = .error alone → rejection = { alone with entry := position }
  conflict
    : ∀ added,
        soleNode? vocabulary entry = some added
        → ∃ present provider existing declared,
            reached.node? added.entityType = some present
            ∧ present.LeastConflict added provider existing declared
            ∧ rejection.fault
              = ⟨[.field "templateClass"],
                  .conflictingNodes added.entityType provider existing declared⟩

theorem describes_of_addEntry_eq_error {front : List Template.Entry} {reached : Chain}
    {position : Nat} {entry : Template.Entry} {rejection : Rejection}
    (h : compile vocabulary ⟨front⟩ = .ok reached)
    (hr : reached.addEntry vocabulary position entry = .error rejection)
    : rejection.Describes vocabulary reached position entry := by
  obtain ⟨fault, rfl, hfault⟩ := Chain.addEntry_eq_error_iff.mp hr
  -- The entry is refused on its own account or for its node, and it cannot be both.
  refine ⟨rfl, rfl, fun alone halone => ?_, fun added hadded => ?_⟩
  · rw [compile_singleton] at halone
    rcases hfault with hown | ⟨node, hnode, _⟩
    · rw [hown] at halone
      obtain rfl := Except.error.inj halone
      rfl
    · rw [hnode] at halone
      cases halone
  · have hnode := soleNode?_eq_some_iff.mp hadded
    rcases hfault with hown | ⟨node, hfold, hconflict⟩
    · rw [hnode] at hown
      cases hown
    · obtain rfl := Except.ok.inj (hnode.symm.trans hfold)
      obtain ⟨present, provider, existing, declared, hpresent, hd, rfl⟩ :=
        Chain.fold_eq_error_iff.mp hconflict
      have hdeclared := isDeclared_node? h hpresent
      refine ⟨present, provider, existing, declared, hpresent,
        Node.leastConflict_of_leastDifference hdeclared.coherent (soleNode?_spec hadded).2 hd, ?_⟩
      rw [hdeclared.entityType]
      rfl

/-- A document is rejected exactly when it is rejected at some position, of which there is one only.
The rejection describes the entry there and is the one of all documents that begin alike. -/
theorem compile_first_violation (vocabulary : Vocabulary) (document : Template.Document)
    : ((∃ rejection, compile vocabulary document = .error rejection)
        ↔ ∃ position, RejectedAt vocabulary document.entries position)
      ∧ ∀ position,
          RejectedAt vocabulary document.entries position
          → (∀ other, RejectedAt vocabulary document.entries other → other = position)
            ∧ ∃ reached entry rejection,
                compile vocabulary ⟨document.entries.take position⟩ = .ok reached
                ∧ document.entries[position]? = some entry
                ∧ rejection.Describes vocabulary reached position entry
                ∧ ∀ longer : Template.Document,
                    longer.entries.take (position + 1) = document.entries.take (position + 1)
                    → compile vocabulary longer = .error rejection := by
  refine ⟨?_, fun position hposition => ⟨fun other ho => hposition.unique ho, ?_⟩⟩
  · simp only [rejectedAt_iff]
    constructor
    · intro h
      obtain ⟨rejection, hrejection⟩ := h
      obtain ⟨front, entry, back, reached, hentries, hreached, hrefused⟩ :=
        compile_eq_error_iff.mp hrejection
      exact ⟨_, front, entry, back, reached, rejection, hentries, rfl, hreached, hrefused⟩
    · intro h
      obtain ⟨_, front, entry, back, reached, rejection, hentries, rfl, hreached, hrefused⟩ := h
      exact ⟨rejection,
        compile_eq_error_iff.mpr ⟨front, entry, back, reached, hentries, hreached, hrefused⟩⟩
  · obtain ⟨front, entry, back, reached, rejection, hentries, rfl, hreached, hrefused⟩ :=
      rejectedAt_iff.mp hposition
    have hbeginning : document.entries.take (front.length + 1) = front ++ [entry] := by
      simp [hentries, List.take_append, List.take_of_length_le (Nat.le_succ front.length)]
    refine ⟨reached, entry, rejection, ?_, ?_, describes_of_addEntry_eq_error hreached hrefused, ?_⟩
    · rwa [hentries, List.take_left]
    · simp [hentries]
    · intro longer hlonger
      have herror := compile_concat_of_ok hreached entry
      rw [hrefused, ← hbeginning, ← hlonger] at herror
      have hwhole := compile_append_of_error herror (longer.entries.drop (front.length + 1))
      rwa [List.take_append_drop] at hwhole

/-- A machine that sells a commodity that there is not. -/
def clockMachine : Template.Entry :=
  { hostedMachine with
    templateClass := " VIRTUAL_MACHINE"
    commoditySold := [{ commodityType := " CLOCK" }] }

/-- A machine that lies on the host instead of being run by it. -/
def layeredMachine : Template.Entry :=
  { hostedMachine with
    commodityBought := [{
      key := some { templateClass := "PHYSICAL_MACHINE", providerType := "LAYERED_OVER" }
      value := [{ commodityType := "CPU" }] }]
    externalLink := [] }

/-- Behind a machine that compiles, one entry is rejected on its own account and another one for the
label that it gives the host. -/
theorem compile_first_violation_hostedMachine
    : (∀ later,
        compile .standard ⟨hostedMachine :: clockMachine :: later⟩
        = .error
            ⟨1, " VIRTUAL_MACHINE",
              ⟨[.field "commoditySold", .index 0, .field "commodityType"],
                .unknownCommodityType "CLOCK"⟩⟩)
      ∧ ∃ reached present added,
          compile .standard ⟨[hostedMachine]⟩ = .ok reached
          ∧ soleNode? .standard layeredMachine = some added
          ∧ reached.node? .virtualMachine = some present
          ∧ present.LeastConflict added .physicalMachine .hosting .layeredOver
          ∧ ∀ later,
              compile .standard ⟨hostedMachine :: layeredMachine :: later⟩
              = .error
                  ⟨1, "VIRTUAL_MACHINE",
                    ⟨[.field "templateClass"],
                      .conflictingNodes .virtualMachine .physicalMachine .hosting
                        .layeredOver⟩⟩ := by
  have hcompiles : (compile .standard ⟨[hostedMachine]⟩).toOption.isSome := by decide +kernel
  obtain ⟨reached, hreached⟩ := Option.isSome_iff_exists.mp hcompiles
  rw [toOption_eq_some_iff] at hreached
  have hposition {entry : Template.Entry}
      (h : (compile .standard ⟨[hostedMachine, entry]⟩).toOption = none)
      : RejectedAt .standard [hostedMachine, entry] 1 := by
    refine ⟨⟨reached, hreached⟩, fun hok => ?_⟩
    obtain ⟨chain, hchain⟩ := hok
    change compile .standard ⟨[hostedMachine, entry]⟩ = .ok chain at hchain
    rw [hchain] at h
    cases h
  constructor
  · have hfails : (compile .standard ⟨[hostedMachine, clockMachine]⟩).toOption = none := by
      decide +kernel
    have hown
        : compile .standard ⟨[clockMachine]⟩
          = .error
              ⟨0, " VIRTUAL_MACHINE",
                ⟨[.field "commoditySold", .index 0, .field "commodityType"],
                  .unknownCommodityType "CLOCK"⟩⟩ := by
      decide +kernel
    obtain ⟨_, _, entry, rejection, _, hentry, hdescribes, hlonger⟩ :=
      (compile_first_violation .standard ⟨[hostedMachine, clockMachine]⟩).2 1 (hposition hfails)
    obtain rfl := Option.some.inj hentry
    obtain rfl := hdescribes.ownFault _ hown
    exact fun later => hlonger ⟨hostedMachine :: clockMachine :: later⟩ rfl
  · have hrejection
        : compile .standard ⟨[hostedMachine, layeredMachine]⟩
          = .error
              ⟨1, "VIRTUAL_MACHINE",
                ⟨[.field "templateClass"],
                  .conflictingNodes .virtualMachine .physicalMachine .hosting .layeredOver⟩⟩ := by
      decide +kernel
    have hsole : (soleNode? .standard layeredMachine).isSome := by decide +kernel
    obtain ⟨added, hadded⟩ := Option.isSome_iff_exists.mp hsole
    obtain ⟨_, other, entry, rejection, hother, hentry, hdescribes, hlonger⟩ :=
      (compile_first_violation .standard ⟨[hostedMachine, layeredMachine]⟩).2 1
        (hposition (by rw [hrejection]; rfl))
    obtain rfl := Except.ok.inj (hreached.symm.trans hother)
    obtain rfl := Option.some.inj hentry
    obtain rfl :=
      Except.error.inj ((hlonger ⟨[hostedMachine, layeredMachine]⟩ rfl).symm.trans hrejection)
    obtain ⟨present, provider, existing, declared, hpresent, hleast, hfault⟩ :=
      hdescribes.conflict added hadded
    simp only [Fault.mk.injEq, Cause.conflictingNodes.injEq, true_and] at hfault
    obtain ⟨htype, rfl, rfl, rfl⟩ := hfault
    rw [← htype] at hpresent
    exact ⟨reached, present, added, hreached, hadded, hpresent, hleast,
      fun later => hlonger ⟨hostedMachine :: layeredMachine :: later⟩ rfl⟩

end SupplyGraph
