import SupplyGraph.Proofs.Compile.Runs
import SupplyGraph.Proofs.Entry.LinkDecisions

/-!
The order in which an entry is checked. Compiling an entry and going through its list of checks
find the same fault: the one of the first check that fails, or none.
-/

namespace SupplyGraph

open Check

/-- An entry is decided by its checks. -/
theorem decides_ofEntry (vocabulary : Vocabulary) (entry : Template.Entry)
    : Decides (entry.checks vocabulary) (Node.ofEntry vocabulary entry) := by
  simp only [Template.Entry.checks, List.append_assoc]
  refine (decides_reference vocabulary _ _).bind (fun node hnode => ?_)
  refine Decides.bind ?_ (fun kind _ => ?_)
  · exact decides_checkOptional
      (fun label => [knownLabel TemplateKind _ .unknownTemplateType label])
      rfl (decides_templateKind _) entry.templateType
  have hnamed : vocabulary.entityNamed? (some entry.templateClass) = some node := by
    rw [← Vocabulary.toOption_reference vocabulary [.field "templateClass"]]
    exact toOption_eq_some_iff.mpr hnode
  rw [hnamed, ← List.append_assoc (nonEmpty _ _ _ _)]
  refine Decides.bind ?_ (fun trade htrade => ?_)
  · refine (decides_soldOf vocabulary entry.commoditySold).bind (fun sold _ => ?_)
    exact (Decides.collect (decides_ofGroup vocabulary) entry.commodityBought).bind_pure _
  obtain ⟨sold, _, bought, hbought, rfl⟩ := Trade.ofEntry_eq_ok_iff.mp htrade
  refine (decides_ofPurchases vocabulary hbought).bind (fun provision hprovision => ?_)
  obtain ⟨hs, rfl⟩ := Provision.ofPurchases_eq_ok_iff.mp hprovision
  rw [filterMap_stated? hbought]
  exact (decides_validateAll vocabulary hs entry.externalLink).bind_pure _

theorem compile_singleton_eq_error_iff {vocabulary : Vocabulary} {entry : Template.Entry}
    {rejection : Rejection}
    : compile vocabulary ⟨[entry]⟩ = .error rejection
      ↔ ∃ fault,
          Node.ofEntry vocabulary entry = .error fault
          ∧ rejection = fault.within 0 entry.templateClass := by
  rw [compile_singleton]
  cases Node.ofEntry vocabulary entry <;> simp [eq_comm]

/-- A document of one entry is rejected exactly when one of the checks of the entry fails, and then
with the field and the cause of the first of these. -/
theorem entry_rejected_by_first_failing_check (vocabulary : Vocabulary) (entry : Template.Entry)
    : ((∃ rejection, compile vocabulary ⟨[entry]⟩ = .error rejection)
        ↔ ∃ check ∈ entry.checks vocabulary, check.failure ≠ none)
      ∧ ∀ rejection,
          compile vocabulary ⟨[entry]⟩ = .error rejection
          ↔ ∃ field cause,
              FirstFailure (entry.checks vocabulary) field cause
              ∧ rejection = ⟨0, entry.templateClass, ⟨field, cause⟩⟩ := by
  have hdecides := decides_ofEntry vocabulary entry
  simp only [compile_singleton_eq_error_iff]
  constructor
  · rw [← hdecides.exists_error_iff]
    constructor
    · intro h
      obtain ⟨_, fault, hfault, _⟩ := h
      exact ⟨fault, hfault⟩
    · intro h
      obtain ⟨fault, hfault⟩ := h
      exact ⟨_, fault, hfault, rfl⟩
  · intro rejection
    constructor
    · intro h
      obtain ⟨⟨field, cause⟩, hfault, hrejection⟩ := h
      exact ⟨field, cause, hdecides.eq_error_iff.mp hfault, hrejection⟩
    · intro h
      obtain ⟨field, cause, hfirst, hrejection⟩ := h
      exact ⟨⟨field, cause⟩, hdecides.eq_error_iff.mpr hfirst, hrejection⟩

end SupplyGraph
