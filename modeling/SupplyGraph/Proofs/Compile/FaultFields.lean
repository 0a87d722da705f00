import SupplyGraph.Proofs.Compile.FirstViolation
import SupplyGraph.Proofs.Entry.Faults

/-!
Fields of rejections. Whatever a document is rejected for, the field that the rejection names leads
from the rejected entry to the part that is to blame.
-/

namespace SupplyGraph

variable {vocabulary : Vocabulary}

/-- A node that conflicts with the chain is a fault of the class that its entry names. -/
theorem Chain.locatedIn_of_fold {front : List Template.Entry} {reached : Chain}
    {entry : Template.Entry} {node : Node} {fault : Fault}
    (h : compile vocabulary ⟨front⟩ = .ok reached)
    (hnode : Node.ofEntry vocabulary entry = .ok node) (hfold : reached.fold node = .error fault)
    : fault.LocatedIn vocabulary [] entry.toJson := by
  obtain ⟨present, provider, existing, declared, hpresent, _, rfl⟩ := fold_eq_error_iff.mp hfold
  have hclass := (soleNode?_spec (soleNode?_eq_some_iff.mpr hnode)).1
  rw [← (isDeclared_node? h hpresent).entityType] at hclass
  have hblames
      : (Cause.conflictingNodes present.entityType provider existing declared).Blames vocabulary
          (.string entry.templateClass) :=
    ⟨_, holds_string entry.templateClass, hclass⟩
  exact (Fault.locatedIn_self hblames).member (by decide) rfl

/-- The field of a rejection can be read off its text. It leads from the rejected entry to a part of
it, as it is written, and this part is to blame. -/
theorem compile_blames {document : Template.Document} {rejection : Rejection}
    (h : compile vocabulary document = .error rejection)
    : ∃ entry found,
        document.entries[rejection.entry]? = some entry
        ∧ FieldPath.ofText? rejection.fault.field.render = some rejection.fault.field
        ∧ entry.toJson.walk? rejection.fault.field = some found
        ∧ rejection.fault.cause.Blames vocabulary found := by
  obtain ⟨front, entry, back, reached, hentries, hreached, hrefused⟩ := compile_eq_error_iff.mp h
  obtain ⟨fault, rfl, hfault⟩ := Chain.addEntry_eq_error_iff.mp hrefused
  have hlocated : fault.LocatedIn vocabulary [] entry.toJson := by
    rcases hfault with hown | ⟨node, hnode, hfold⟩
    · exact Node.locatedIn_of_ofEntry hown
    · exact Chain.locatedIn_of_fold hreached hnode hfold
  obtain ⟨path, found, rfl, hplain, hwalk, hblames⟩ := hlocated
  refine ⟨entry, found, ?_, ?_, hwalk, hblames⟩
  · simp [Fault.within, hentries]
  · exact FieldPath.ofText?_render hplain

/-- A link that carries a property over through two handlers, of which the second one leads to an
entity type that there is not. -/
def strayLink : Template.LinkEntry where
  value := {
    buyerRef := "VIRTUAL_MACHINE"
    sellerRef := "PHYSICAL_MACHINE"
    commodityDefs := [{ commodityType := "NET_THROUGHPUT" }]
    probeProperties := [{ name := "uuid" }]
    entityProperties := [{
      entity := "PHYSICAL_MACHINE"
      handlers :=
        [{ methodName := "getHost", entityType := "PHYSICAL_MACHINE" },
          { methodName := "getRack", entityType := " RACK " }] }] }

theorem compile_blames_strayLink
    : ∃ rejection entry found,
        compile .standard ⟨[{ hostedMachine with externalLink := [strayLink] }]⟩
          = .error rejection
        ∧ rejection.fault.field.render
          = "externalLink[0].value.externalEntityPropertyDefs[0].propertyHandler.nextHandler"
            ++ ".entityType"
        ∧ [{ hostedMachine with externalLink := [strayLink] }][rejection.entry]? = some entry
        ∧ entry.toJson.walk? rejection.fault.field = some found
        ∧ rejection.fault.cause.Blames .standard found := by
  have hfield
      : (compile .standard ⟨[{ hostedMachine with externalLink := [strayLink] }]⟩).mapError
          (fun rejection => rejection.fault.field.render)
        = .error
            ("externalLink[0].value.externalEntityPropertyDefs[0].propertyHandler.nextHandler"
              ++ ".entityType") := by
    decide +kernel
  cases hcompile : compile .standard ⟨[{ hostedMachine with externalLink := [strayLink] }]⟩ with
  | ok chain =>
      rw [hcompile] at hfield
      cases hfield
  | error rejection =>
      rw [hcompile] at hfield
      obtain ⟨entry, found, hentry, _, hwalk, hblames⟩ := compile_blames hcompile
      exact ⟨rejection, entry, found, rfl, Except.error.inj hfield, hentry, hwalk, hblames⟩

end SupplyGraph
