import SupplyGraph.Proofs.Template.Encoding

/-!
Reading encoded template documents. A record is read from the value that it is written as, unless
the value is nested deeper than it may be; so a document comes back from its own text unless a chain
of handlers in it is too long.
-/

namespace SupplyGraph.Template

-----------------------------------------------------------------------------------------
-- Reading what was written
-----------------------------------------------------------------------------------------

/-- A value is read from its encoding where the containers in it may be nested as deep as they are,
and refused elsewhere. -/
def ReadsBack {α : Type} (encode : α → Json) (decode : Nat → Json → Option α) : Prop :=
  ∀ depth value,
    decode depth (encode value) = if (encode value).depth ≤ depth then some value else none

/-- A text is read back at any depth, as no container is opened for it. -/
theorem readsBack_text
    : ReadsBack Json.string (fun _ => Format.text) := by
  intro depth value
  exact (if_pos (Nat.zero_le depth)).symm

theorem readsBack_flag
    : ReadsBack Json.bool (fun _ => Format.flag) := by
  intro depth value
  exact (if_pos (Nat.zero_le depth)).symm

/-- A number of 32 bits is in the range that is checked when it is read. -/
theorem readsBack_integer
    : ReadsBack (fun value : Int32 => Json.integer value.toInt) (fun _ => Format.integer) := by
  intro depth value
  have hrange : Int32.minValue.toInt ≤ value.toInt ∧ value.toInt ≤ Int32.maxValue.toInt :=
    ⟨value.minValue_le_toInt, value.toInt_le⟩
  refine Eq.trans ?_ (if_pos (Nat.zero_le depth)).symm
  change (if _ ≤ value.toInt ∧ value.toInt ≤ _ then some (Int32.ofInt value.toInt) else none) = _
  rw [if_pos hrange, Int32.ofInt_toInt]

theorem ite_bind {α β : Type} {p : Prop} [Decidable p] {value : α} {next : α → Option β}
    : (if p then some value else none) >>= next = if p then next value else none := by
  split <;> rfl

section Members

variable {α : Type} {encode : α → Json} {decode : Nat → Json → Option α}
  {members : Members Json} {name : String}

/-- A member with a default is read like its value, since it is always written. -/
theorem ReadsBack.get (h : ReadsBack encode decode) {value : α}
    (hfind : members.find? name = some (encode value)) (default : α) (depth : Nat)
    : (members.get name default (decode depth) : Option α)
      = if (encode value).depth ≤ depth then some value else none := by
  rw [Members.get, hfind]
  exact h depth value

theorem ReadsBack.required (h : ReadsBack encode decode) {value : α}
    (hfind : members.find? name = some (encode value)) (depth : Nat)
    : (members.find? name).elim Format.refuse (decode depth)
      = if (encode value).depth ≤ depth then some value else none := by
  rw [hfind]
  exact h depth value

/-- A value that may be missing is read where the value that is there can be read, and is not taken
for a missing one. -/
theorem getOptional_eq {decode : Json → Option α} {value : Option α} {depth : Nat}
    (h
      : ∀ present ∈ value,
          (encode present).nonNull? = some (encode present)
          ∧ decode (encode present)
            = if (encode present).depth ≤ depth then some present else none)
    (hfind : members.find? name = some (Json.optional encode value))
    : members.getOptional name decode
      = if (Json.optional encode value).depth ≤ depth then some value else none := by
  rw [Members.getOptional, Members.get, hfind]
  cases value with
  | none => rfl
  | some present =>
      obtain ⟨hnull, hdecode⟩ := h present rfl
      change (some (encode present).nonNull? >>= fun found => _) = _
      rw [hnull]
      change (decode (encode present) >>= fun found => some (some found)) = _
      rw [hdecode, ite_bind]
      rfl

/-- A value that is missing is written as null and read back as missing, at any depth. -/
theorem ReadsBack.getOptional (h : ReadsBack encode decode) {value : Option α}
    (hnull : ∀ present, (encode present).nonNull? = some (encode present))
    (hfind : members.find? name = some (Json.optional encode value)) (depth : Nat)
    : members.getOptional name (decode depth)
      = if (Json.optional encode value).depth ≤ depth then some value else none :=
  getOptional_eq (fun present _ => ⟨hnull present, h depth present⟩) hfind

/-- The items of a list are read one level less deep, by induction on the values. -/
theorem ReadsBack.mapM (h : ReadsBack encode decode) (depth : Nat) (values : List α)
    : (values.map encode).mapM (decode depth)
      = if ∀ value ∈ values, (encode value).depth ≤ depth then some values else none := by
  induction values with
  | nil => simp
  | cons value rest ih =>
      simp only [List.map_cons, List.mapM_cons, h depth value, ih, ite_bind, List.forall_mem_cons,
        ite_and, Option.pure_def]

/-- A list is read back one level deeper, at which its items are. -/
theorem ReadsBack.getList (h : ReadsBack encode decode) {values : List α}
    (hfind : members.find? name = some (.array (values.map encode))) (depth : Nat)
    : members.getList depth name (decode (depth - 1))
      = if (Json.array (values.map encode)).depth ≤ depth then some values else none := by
  rw [Members.getList, Members.get, hfind]
  cases depth with
  | zero => rfl
  | succ depth =>
      change (values.map encode).mapM (decode depth) = _
      simp only [h.mapM, Json.depth_array_le_succ_iff, List.forall_mem_map]

end Members

/-- A record is read from its members, which are nested one level less deep. -/
theorem record_eq {α : Type} {names : List String} {fields : Members Json} {value : α}
    {depth : Nat} {body : Members Json → Option α} (hnames : fields.map Prod.fst = names)
    (hd : names.Nodup)
    (hbody
      : body fields
        = if ∀ member ∈ fields, member.2.depth ≤ depth then some value else none)
    : (Format.members (depth + 1) names (Json.object fields) >>= body)
      = if (Json.object fields).depth ≤ depth + 1 then some value else none := by
  have hknown : fields.filter (fun member => names.contains member.1) = fields := by
    refine List.filter_eq_self.mpr (fun member hm => ?_)
    rw [List.contains_iff_mem, ← hnames]
    exact List.mem_map_of_mem hm
  change (Json.known? names fields >>= body) = _
  rw [Json.known?, hknown, hnames, if_pos hd]
  change body fields = _
  simp only [hbody, Json.depth_object_le_succ_iff]

/-- Where no container may be nested, no record is read. -/
theorem readsBack_record {α : Type} {names : List String} {fields : α → Members Json}
    {body : Nat → Members Json → Option α} (hnames : ∀ value, (fields value).map Prod.fst = names)
    (hd : names.Nodup)
    (hbody
      : ∀ depth value,
          body (depth + 1) (fields value)
          = if ∀ member ∈ fields value, member.2.depth ≤ depth then some value else none)
    : ReadsBack (fun value => .object (fields value))
        (fun depth json => Format.members depth names json >>= body depth) := by
  intro depth value
  cases depth with
  | zero => rfl
  | succ depth => exact record_eq (hnames value) hd (hbody depth value)

-----------------------------------------------------------------------------------------
-- Records of template documents
-----------------------------------------------------------------------------------------

/-- The record itself opens one level, and its members are read below it. The other records without
lists are read back in the same way. -/
theorem Commodity.readsBack
    : ReadsBack Commodity.toJson Commodity.decode := by
  refine readsBack_record (fun _ => rfl) (by decide) (fun depth commodity => ?_)
  rw [readsBack_text.getOptional (fun _ => rfl) rfl depth,
    readsBack_text.getOptional (fun _ => rfl) rfl depth, readsBack_flag.get rfl false depth]
  simp [ite_bind, ite_and]

theorem ProviderRef.readsBack
    : ReadsBack ProviderRef.toJson ProviderRef.decode := by
  refine readsBack_record (fun _ => rfl) (by decide) (fun depth provider => ?_)
  rw [readsBack_text.getOptional (fun _ => rfl) rfl depth,
    readsBack_text.getOptional (fun _ => rfl) rfl depth,
    readsBack_integer.getOptional (fun _ => rfl) rfl depth,
    readsBack_integer.getOptional (fun _ => rfl) rfl depth]
  simp [ite_bind, ite_and]

/-- A group is read back unless its provider or one of its commodities is too deep. -/
theorem BoughtGroup.readsBack
    : ReadsBack BoughtGroup.toJson BoughtGroup.decode := by
  refine readsBack_record (fun _ => rfl) (by decide) (fun depth group => ?_)
  simp only [Nat.add_sub_cancel, Nat.reduceSubDiff]
  rw [ProviderRef.readsBack.getOptional (fun _ => rfl) rfl depth,
    Commodity.readsBack.getList rfl depth]
  simp [ite_bind, ite_and]

theorem CommodityDef.readsBack
    : ReadsBack CommodityDef.toJson CommodityDef.decode := by
  refine readsBack_record (fun _ => rfl) (by decide) (fun depth definition => ?_)
  rw [readsBack_text.getOptional (fun _ => rfl) rfl depth, readsBack_flag.get rfl false depth]
  simp [ite_bind]

theorem ProbeProperty.readsBack
    : ReadsBack ProbeProperty.toJson ProbeProperty.decode := by
  refine readsBack_record (fun _ => rfl) (by decide) (fun depth property => ?_)
  rw [readsBack_text.getOptional (fun _ => rfl) rfl depth,
    readsBack_text.getOptional (fun _ => rfl) rfl depth]
  simp [ite_bind, ite_and]

namespace Handler

/-- The chain, if it has any handlers. -/
def nonempty? (handlers : List Handler) : Option (List Handler) :=
  if handlers.isEmpty then none else some handlers

/-- A chain that is missing and a chain without handlers come to the same chain. -/
@[simp]
theorem getD_nonempty? (handlers : List Handler)
    : (nonempty? handlers).getD [] = handlers := by
  cases handlers <;> rfl

/-- A chain without handlers is written as one that is missing. -/
theorem chainToJson_eq_optional (handlers : List Handler)
    : chainToJson handlers = Json.optional chainToJson (nonempty? handlers) := by
  cases handlers <;> rfl

/-- A chain is read back, each handler one level less deep than the one around it, by induction on
the chain. -/
theorem getOptional_chainToJson (handlers : List Handler) (depth : Nat) {members : Members Json}
    {name : String} (hfind : members.find? name = some (chainToJson handlers))
    : members.getOptional name (decodeChain depth)
      = if (chainToJson handlers).depth ≤ depth then some (nonempty? handlers) else none := by
  induction handlers generalizing depth members name with
  | nil =>
      rw [chainToJson_eq_optional] at hfind ⊢
      exact getOptional_eq (by simp [nonempty?]) hfind
  | cons handler rest ih =>
      rw [chainToJson_eq_optional] at hfind ⊢
      refine getOptional_eq ?_ hfind
      rintro _ ⟨⟩
      refine ⟨rfl, ?_⟩
      cases depth with
      | zero => rfl
      | succ depth =>
          refine record_eq rfl (by decide) ?_
          rw [readsBack_text.getOptional (fun _ => rfl) rfl depth,
            readsBack_text.getOptional (fun _ => rfl) rfl depth, readsBack_flag.get rfl false depth,
            ih depth rfl]
          simp [ite_bind, ite_and]

end Handler

/-- A property is read back unless its chain of handlers is too long for the depth that is left. -/
theorem EntityProperty.readsBack
    : ReadsBack EntityProperty.toJson EntityProperty.decode := by
  refine readsBack_record (fun _ => rfl) (by decide) (fun depth property => ?_)
  simp only [Nat.add_sub_cancel]
  rw [readsBack_text.getOptional (fun _ => rfl) rfl depth,
    readsBack_text.getOptional (fun _ => rfl) rfl depth, readsBack_flag.get rfl false depth,
    Handler.getOptional_chainToJson property.handlers depth rfl]
  by_cases hchain : (Handler.chainToJson property.handlers).depth ≤ depth <;>
    simp [hchain, ite_bind, ite_and]

/-- A link is read back unless one of its lists is too deep. -/
theorem LinkDeclaration.readsBack
    : ReadsBack LinkDeclaration.toJson LinkDeclaration.decode := by
  refine readsBack_record (fun _ => rfl) (by decide) (fun depth declaration => ?_)
  simp only [Nat.add_sub_cancel, Nat.reduceSubDiff]
  rw [readsBack_text.getOptional (fun _ => rfl) rfl depth,
    readsBack_text.getOptional (fun _ => rfl) rfl depth,
    readsBack_text.getOptional (fun _ => rfl) rfl depth,
    CommodityDef.readsBack.getList rfl depth,
    readsBack_text.getOptional (fun _ => rfl) rfl depth,
    readsBack_flag.getOptional (fun _ => rfl) rfl depth,
    ProbeProperty.readsBack.getList rfl depth, EntityProperty.readsBack.getList rfl depth]
  simp [ite_bind, ite_and]

theorem LinkEntry.readsBack
    : ReadsBack LinkEntry.toJson LinkEntry.decode := by
  refine readsBack_record (fun _ => rfl) (by decide) (fun depth link => ?_)
  simp only [Nat.add_sub_cancel]
  rw [readsBack_text.getOptional (fun _ => rfl) rfl depth,
    LinkDeclaration.readsBack.get rfl {} depth]
  simp [ite_bind, ite_and]

theorem Entry.readsBack
    : ReadsBack Entry.toJson Entry.decode := by
  refine readsBack_record (fun _ => rfl) (by decide) (fun depth entry => ?_)
  simp only [Nat.add_sub_cancel, Nat.reduceSubDiff]
  rw [readsBack_text.required rfl depth, readsBack_text.getOptional (fun _ => rfl) rfl depth,
    readsBack_integer.getOptional (fun _ => rfl) rfl depth,
    Commodity.readsBack.getList rfl depth, BoughtGroup.readsBack.getList rfl depth,
    LinkEntry.readsBack.getList rfl depth]
  simp [ite_bind, ite_and]

/-- A document is read back exactly where its value may be nested as deep as it is. -/
theorem Document.readsBack
    : ReadsBack Document.toJson Document.decode := by
  refine readsBack_record (fun _ => rfl) (by decide) (fun depth document => ?_)
  simp only [Nat.add_sub_cancel, Nat.reduceSubDiff]
  rw [Entry.readsBack.getList rfl depth]
  simp [ite_bind]

-----------------------------------------------------------------------------------------
-- How deep documents are nested
-----------------------------------------------------------------------------------------

section Depth

variable (limit : Nat)

/-- A record without lists and records in it takes one level. -/
theorem Commodity.depth_toJson_le (commodity : Commodity)
    : commodity.toJson.depth ≤ limit + 1 := by
  simp [toJson, Json.depth_object_le_succ_iff, Json.depth_optional_le_iff]

theorem ProviderRef.depth_toJson_le (provider : ProviderRef)
    : provider.toJson.depth ≤ limit + 1 := by
  simp [toJson, Json.depth_object_le_succ_iff, Json.depth_optional_le_iff]

/-- A group takes three levels: its own, that of the list of commodities, and theirs. -/
theorem BoughtGroup.depth_toJson_le (group : BoughtGroup)
    : group.toJson.depth ≤ limit + 3 := by
  simp [toJson, Json.depth_object_le_succ_iff, Json.depth_optional_le_iff,
    Json.depth_list_le_succ_iff, ProviderRef.depth_toJson_le, Commodity.depth_toJson_le]

theorem CommodityDef.depth_toJson_le (definition : CommodityDef)
    : definition.toJson.depth ≤ limit + 1 := by
  simp [toJson, Json.depth_object_le_succ_iff, Json.depth_optional_le_iff]

theorem ProbeProperty.depth_toJson_le (property : ProbeProperty)
    : property.toJson.depth ≤ limit + 1 := by
  simp [toJson, Json.depth_object_le_succ_iff, Json.depth_optional_le_iff]

/-- A chain is as deep as it is long, by induction on the chain. -/
theorem Handler.depth_chainToJson_le_iff (handlers : List Handler)
    : (chainToJson handlers).depth ≤ limit ↔ handlers.length ≤ limit := by
  induction handlers generalizing limit with
  | nil => simp [chainToJson]
  | cons handler rest ih =>
      cases limit with
      | zero => simp [chainToJson, Json.depth]
      | succ limit =>
          simp [chainToJson, Json.depth_object_le_succ_iff, Json.depth_optional_le_iff, ih]

/-- Of a property, only the length of its chain of handlers adds to the depth. -/
theorem EntityProperty.depth_toJson_le_iff (property : EntityProperty)
    : property.toJson.depth ≤ limit + 1 ↔ property.handlers.length ≤ limit := by
  simp [toJson, Json.depth_object_le_succ_iff, Json.depth_optional_le_iff,
    Handler.depth_chainToJson_le_iff]

/-- A link takes four levels at most beside its chains of handlers. -/
theorem LinkEntry.depth_toJson_le_iff (link : LinkEntry)
    : link.toJson.depth ≤ limit + 4
      ↔ ∀ property ∈ link.value.entityProperties, property.handlers.length ≤ limit := by
  simp [toJson, LinkDeclaration.toJson, Json.depth_object_le_succ_iff, Json.depth_optional_le_iff,
    Json.depth_list_le_succ_iff, CommodityDef.depth_toJson_le, ProbeProperty.depth_toJson_le,
    EntityProperty.depth_toJson_le_iff]

/-- An entry takes six levels at most beside the chains of handlers in its links. -/
theorem Entry.depth_toJson_le_iff (entry : Entry)
    : entry.toJson.depth ≤ limit + 6
      ↔ ∀ link ∈ entry.externalLink,
          ∀ property ∈ link.value.entityProperties, property.handlers.length ≤ limit := by
  simp [toJson, Json.depth_object_le_succ_iff, Json.depth_optional_le_iff,
    Json.depth_list_le_succ_iff, Commodity.depth_toJson_le, BoughtGroup.depth_toJson_le,
    LinkEntry.depth_toJson_le_iff]

/-- A document is eight levels deeper than the longest of its chains. -/
theorem Document.depth_toJson_le_iff (document : Document)
    : document.toJson.depth ≤ limit + 8
      ↔ ∀ entry ∈ document.entries,
          ∀ link ∈ entry.externalLink,
            ∀ property ∈ link.value.entityProperties, property.handlers.length ≤ limit := by
  simp [toJson, Json.depth_object_le_succ_iff, Json.depth_list_le_succ_iff,
    Entry.depth_toJson_le_iff]

end Depth

/-- A document is read from its own text exactly as it is, and nothing is read where the text is
nested deeper than a reader goes. It is not nested deeper exactly when no chain of handlers in the
document has more than 119 of them. -/
theorem Document.ofJsonText?_render (document : Document)
    : Document.ofJsonText? document.toJson.render
        = (if document.toJson.depth ≤ Json.depthLimit then some document else none)
      ∧ (document.toJson.depth ≤ Json.depthLimit
        ↔ ∀ entry ∈ document.entries,
            ∀ link ∈ entry.externalLink,
              ∀ property ∈ link.value.entityProperties, property.handlers.length ≤ 119) := by
  refine ⟨?_, Document.depth_toJson_le_iff 119 document⟩
  have hparse := (Document.faithful_toJson.exact document).parse?_render
  rw [Document.ofJsonText?, hparse]
  exact Document.readsBack Json.depthLimit document

end SupplyGraph.Template
