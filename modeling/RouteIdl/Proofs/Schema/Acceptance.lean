import RouteIdl.Proofs.Schema.Offending

/-!
# Acceptance of schemas

A schema has a translation exactly when none of its visited nodes offends. Otherwise the first node
that does is reported, as it is written. The translation of a node follows its visits, by induction
on the visits below it.
-/

namespace RouteIdl

open Schema Traced

namespace Schema

theorem scalarType_of_scalar {kind : String} (name : String) (source : Json)
    (h : kind = "number" ∨ kind = "string") :
    ∃ type, scalarType name kind source = Pure.pure type := by
  rcases h with rfl | rfl
  · exact ⟨_, rfl⟩
  · exact ⟨_, rfl⟩

theorem scalarType_of_not_scalar {name kind : String} {source : Json}
    (h : ¬ (kind = "number" ∨ kind = "string")) :
    scalarType name kind source = fail (.invalidProperty name source) := by
  have hnone : Idl.Scalar.ofKind? kind = none := by
    unfold Idl.Scalar.ofKind?
    split
    · exact absurd (Or.inl rfl) h
    · exact absurd (Or.inr rfl) h
    · rfl
  rw [scalarType, hnone]

/-- An array is refused as a whole if its items do not have the shape of those of lists. -/
theorem items_array_of_not_listable {name : String} {index : Nat} {required : Bool}
    {shape : Schema} {source : Json} (h : ¬ shape.Listable) :
    items name index required (.array shape source) =
      (report (.propertyStarted name index required source) >>= fun _ =>
        fail (.invalidProperty name source)) := by
  cases shape with
  | object properties names => exact absurd trivial h
  | primitive kind _ =>
      rw [items, scalarType_of_not_scalar h]
      rfl
  | _ => simp [items]

end Schema

namespace Visit

/-- Properties in turn are translated as their visits are listed. -/
theorem follows_propertyItems {required : NameSet} {index : Nat}
    {properties : List (String × Json)}
    (h : ∀ visit ∈ ofProperties required index properties, visit.items.Follows visit.all) :
    (propertyItems required index
        (properties.map fun property => (property.1, ofJson property.2))).Follows
      ((ofProperties required index properties).flatMap all) := by
  induction properties generalizing index with
  | nil => exact Follows.pure []
  | cons property rest ih =>
      obtain ⟨name, node⟩ := property
      simp only [ofProperties, List.forall_mem_cons] at h
      obtain ⟨hfirst, hrest⟩ := h
      rw [List.map_cons, propertyItems, ofProperties, List.flatMap_cons]
      exact hfirst.bind fun _ _ => (ih hrest).bind_pure _

/-- Alternatives in turn are translated as their visits are listed. -/
theorem follows_choiceItems {position : Nat} {variants : List Json}
    (h : ∀ visit ∈ ofVariants position variants, visit.items.Follows visit.all) :
    (choiceItems position (variants.map ofJson)).Follows
      ((ofVariants position variants).flatMap all) := by
  induction variants generalizing position with
  | nil => exact Follows.pure []
  | cons variant rest ih =>
      simp only [ofVariants, List.forall_mem_cons] at h
      obtain ⟨hfirst, hrest⟩ := h
      rw [List.map_cons, choiceItems, ofVariants, List.flatMap_cons]
      exact hfirst.bind fun _ _ => (ih hrest).bind_pure _

section Node

variable {field : String} {index : Nat} {required : Bool} {members : List (String × Json)}

theorem follows_of_not_object {node : Json} (h : ∀ members, node ≠ .object members) :
    (items ⟨field, index, required, node⟩).Follows (all ⟨field, index, required, node⟩) := by
  have hshape := ofJson_of_not_object h
  rw [all_eq, items, hshape, Schema.items]
  exact Follows.refuse (by rw [event, hshape, toJson]) (.notObject h)

theorem follows_of_type_object (htype : typeKeyword? members = some "object")
    (h : ∀ visit ∈ below (.object members), visit.items.Follows visit.all) :
    (items ⟨field, index, required, .object members⟩).Follows
      (all ⟨field, index, required, .object members⟩) := by
  have hclean : ¬ Offending (.object members) := by
    simp [offending_object_iff, htype]
  have hshape := ofJson_of_type_object htype
  have hbelow := below_of_type_object htype
  rw [hbelow] at h
  rw [all_eq, hbelow, items, hshape, Schema.items]
  exact Follows.take_up (by rw [event, hshape]) hclean ((follows_propertyItems h).bind_pure _)

section Items

variable {node : Json} (htype : typeKeyword? members = some "array")
  (hitems : members.lookup "items" = some node)

include htype hitems

theorem ofJson_of_items :
    ofJson (.object members) = .array (ofJson node) (.object members) := by
  rw [ofJson_of_type_array htype, hitems]

theorem event_of_items : event ⟨field, index, required, .object members⟩ =
    .propertyStarted field index required (.object members) := by
  rw [event, ofJson_of_items htype hitems, toJson]

theorem not_offending_of_listable (hlistable : (ofJson node).Listable) :
    ¬ Offending (.object members) := by
  simp [offending_object_iff, htype, hitems, hlistable]

/-- A list of objects takes up itself and then the properties of its items. -/
theorem follows_of_items_object {inner : List (String × Json)} (hnode : node = .object inner)
    (hinner : typeKeyword? inner = some "object")
    (h : ∀ visit ∈ below (.object members), visit.items.Follows visit.all) :
    (items ⟨field, index, required, .object members⟩).Follows
      (all ⟨field, index, required, .object members⟩) := by
  subst hnode
  have hclean : ¬ Offending (.object members) := by
    apply not_offending_of_listable htype hitems
    rw [ofJson_of_type_object hinner]
    trivial
  have hbelow := below_of_items_object htype hitems hinner
  rw [hbelow] at h
  rw [all_eq, hbelow, items, ofJson_of_items htype hitems, ofJson_of_type_object hinner,
    Schema.items]
  exact Follows.take_up (event_of_items htype hitems) hclean
    ((follows_propertyItems h).bind_pure _)

/-- A list of other items takes up nothing but itself, and is refused unless they are scalars. -/
theorem follows_of_items_other
    (hnode : ∀ inner, node = .object inner → typeKeyword? inner ≠ some "object") :
    (items ⟨field, index, required, .object members⟩).Follows
      (all ⟨field, index, required, .object members⟩) := by
  rw [all_eq, below_of_items_other htype hitems hnode, items, ofJson_of_items htype hitems]
  by_cases hlistable : (ofJson node).Listable
  · have hclean := not_offending_of_listable htype hitems hlistable
    cases hshape : ofJson node with
    | object properties names =>
        -- Only keywords of type object are classified so, and these were excluded.
        obtain ⟨inner, rfl, hinner⟩ := eq_of_ofJson_eq_object hshape
        exact absurd hinner (hnode inner rfl)
    | primitive kind source =>
        rw [hshape] at hlistable
        obtain ⟨type, hscalar⟩ := scalarType_of_scalar field (.object members) hlistable
        rw [Schema.items, hscalar]
        exact Follows.take_up (event_of_items htype hitems) hclean
          ((Follows.pure type).bind_pure _)
    | _ =>
        rw [hshape] at hlistable
        exact hlistable.elim
  · rw [items_array_of_not_listable hlistable]
    exact Follows.refuse (event_of_items htype hitems) (.otherItems htype hitems hlistable)

end Items

theorem follows_of_type_array (htype : typeKeyword? members = some "array")
    (h : ∀ visit ∈ below (.object members), visit.items.Follows visit.all) :
    (items ⟨field, index, required, .object members⟩).Follows
      (all ⟨field, index, required, .object members⟩) := by
  cases hitems : members.lookup "items" with
  | some node =>
      by_cases hnode : ∃ inner, node = .object inner ∧ typeKeyword? inner = some "object"
      · obtain ⟨inner, hnode, hinner⟩ := hnode
        exact follows_of_items_object htype hitems hnode hinner h
      · apply follows_of_items_other htype hitems
        intro inner hinner hobject
        exact hnode ⟨inner, hinner, hobject⟩
  | none =>
      have hshape : ofJson (.object members) = .unrecognized (.object members) := by
        rw [ofJson_of_type_array htype, hitems]
      rw [all_eq, items, hshape, Schema.items]
      exact Follows.refuse (by rw [event, hshape, toJson]) (.withoutItems htype hitems)

section Other

variable (hobject : typeKeyword? members ≠ some "object")
  (harray : typeKeyword? members ≠ some "array")

include hobject harray

theorem follows_of_variants {variants : List Json}
    (hvariants : variantNodes? members = some variants)
    (h : ∀ visit ∈ below (.object members), visit.items.Follows visit.all) :
    (items ⟨field, index, required, .object members⟩).Follows
      (all ⟨field, index, required, .object members⟩) := by
  have hclean : ¬ Offending (.object members) := by
    simp [offending_object_iff, harray, hvariants]
  have hshape := ofJson_of_type_other hobject harray
  have hbelow := below_of_type_other hobject harray
  rw [hvariants] at hshape hbelow
  rw [hbelow] at h
  rw [all_eq, hbelow, items, hshape, Schema.items]
  exact Follows.take_up (by rw [event, hshape]) hclean ((follows_choiceItems h).bind_pure _)

theorem below_of_no_variants (hvariants : variantNodes? members = none) :
    below (.object members) = [] := by
  rw [below_of_type_other hobject harray, hvariants]
  rfl

theorem follows_of_kind {kind : String} (hvariants : variantNodes? members = none)
    (htype : typeKeyword? members = some kind) :
    (items ⟨field, index, required, .object members⟩).Follows
      (all ⟨field, index, required, .object members⟩) := by
  have hshape := ofJson_of_type_other hobject harray
  rw [hvariants, htype] at hshape
  have hevent : event ⟨field, index, required, .object members⟩ =
      .propertyStarted field index required (.object members) := by
    rw [event, hshape, toJson]
  rw [all_eq, below_of_no_variants hobject harray hvariants, items, hshape, Schema.items]
  by_cases hscalar : kind = "number" ∨ kind = "string"
  · have hclean : ¬ Offending (.object members) := by
      rcases hscalar with rfl | rfl <;> simp [offending_object_iff, htype]
    obtain ⟨type, hresult⟩ := scalarType_of_scalar field (.object members) hscalar
    rw [hresult]
    exact Follows.take_up hevent hclean ((Follows.pure type).bind_pure _)
  · have hkind : kind ∉ ["object", "array", "number", "string"] := by
      rw [htype] at hobject harray
      simp_all
    rw [scalarType_of_not_scalar hscalar]
    exact Follows.refuse hevent (.unknownType htype hkind hvariants)

theorem follows_of_no_kind (hvariants : variantNodes? members = none)
    (htype : typeKeyword? members = none) :
    (items ⟨field, index, required, .object members⟩).Follows
      (all ⟨field, index, required, .object members⟩) := by
  have hshape := ofJson_of_type_other hobject harray
  rw [hvariants, htype] at hshape
  rw [all_eq, below_of_no_variants hobject harray hvariants, items]
  by_cases hempty : members = []
  · have hclean : ¬ Offending (.object members) := by
      rw [offending_object_iff, htype]
      simp [hempty]
    rw [if_pos hempty] at hshape
    rw [hshape, Schema.items]
    exact Follows.take_up (by rw [event, hshape]) hclean (Follows.pure _)
  · rw [if_neg hempty] at hshape
    rw [hshape, Schema.items]
    exact Follows.refuse (by rw [event, hshape, toJson]) (.shapeless hempty htype hvariants)

end Other

end Node

/-- The translation of a node follows its visits. The induction is on the visits right below. -/
theorem follows_all (visit : Visit) : visit.items.Follows visit.all := by
  induction visit using all.induct with
  | case1 visit ih =>
      have hbelow : ∀ child ∈ below visit.node, child.items.Follows child.all :=
        fun child hchild => ih ⟨child, hchild⟩
      obtain ⟨field, index, required, node⟩ := visit
      by_cases hnode : ∃ members, node = .object members
      · obtain ⟨members, rfl⟩ := hnode
        -- Types object and array go before alternatives, and these before any other type.
        by_cases hobject : typeKeyword? members = some "object"
        · exact follows_of_type_object hobject hbelow
        by_cases harray : typeKeyword? members = some "array"
        · exact follows_of_type_array harray hbelow
        cases hvariants : variantNodes? members with
        | some variants => exact follows_of_variants hobject harray hvariants hbelow
        | none =>
            cases htype : typeKeyword? members with
            | some kind => exact follows_of_kind hobject harray hvariants htype
            | none => exact follows_of_no_kind hobject harray hvariants htype
      · exact follows_of_not_object (not_exists.mp hnode)

/-- The message of an object takes up its properties and no node for the object itself. -/
theorem follows_message (name : String) (required : NameSet) (properties : List (String × Json)) :
    (ObjectSchema.message name
        ⟨properties.map fun property => (property.1, ofJson property.2), required⟩).Follows
      ((ofProperties required 0 properties).flatMap all) :=
  (follows_propertyItems fun visit _ => visit.follows_all).bind_pure _

end Visit

/-- A schema is translated exactly if no visited node offends, and the error, if there is one, is
the refusal of the first node that offends. It names the field and shows the node as written. -/
theorem items_ofJson_result (name : String) (index : Nat) (required : Bool) (node : Json) :
    ((∃ body, (items name index required (ofJson node)).result = .ok body) ↔
      ∀ visit ∈ Visit.all ⟨name, index, required, node⟩, ¬ Offending visit.node) ∧
    ∀ error, (items name index required (ofJson node)).result = .error error ↔
      ∃ culprit, FirstOffending culprit (Visit.all ⟨name, index, required, node⟩) ∧
        error = .invalidProperty culprit.field culprit.node ∧
        error.message = "invalid property type for '" ++ culprit.field ++ "': " ++
          culprit.node.text := by
  have hfollows := Visit.follows_all ⟨name, index, required, node⟩
  refine ⟨hfollows.result_ok_iff, fun error => hfollows.result_error_iff.trans ?_⟩
  constructor
  · rintro ⟨culprit, hfirst, rfl⟩
    exact ⟨culprit, hfirst, rfl, rfl⟩
  · rintro ⟨culprit, hfirst, rfl, _⟩
    exact ⟨culprit, hfirst, rfl⟩

end RouteIdl
