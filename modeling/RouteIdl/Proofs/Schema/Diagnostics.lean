import RouteIdl.Proofs.Schema.Distinctness
import RouteIdl.Proofs.Schema.Offending

/-!
# Diagnostic views of schemas

What diagnostics show of a schema. Objects and unions are put together again from their parts, and
every other shape is shown as it was written. Either way the view is a schema that is classified
like the one it shows.
-/

namespace RouteIdl

open Schema

namespace Schema

theorem ofList_requiredNames (required : NameSet) :
    NameSet.ofList (requiredNames (some (.array (required.toList.map .string)))) = required := by
  have hnames : requiredNames (some (.array (required.toList.map .string))) = required.toList := by
    simp [requiredNames, Json.elements?, List.filterMap_map, Function.comp_def, Json.text?]
  rw [hnames]
  exact NameSet.ext fun name => NameSet.mem_ofList

theorem ofJson_toJson_object (properties : List (String × Schema)) (required : NameSet) :
    ofJson (toJson (.object properties required)) =
      .object (properties.map fun property => (property.1, ofJson property.2.toJson)) required := by
  rw [toJson, ofJson_of_type_object rfl]
  congr 1
  · simp [propertyNodes, List.lookup_cons, Json.members?, toMembers_eq_map, Function.comp_def]
  · exact ofList_requiredNames required

theorem ofJson_toJson_union (variants : List Schema) :
    ofJson (toJson (.union variants)) =
      .union (variants.map fun variant => ofJson variant.toJson) := by
  have htype : typeKeyword? [("oneOf", .array (toElements variants))] = none := rfl
  rw [toJson, ofJson_of_type_other (by simp [htype]) (by simp [htype])]
  simp [variantNodes?, Json.elements?, toElements_eq_map, Function.comp_def]

/-- Objects and unions are rebuilt, and every other schema is shown as written. -/
theorem rebuilt_or_as_written (node : Json) :
    (∃ members, node = .object members ∧ typeKeyword? members = some "object") ∨
      (∃ members variants, node = .object members ∧ variantNodes? members = some variants ∧
        ofJson node = .union (variants.map ofJson)) ∨
      (ofJson node).toJson = node := by
  cases node with
  | object members =>
      by_cases hobject : typeKeyword? members = some "object"
      · exact .inl ⟨members, rfl, hobject⟩
      by_cases harray : typeKeyword? members = some "array"
      · refine .inr (.inr ?_)
        rw [ofJson_of_type_array harray]
        cases members.lookup "items" <;> rw [toJson]
      have hshape := ofJson_of_type_other hobject harray
      cases hvariants : variantNodes? members with
      | some variants =>
          rw [hvariants] at hshape
          exact .inr (.inl ⟨members, variants, rfl, hvariants, hshape⟩)
      | none =>
          refine .inr (.inr ?_)
          rw [hshape, hvariants]
          cases typeKeyword? members with
          | some kind => rw [toJson]
          | none =>
              by_cases hempty : members = []
              · rw [if_pos hempty, toJson, hempty]
              · rw [if_neg hempty, toJson]
  | _ => exact .inr (.inr (by simp [ofJson, toJson]))

/-- The view is classified like the schema that it shows. -/
theorem ofJson_toJson_ofJson (node : Json) : ofJson (ofJson node).toJson = ofJson node := by
  induction node using node_induct with
  | object members ih =>
      rcases rebuilt_or_as_written (.object members) with
        ⟨_, ⟨⟩, htype⟩ | ⟨_, variants, ⟨⟩, hvariants, hshape⟩ | hwritten
      · rw [ofJson_of_type_object htype, ofJson_toJson_object, List.map_map]
        congr 1
        refine List.map_congr_left fun property hproperty => ?_
        exact congrArg (property.1, ·) (ih _ (mem_subschemas_of_property hproperty))
      · rw [hshape, ofJson_toJson_union, List.map_map]
        congr 1
        refine List.map_congr_left fun variant hvariant => ?_
        exact ih variant (mem_subschemas_of_variant hvariants hvariant)
      · rw [hwritten]
  | other node hnode =>
      rw [ofJson_of_not_object hnode, toJson, ofJson_of_not_object hnode]

theorem uniqueKeys_texts (names : List String) : (Json.array (names.map .string)).UniqueKeys := by
  refine .array fun element helement => ?_
  obtain ⟨name, _, rfl⟩ := List.mem_map.mp helement
  exact .scalar rfl rfl

/-- The view is a value with unique keys if the schema is. -/
theorem uniqueKeys_toJson_ofJson {node : Json} (h : node.UniqueKeys) :
    (ofJson node).toJson.UniqueKeys := by
  induction node using node_induct with
  | object members ih =>
      have hchild : ∀ child ∈ subschemas members, (ofJson child).toJson.UniqueKeys :=
        fun child hchild => ih child hchild (uniqueKeys_of_mem_subschemas h.of_object.2 hchild)
      rcases rebuilt_or_as_written (.object members) with
        ⟨_, ⟨⟩, htype⟩ | ⟨_, variants, ⟨⟩, hvariants, hshape⟩ | hwritten
      · have hproperties : (Json.object ((propertyNodes members).map fun property =>
            (property.1, (ofJson property.2).toJson))).UniqueKeys := by
          refine .object ?_ fun member hmember => ?_
          · rw [List.map_map]
            exact (uniqueKeys_propertyNodes h.of_object.2).1
          · obtain ⟨property, hproperty, rfl⟩ := List.mem_map.mp hmember
            exact hchild _ (mem_subschemas_of_property hproperty)
        rw [ofJson_of_type_object htype, toJson, toMembers_eq_map, List.map_map]
        refine .object (by simp) ?_
        simp only [List.forall_mem_cons]
        exact ⟨.scalar rfl rfl, hproperties, uniqueKeys_texts _, List.forall_mem_nil _⟩
      · rw [hshape, toJson, toElements_eq_map, List.map_map]
        refine .object (by simp) (List.forall_mem_singleton.mpr (.array fun element helement => ?_))
        obtain ⟨variant, hvariant, rfl⟩ := List.mem_map.mp helement
        exact hchild variant (mem_subschemas_of_variant hvariants hvariant)
      · rwa [hwritten]
  | other node hnode => rwa [ofJson_of_not_object hnode, toJson]

/-- What diagnostics show of a schema stands for the schema. The view is classified like it, down to
the order of properties, the required names and whatever is kept as written, so that another view
shows nothing new and both have the same items or the same error. It is a value with unique keys if
the schema is. -/
theorem diagnostics_stand_for (node : Json) :
    ofJson (ofJson node).toJson = ofJson node ∧
      (ofJson (ofJson node).toJson).toJson = (ofJson node).toJson ∧
      (node.UniqueKeys → (ofJson node).toJson.UniqueKeys) ∧
      ∀ name index required,
        items name index required (ofJson (ofJson node).toJson) =
          items name index required (ofJson node) := by
  refine ⟨ofJson_toJson_ofJson node, ?_, uniqueKeys_toJson_ofJson, fun name index required => ?_⟩
  · rw [ofJson_toJson_ofJson]
  · rw [ofJson_toJson_ofJson]

/-- An object with a title and a size that is any value, a number among others. -/
def sized : Json :=
  .object [("title", .string "Sized"), ("type", .string "object"),
    ("properties", .object [("size", .object [("oneOf", .array [
      .object [("minimum", .integer 0), ("type", .string "number")], .object []])])]),
    ("required", .array [.string "size", .null, .string "size"])]

theorem uniqueKeys_sized : sized.UniqueKeys := by
  have hvariants : (Json.array [.object [("minimum", .integer 0), ("type", .string "number")],
      .object []]).UniqueKeys := by
    refine .array ?_
    simp only [List.forall_mem_cons]
    refine ⟨.object (by decide) ?_, .object List.nodup_nil (List.forall_mem_nil _),
      List.forall_mem_nil _⟩
    simpa using ⟨.scalar rfl rfl, .scalar rfl rfl⟩
  have hproperties : (Json.object [("size", .object [("oneOf", .array [
      .object [("minimum", .integer 0), ("type", .string "number")], .object []])])]).UniqueKeys :=
    .object (by decide) (List.forall_mem_singleton.mpr
      (.object (by decide) (List.forall_mem_singleton.mpr hvariants)))
  have hrequired : (Json.array [.string "size", .null, .string "size"]).UniqueKeys := by
    refine .array ?_
    simp only [List.forall_mem_cons]
    exact ⟨.scalar rfl rfl, .scalar rfl rfl, .scalar rfl rfl, List.forall_mem_nil _⟩
  refine .object (by decide) ?_
  simp only [List.forall_mem_cons]
  exact ⟨.scalar rfl rfl, .scalar rfl rfl, hproperties, hrequired, List.forall_mem_nil _⟩

/-- The title and the repetition in the required names are not in the view, which is classified like
the schema all the same. -/
theorem diagnostics_stand_for_sized :
    sized.UniqueKeys ∧
      (ofJson sized).toJson =
        .object [("type", .string "object"),
          ("properties", .object [("size", .object [("oneOf", .array [
            .object [("minimum", .integer 0), ("type", .string "number")], .object []])])]),
          ("required", .array [.string "size"])] ∧
      ofJson (ofJson sized).toJson = ofJson sized ∧ (ofJson sized).toJson.UniqueKeys := by
  obtain ⟨hsame, -, hkeys, -⟩ := diagnostics_stand_for sized
  exact ⟨uniqueKeys_sized, rfl, hsame, hkeys uniqueKeys_sized⟩

end Schema

/-- A schema that is refused is shown as it is written. -/
theorem Offending.toJson_ofJson {node : Json} (h : Offending node) :
    (ofJson node).toJson = node := by
  rcases rebuilt_or_as_written node with
    ⟨members, rfl, htype⟩ | ⟨members, variants, rfl, hvariants, hshape⟩ | hwritten
  · simp [offending_object_iff, htype] at h
  · rcases offending_object_iff.mp h with ⟨_, _, hnone⟩ | ⟨harray, _⟩ | ⟨_, _, _, hnone⟩
    · simp [hvariants] at hnone
    -- Of the two, type array goes first, so that alternatives beside it make no union.
    · rw [ofJson_of_type_array harray] at hshape
      split at hshape <;> cases hshape
    · simp [hvariants] at hnone
  · exact hwritten

end RouteIdl
