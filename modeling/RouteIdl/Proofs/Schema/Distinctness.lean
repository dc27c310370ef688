import RouteIdl.Proofs.Json.UniqueKeys
import RouteIdl.Proofs.Schema.Siblings
import RouteIdl.Proofs.Schema.Visits

/-!
# Distinct names in a body

Fields side by side have distinct names if they come from the properties of an object, and so have
messages. The choices of a union are named after the types that its variants declare, so that their
names are distinct exactly if those types are.
-/

namespace RouteIdl

open Idl

namespace Schema

theorem propertyItems_nodup {required : NameSet} {index : Nat}
    {properties : List (String × Schema)} {items : List Item}
    (hnames : (properties.map Prod.fst).Nodup)
    (h : (propertyItems required index properties).result = .ok items) :
    ((fieldsOf items).map (·.name)).Nodup ∧ (messageNamesOf items).Nodup := by
  constructor
  · rw [(propertyItems_fields h).2]
    exact hnames
  · rw [propertyItems_messageNames h]
    refine List.pairwise_filterMap.mpr ((List.pairwise_map.mp hnames).imp ?_)
    intro property other hne message hmessage message' hmessage' heq
    subst heq
    exact hne (messageName?_inj hmessage hmessage')

/-! ## Choices -/

/-- Whether a schema has structure of its own, so that a message is made for it. -/
def structured : Schema → Bool
  | .object _ _ => true
  | .array (.object _ _) _ => true
  | .union _ => true
  | _ => false

theorem structured_of_messageName? {schema : Schema} {name message : String}
    (h : schema.messageName? name = some message) : schema.structured := by
  unfold messageName? at h
  split at h
  next => rfl
  next => rfl
  next => rfl
  next => cases h

/-- Of the schemas that a message is made for, only unions declare no type. -/
theorem messageName?_of_declaredType {schema : Schema} {type : String} (name : String)
    (htype : schema.declaredType? = some type) (hstructured : schema.structured) :
    schema.messageName? name = some (Identifier.nested name) := by
  unfold structured at hstructured
  split at hstructured
  next => rfl
  next => rfl
  next => cases htype
  next => cases hstructured

/-- A schema declares no type but those of schemas that have a translation. -/
def Typed (schema : Schema) : Prop :=
  ∀ type, schema.declaredType? = some type → type ∈ ["number", "string", "object", "array"]

theorem Yields.typed {name : String} {index : Nat} {required : Bool} {schema : Schema}
    {items : List Item} (h : Yields name index required schema items) : schema.Typed := by
  intro type htype
  cases h with
  | @scalar kind scalar source hkind =>
      cases htype
      unfold Scalar.ofKind? at hkind
      split at hkind
      next => simp
      next => simp
      next => cases hkind
  | scalars | object | objects =>
      cases htype
      simp
  | union | any => cases htype

theorem typed_of_choiceItems {index : Nat} {variants : List Schema} {items : List Item}
    (h : (choiceItems index variants).result = .ok items) :
    ∀ variant ∈ variants, variant.Typed := by
  have hyields := List.forall_mem_map.mp (choiceItems_yieldsAll h).exists_yields
  intro variant hvariant
  rw [← List.zipIdx_map_fst index variants] at hvariant
  obtain ⟨entry, hentry, rfl⟩ := List.mem_map.mp hvariant
  obtain ⟨_, _, hentry⟩ := hyields entry hentry
  exact hentry.typed

theorem position_eq_of_toString_eq {position position' : Nat}
    (h : toString position = toString position') : position = position' := by
  have hdigits : Nat.toDigits 10 position = Nat.toDigits 10 position' := by
    simpa only [Nat.toString_eq_ofList_toDigits, String.ofList_inj] using h
  calc
    position = Nat.ofDigitChars 10 (Nat.toDigits 10 position) 0 :=
      Nat.ofDigitChars_ten_toDigits.symm
    _ = Nat.ofDigitChars 10 (Nat.toDigits 10 position') 0 := by rw [hdigits]
    _ = position' := Nat.ofDigitChars_ten_toDigits

/-- Choices at different positions have the same name exactly if they declare the same type. -/
theorem choiceName_eq_iff {variant other : Schema} {position position' : Nat}
    (hvariant : variant.Typed) (hother : other.Typed) (hne : position ≠ position') :
    choiceName position variant = choiceName position' other ↔
      ∃ type, variant.declaredType? = some type ∧ other.declaredType? = some type := by
  -- No declared type reads like a name that is made from a position.
  have hmade {type : String} {n : Nat} (h : type ∈ ["number", "string", "object", "array"]) :
      type ≠ "variant" ++ toString n := by
    intro heq
    have hfirst := congrArg (fun name => name.toList.head?) heq
    simp only [String.toList_append] at hfirst
    simp only [List.mem_cons, List.not_mem_nil, or_false] at h
    rcases h with rfl | rfl | rfl | rfl <;> simp at hfirst
  unfold choiceName
  cases htype : variant.declaredType? with
  | none =>
      cases htype' : other.declaredType? with
      | none =>
          simp only [Option.getD_none, reduceCtorEq, false_and, exists_const, iff_false]
          intro heq
          exact hne (position_eq_of_toString_eq ((String.append_right_inj _).mp heq))
      | some type' =>
          simp only [Option.getD_none, Option.getD_some, reduceCtorEq, false_and, exists_const,
            iff_false]
          exact (hmade (hother type' htype')).symm
  | some type =>
      cases htype' : other.declaredType? with
      | none =>
          simp only [Option.getD_none, Option.getD_some, reduceCtorEq, and_false, exists_const,
            iff_false]
          exact hmade (hvariant type htype)
      | some type' => simp [eq_comm]

/-- A relation that depends on positions only in that they differ holds pairwise if it does without
them. -/
theorem pairwise_zipIdx_iff {α : Type} {related : α × Nat → α × Nat → Prop}
    {plain : α → α → Prop} {xs : List α} {index : Nat}
    (h : ∀ x ∈ xs, ∀ y ∈ xs, ∀ i j, i ≠ j → (related (x, i) (y, j) ↔ plain x y)) :
    (xs.zipIdx index).Pairwise related ↔ xs.Pairwise plain := by
  have hpositions : (xs.zipIdx index).Pairwise fun entry other => entry.2 ≠ other.2 := by
    refine List.pairwise_map.mp ?_
    rw [List.zipIdx_map_snd]
    exact List.nodup_range'
  have hplain : ((xs.zipIdx index).map Prod.fst).Pairwise plain ↔
      (xs.zipIdx index).Pairwise fun entry other => plain entry.1 other.1 := List.pairwise_map
  rw [List.zipIdx_map_fst] at hplain
  rw [hplain]
  -- Both sides are about the entries now, at positions that are known to differ.
  constructor
  · intro hrelated
    refine (hrelated.and hpositions).imp_of_mem ?_
    rintro ⟨x, i⟩ ⟨y, j⟩ hx hy ⟨hxy, hne⟩
    exact (h x (List.fst_mem_of_mem_zipIdx hx) y (List.fst_mem_of_mem_zipIdx hy) i j hne).mp hxy
  · intro hrelated
    refine (hrelated.and hpositions).imp_of_mem ?_
    rintro ⟨x, i⟩ ⟨y, j⟩ hx hy ⟨hxy, hne⟩
    exact (h x (List.fst_mem_of_mem_zipIdx hx) y (List.fst_mem_of_mem_zipIdx hy) i j hne).mpr hxy

section Choices

variable {index : Nat} {variants : List Schema} {items : List Item}

theorem choiceItems_fields_nodup_iff (h : (choiceItems index variants).result = .ok items) :
    ((fieldsOf items).map (·.name)).Nodup ↔ (variants.filterMap declaredType?).Nodup := by
  have htyped := typed_of_choiceItems h
  rw [(choiceItems_fields h).2, List.nodup_iff_pairwise_ne, List.nodup_iff_pairwise_ne,
    List.pairwise_map, List.pairwise_filterMap]
  refine pairwise_zipIdx_iff ?_
  intro variant hvariant other hother position position' hne
  rw [ne_eq, choiceName_eq_iff (htyped variant hvariant) (htyped other hother) hne]
  constructor
  · rintro hdistinct type htype type' htype' rfl
    exact hdistinct ⟨type, htype, htype'⟩
  · rintro hdistinct ⟨type, htype, htype'⟩
    exact hdistinct type htype type htype' rfl

theorem choiceItems_messageNames_nodup_iff (h : (choiceItems index variants).result = .ok items) :
    (messageNamesOf items).Nodup ↔
      ((variants.filter structured).filterMap declaredType?).Nodup := by
  have htyped := typed_of_choiceItems h
  rw [choiceItems_messageNames h, List.nodup_iff_pairwise_ne, List.nodup_iff_pairwise_ne,
    List.pairwise_filterMap, List.pairwise_filterMap, List.pairwise_filter]
  refine pairwise_zipIdx_iff ?_
  intro variant hvariant other hother position position' hne
  have hname := choiceName_eq_iff (htyped variant hvariant) (htyped other hother) hne
  constructor
  · rintro hdistinct hstructured hstructured' type htype type' htype' rfl
    -- With a type declared, both messages are named after it with the same suffix.
    have hmessage := messageName?_of_declaredType (choiceName position variant) htype hstructured
    have hmessage' := messageName?_of_declaredType (choiceName position' other) htype' hstructured'
    refine hdistinct _ hmessage _ hmessage' ?_
    rw [Identifier.nested_inj]
    exact hname.mpr ⟨type, htype, htype'⟩
  · rintro hdistinct message hmessage message' hmessage' rfl
    obtain ⟨type, htype, htype'⟩ := hname.mp (messageName?_inj hmessage hmessage')
    exact hdistinct (structured_of_messageName? hmessage) (structured_of_messageName? hmessage')
      type htype type htype' rfl

end Choices

end Schema

/-! ## Origins -/

/-- If a body comes from an object, the properties of the object have distinct names. -/
def Origin.Distinct (origin : Origin) : Prop :=
  ∀ shape, origin = .object shape → (shape.properties.map Prod.fst).Nodup

namespace Schema

section Object

variable {members : List (String × Json)}

theorem uniqueKeys_propertyNodes (hvalues : ∀ member ∈ members, member.2.UniqueKeys) :
    ((propertyNodes members).map Prod.fst).Nodup ∧
      ∀ property ∈ propertyNodes members, property.2.UniqueKeys :=
  Json.UniqueKeys.of_members? fun _ hlookup => .of_lookup hvalues hlookup

theorem uniqueKeys_of_mem_subschemas (hvalues : ∀ member ∈ members, member.2.UniqueKeys)
    {child : Json} (h : child ∈ subschemas members) : child.UniqueKeys := by
  simp only [subschemas, List.mem_append, List.mem_map, Option.mem_toList] at h
  rcases h with (⟨property, hproperty, rfl⟩ | hitems) | hvariant
  · exact (uniqueKeys_propertyNodes hvalues).2 property hproperty
  · exact .of_lookup hvalues hitems
  · refine Json.UniqueKeys.of_elements? (fun _ hlookup => ?_) child hvariant
    exact .of_lookup hvalues hlookup

/-- A schema object has at most the names of its properties to itself; the rest comes from the
schemas in its keywords. -/
theorem origins_ofJson_object {origin : Origin}
    (h : origin ∈ (ofJson (.object members)).origins) :
    (∀ shape, origin = .object shape →
        shape.properties.map Prod.fst = (propertyNodes members).map Prod.fst) ∨
      ∃ child ∈ subschemas members, origin ∈ (ofJson child).origins := by
  by_cases hobject : typeKeyword? members = some "object"
  · rw [ofJson_of_type_object hobject, origins] at h
    rcases List.mem_cons.mp h with rfl | hproperty
    · refine .inl ?_
      rintro _ ⟨⟩
      rw [List.map_map]
      rfl
    · rw [propertyOrigins_eq_flatMap, List.flatMap_map] at hproperty
      obtain ⟨property, hmem, horigin⟩ := List.mem_flatMap.mp hproperty
      exact .inr ⟨property.2, mem_subschemas_of_property hmem, horigin⟩
  by_cases harray : typeKeyword? members = some "array"
  · rw [ofJson_of_type_array harray] at h
    cases hitems : members.lookup "items" with
    | none => simp [hitems, origins] at h
    | some node =>
        simp only [hitems, origins] at h
        exact .inr ⟨node, mem_subschemas_of_items hitems, h⟩
  rw [ofJson_of_type_other hobject harray] at h
  cases hnodes : variantNodes? members with
  | some nodes =>
      simp only [hnodes, origins, List.mem_cons, List.mem_append, List.not_mem_nil,
        or_false, variantOrigins_eq_flatMap, List.flatMap_map] at h
      rcases h with rfl | rfl | hvariant | rfl
      · exact .inl nofun
      · exact .inl nofun
      · obtain ⟨node, hmem, horigin⟩ := List.mem_flatMap.mp hvariant
        exact .inr ⟨node, mem_subschemas_of_variant hnodes hmem, horigin⟩
      · exact .inl nofun
  | none =>
      cases htype : typeKeyword? members with
      | some kind =>
          simp only [hnodes, htype] at h
          cases h
      | none =>
          simp only [hnodes, htype] at h
          split at h <;> cases h

end Object

/-- The objects in a schema with unique keys have properties with distinct names, at any depth. -/
theorem distinct_origins {node : Json} (h : node.UniqueKeys) :
    ∀ origin ∈ (ofJson node).origins, origin.Distinct := by
  induction node using node_induct with
  | object members ih =>
      have hvalues := h.of_object.2
      intro origin horigin
      rcases origins_ofJson_object horigin with hown | ⟨child, hchild, hmem⟩
      · intro shape heq
        rw [hown shape heq]
        exact (uniqueKeys_propertyNodes hvalues).1
      · exact ih child hchild (uniqueKeys_of_mem_subschemas hvalues hchild) origin hmem
  | other node hnode =>
      rw [ofJson_of_not_object hnode]
      exact List.forall_mem_nil _

end Schema

end RouteIdl
