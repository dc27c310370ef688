import RouteIdl.Proofs.Schema.Classification
import RouteIdl.Proofs.Schema.Siblings

/-!
# Presence of fields

Which fields are required: those of the properties that the object around them requires, unless
their schema accepts any value. Nothing that belongs to a union is required, and neither is the
value of a response.
-/

namespace RouteIdl

open Idl

namespace Schema

/-- Only the schema without keywords accepts any value. -/
theorem ofJson_eq_any_iff {node : Json} : ofJson node = .any ↔ node = .object [] := by
  constructor
  · intro hany
    rcases type_object_or_empty_or_other node with ⟨members, rfl, htype⟩ | hempty | ⟨hother, _⟩
    · rw [ofJson_of_type_object htype] at hany
      cases hany
    · exact hempty
    · exact absurd hany hother
  · rintro rfl
    rfl

theorem scalar_name_ne_anyType (scalar : Scalar) : scalar.name ≠ anyType := by
  cases scalar <;> decide

theorem nested_ne_anyType (name : String) : Identifier.nested name ≠ anyType := by
  intro heq
  have hlast := congrArg (fun type => type.toList.getLast?) heq
  simp [Identifier.nested, anyType, String.toList_append] at hlast

section Yields

variable {name : String} {index : Nat} {required : Bool} {schema : Schema} {items : List Item}

/-- The field of a schema is required as asked for, unless the schema accepts any value. -/
theorem Yields.required_iff {field : Field} (h : Yields name index required schema items)
    (hfield : field ∈ fieldsOf items) :
    field.required = true ↔ required = true ∧ schema ≠ .any := by
  cases h <;> cases List.mem_singleton.mp hfield <;> simp

/-- A field that has the type of any value but does not come from a schema that accepts any value
comes from a union of that name. -/
theorem Yields.union_of_anyType {field : Field} (h : Yields name index required schema items)
    (hfield : field ∈ fieldsOf items) (htype : field.type = anyType) (hany : schema ≠ .any) :
    name = anyType ∧ ∃ variants, schema = .union variants := by
  cases h with
  | @scalar kind scalar source hkind =>
      cases List.mem_singleton.mp hfield
      exact absurd htype (scalar_name_ne_anyType scalar)
  | @scalars kind scalar inner source hkind =>
      cases List.mem_singleton.mp hfield
      exact absurd htype (scalar_name_ne_anyType scalar)
  | object hbody =>
      cases List.mem_singleton.mp hfield
      exact absurd htype (nested_ne_anyType name)
  | objects source hbody =>
      cases List.mem_singleton.mp hfield
      exact absurd htype (nested_ne_anyType name)
  | @union variants choices hchoices =>
      cases List.mem_singleton.mp hfield
      exact ⟨htype, variants, rfl⟩
  | any => exact absurd rfl hany

end Yields

section YieldsAll

variable {index : Nat} {parts : List (String × Bool × Schema)} {items : List Item}

/-- Each of the named schemas has one field, in order. -/
theorem YieldsAll.forall₂_fields (h : YieldsAll index parts items) :
    List.Forall₂ (fun part field => ∃ position block,
        Yields part.1 position part.2.1 part.2.2 block ∧ field ∈ fieldsOf block ∧
          field.name = part.1)
      parts (fieldsOf items) := by
  induction h with
  | nil => exact .nil
  | @cons index name required schema rest first others hfirst _ ih =>
      obtain ⟨field, hfield, hname, _⟩ := hfirst.fields
      rw [fieldsOf_append, hfield, List.singleton_append]
      exact .cons ⟨index, first, hfirst, by simp [hfield], hname⟩ ih

theorem YieldsAll.not_required (h : YieldsAll index parts items)
    (hparts : ∀ part ∈ parts, part.2.1 = false) :
    ∀ field ∈ fieldsOf items, field.required = false := by
  induction h with
  | nil => exact List.forall_mem_nil _
  | @cons _ _ required _ _ _ _ hfirst _ ih =>
      obtain ⟨hnone, hrest⟩ := List.forall_mem_cons.mp hparts
      obtain rfl : required = false := hnone
      rw [fieldsOf_append]
      apply List.forall_mem_append.mpr ⟨?_, ih hrest⟩
      intro field hfield
      simpa using hfirst.required_iff hfield

end YieldsAll

/-- The fields of properties, one for each in order, are required exactly if the object requires
the property and its schema is not the one without keywords. -/
theorem propertyItems_required {required : NameSet} {properties : List (String × Schema)}
    {items : List Item} (h : (propertyItems required 0 properties).result = .ok items) :
    List.Forall₂ (fun property field => field.name = property.1 ∧
        (field.required = true ↔ property.1 ∈ required ∧ property.2 ≠ .any) ∧
        (field.required = true → field.type = anyType →
          property.1 = anyType ∧ ∃ variants, property.2 = .union variants))
      properties (fieldsOf items) := by
  have hfields := (propertyItems_yieldsAll h).forall₂_fields
  rw [propertyParts, List.forall₂_map_left_iff] at hfields
  refine hfields.imp ?_
  rintro property field ⟨position, block, hyields, hmem, hname⟩
  have hrequired := hyields.required_iff hmem
  rw [decide_eq_true_iff] at hrequired
  refine ⟨hname, hrequired, fun hpresent htype => ?_⟩
  exact hyields.union_of_anyType hmem htype (hrequired.mp hpresent).2

end Schema

end RouteIdl
