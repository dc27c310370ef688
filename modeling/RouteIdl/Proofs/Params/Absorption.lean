import RouteIdl.Proofs.Params.Merging
import RouteIdl.Proofs.Schema.Siblings

/-!
# Absorption of request schemas

Request schemas that are absorbed one after the other. The merged properties stand in the order of
their first declarations, each with the shape of its last one, so a further schema adds names at the
end and leaves the numbers of fields as they are.
-/

namespace RouteIdl

open Idl Schema

/-- The names and numbers of the fields that stand directly in a message, in order. -/
def Idl.Message.numbering (message : Message) : List (String × Nat) :=
  (fieldsOf message.items).map fun field => (field.name, field.number)

theorem ObjectSchema.message_numbering {shape : ObjectSchema} {name : String} {message : Message}
    (h : (shape.message name).result = .ok message) :
    message.numbering = (shape.properties.map Prod.fst).zipIdx := by
  obtain ⟨items, hitems, hmessage⟩ := Traced.result_bind_eq_ok.mp h
  cases hmessage
  obtain ⟨hnumbers, hnames⟩ := propertyItems_fields hitems
  rw [Message.numbering, List.zipIdx_eq_zip_range', ← hnames, List.length_map]
  have hlength : (fieldsOf items).length = shape.properties.length := by
    rw [← List.length_map (·.name), hnames, List.length_map]
  rw [hlength, ← hnumbers, List.zip_map']

namespace Params

/-- The parameters of request schemas that are absorbed in order. -/
def ofSlots (slots : List Json) : Params :=
  slots.foldl absorb {}

/-- The names of the merged properties, in order. -/
def names (params : Params) : List String :=
  params.toObjectSchema.properties.map Prod.fst

variable {params : Params} {slots : List Json} {slot : Json}

theorem names_eq : params.names = params.properties.map Prod.fst := by
  simp [names, toObjectSchema]

theorem lookup_toObjectSchema {name : String} :
    params.toObjectSchema.properties.lookup name =
      (params.properties.lookup name).map Schema.ofJson := by
  obtain ⟨properties, required⟩ := params
  simp only [toObjectSchema]
  induction properties with
  | nil => rfl
  | cons property rest ih =>
      obtain ⟨other, node⟩ := property
      rw [List.map_cons, List.lookup_cons, List.lookup_cons, ih]
      cases name == other <;> rfl

theorem properties_ofSlots :
    (ofSlots slots).properties = Json.putAll [] (slots.flatMap declaredProperties) :=
  properties_foldl_absorb

theorem properties_absorb :
    (params.absorb slot).properties = Json.putAll params.properties (declaredProperties slot) :=
  rfl

theorem required_absorb :
    (params.absorb slot).required = params.required.insertAll (declaredRequired slot) :=
  rfl

/-- What a request schema declares are the members of an object under its keyword. -/
theorem declaredProperties_eq (slot : Json) :
    declaredProperties slot =
      match slot.member? "properties" with
      | some (.object members) => members
      | _ => [] := by
  unfold declaredProperties
  cases slot.member? "properties" with
  | none => rfl
  | some node => cases node <;> rfl

/-- What a request schema requires are the texts in the array under its keyword. -/
theorem mem_declaredRequired {name : String} :
    name ∈ declaredRequired slot ↔
      ∃ elements, slot.member? "required" = some (.array elements) ∧ .string name ∈ elements := by
  unfold declaredRequired Schema.requiredNames
  cases slot.member? "required" with
  | none => simp
  | some node =>
      cases node with
      | array elements =>
          have htext {element : Json} :
              element.text? = some name ↔ element = .string name := by
            cases element <;> simp [Json.text?]
          simp [Json.elements?, List.mem_filterMap, htext]
      | _ => simp [Json.elements?]

/-- Absorbing a schema adds names at the end. -/
theorem names_prefix_absorb : params.names <+: (params.absorb slot).names := by
  rw [names_eq, names_eq, properties_absorb]
  exact Json.keys_prefix_putAll

/-- A message that is made before a schema is absorbed and one that is made after it number the
fields that both have alike. -/
theorem numbering_prefix_absorb {name : String} {message later : Message}
    (hmessage : (params.toObjectSchema.message name).result = .ok message)
    (hlater : ((params.absorb slot).toObjectSchema.message name).result = .ok later) :
    message.numbering <+: later.numbering := by
  rw [ObjectSchema.message_numbering hmessage, ObjectSchema.message_numbering hlater]
  have hprefix : params.names <+: (params.absorb slot).names := names_prefix_absorb
  obtain ⟨added, hnames⟩ := hprefix
  unfold names at hnames
  rw [← hnames, List.zipIdx_append]
  exact List.prefix_append _ _

theorem absorb_absorb (hnodup : params.names.Nodup) :
    (params.absorb slot).absorb slot = params.absorb slot := by
  rw [names_eq] at hnodup
  have hproperties : ((params.absorb slot).absorb slot).properties =
      (params.absorb slot).properties := Json.putAll_putAll_self hnodup
  have hrequired : ((params.absorb slot).absorb slot).required =
      (params.absorb slot).required := by
    apply NameSet.ext
    intro name
    simp only [required_absorb, NameSet.mem_insertAll]
    tauto
  exact congrArg₂ Params.mk hproperties hrequired

theorem isEmpty_ofSlots_iff :
    (ofSlots slots).isEmpty ↔ ∀ slot ∈ slots, declaredProperties slot = [] := by
  rw [isEmpty, List.isEmpty_iff, properties_ofSlots, Json.putAll_nil_eq_nil_iff,
    List.flatMap_eq_nil_iff]

/-- Parameters are what request schemas declare, in order. -/
structure Merges (slots : List Json) (params : Params) : Prop where
  /-- No name occurs twice. -/
  distinct : params.names.Nodup
  /-- The names are in the order of their first declarations. -/
  names : params.names = ((slots.flatMap declaredProperties).map Prod.fst).eraseDups
  /-- A property has the shape of its last declaration. -/
  shapes : ∀ name, params.toObjectSchema.properties.lookup name =
    ((slots.flatMap declaredProperties).reverse.lookup name).map Schema.ofJson
  /-- A name is required if any of the schemas requires it, whether or not it is declared. -/
  required : ∀ name, name ∈ params.toObjectSchema.required ↔
    ∃ slot ∈ slots, ∃ elements,
      slot.member? "required" = some (.array elements) ∧ .string name ∈ elements
  /-- There are no parameters exactly if none of the schemas declares a property. -/
  isEmpty : params.isEmpty ↔ ∀ slot ∈ slots, declaredProperties slot = []

theorem merges_ofSlots (slots : List Json) : Merges slots (ofSlots slots) where
  distinct := by
    rw [names_eq, properties_ofSlots]
    exact Json.nodup_keys_putAll List.nodup_nil
  names := by rw [names_eq, properties_ofSlots, Json.map_fst_putAll_nil]
  shapes name := by
    rw [lookup_toObjectSchema, properties_ofSlots, Json.lookup_putAll, List.lookup_nil,
      Option.or_none]
  required name := by
    have hmem : name ∈ (ofSlots slots).required ↔
        name ∈ (∅ : NameSet) ∨ name ∈ slots.flatMap declaredRequired := mem_required_foldl_absorb
    simp only [NameSet.not_mem_empty, false_or, List.mem_flatMap, mem_declaredRequired] at hmem
    exact hmem
  isEmpty := isEmpty_ofSlots_iff

/-- Request schemas that are absorbed in order are merged, with the members under their keyword as
what they declare. A further schema adds names at the end, so that fields keep their numbers, and
absorbing it again changes nothing. -/
theorem absorption_merges (slots : List Json) :
    Merges slots (ofSlots slots) ∧
    ∀ slot,
      (declaredProperties slot =
        match slot.member? "properties" with
        | some (.object members) => members
        | _ => []) ∧
      Merges (slots ++ [slot]) ((ofSlots slots).absorb slot) ∧
      (ofSlots slots).names <+: ((ofSlots slots).absorb slot).names ∧
      (∀ name message later,
        ((ofSlots slots).toObjectSchema.message name).result = .ok message →
        (((ofSlots slots).absorb slot).toObjectSchema.message name).result = .ok later →
        message.numbering <+: later.numbering) ∧
      ((ofSlots slots).absorb slot).absorb slot = (ofSlots slots).absorb slot := by
  have hmerges := merges_ofSlots slots
  refine ⟨hmerges, fun slot => ⟨declaredProperties_eq slot, ?_, names_prefix_absorb, ?_, ?_⟩⟩
  · have hconcat : ofSlots (slots ++ [slot]) = (ofSlots slots).absorb slot := by
      simp [ofSlots, List.foldl_append]
    rw [← hconcat]
    exact merges_ofSlots (slots ++ [slot])
  · intro name message later hmessage hlater
    exact numbering_prefix_absorb hmessage hlater
  · exact absorb_absorb hmerges.distinct

/-- The schema of a body that takes a number and a text, and requires a path parameter as well. -/
def bodySlot : Json :=
  .object [("properties", .object [
      ("id", .object [("type", .string "number")]),
      ("note", .object [("type", .string "string")])]),
    ("required", .array [.string "note", .string "part", .integer 3])]

/-- The schema of a path that declares a parameter of the body as a text. Its list of required names
is none. -/
def pathSlot : Json :=
  .object [("properties", .object [
      ("part", .object [("type", .string "string")]),
      ("id", .object [("type", .string "string")])]),
    ("required", .string "id")]

/-- Absorbing the path after the body and a slot that is no object keeps the numbers of the body. -/
theorem absorption_merges_path :
    ∃ message later,
      ((ofSlots [bodySlot, .null]).toObjectSchema.message "Parts").result = .ok message ∧
      (((ofSlots [bodySlot, .null]).absorb pathSlot).toObjectSchema.message "Parts").result =
        .ok later ∧
      message.numbering = [("id", 0), ("note", 1)] ∧
      later.numbering = [("id", 0), ("note", 1), ("part", 2)] ∧
      message.numbering <+: later.numbering := by
  refine ⟨_, _, rfl, rfl, rfl, rfl, ?_⟩
  exact ((absorption_merges [bodySlot, .null]).2 pathSlot).2.2.2.1 "Parts" _ _ rfl rfl

end Params

end RouteIdl
