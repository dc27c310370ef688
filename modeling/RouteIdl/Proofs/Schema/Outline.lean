import RouteIdl.Proofs.Schema.Translation

/-!
# Outlines of schemas

What a document can express of a schema: property names and their order, which properties are
required, the kinds of scalars, and the nesting of objects, lists and unions. A schema has an
outline exactly if it has a translation, and its translation depends on nothing else.
-/

namespace RouteIdl

open Idl

/-- What a document expresses of a schema. A list is the outline of its items, marked as repeated;
only scalars and objects can be. -/
inductive Outline where
  | scalar (repeated : Bool) (scalar : Scalar)
  | any
  /-- Properties by name, each with whether it is required. -/
  | object (repeated : Bool) (properties : List (String × Bool × Outline))
  | union (variants : List Outline)

/-- The kind of primitive value that has a scalar type. -/
def Idl.Scalar.kind : Scalar → String
  | uint32 => "number"
  | string => "string"

theorem Idl.Scalar.ofKind?_eq_some_iff {kind : String} {scalar : Scalar} :
    Scalar.ofKind? kind = some scalar ↔ kind = scalar.kind := by
  constructor
  · intro h
    unfold ofKind? at h
    split at h <;> cases h <;> rfl
  · rintro rfl
    cases scalar <;> rfl

namespace Outline

/-- Induction over outlines, with a hypothesis for every property of an object and for every
variant of a union. -/
@[elab_as_elim, induction_eliminator]
theorem induct {motive : Outline → Prop}
    (scalar : ∀ repeated scalar, motive (.scalar repeated scalar)) (any : motive .any)
    (object : ∀ repeated properties, (∀ property ∈ properties, motive property.2.2) →
      motive (.object repeated properties))
    (union : ∀ variants, (∀ variant ∈ variants, motive variant) → motive (.union variants))
    (outline : Outline) : motive outline :=
  @Outline.rec motive
    (fun properties => ∀ property ∈ properties, motive property.2.2)
    (fun variants => ∀ variant ∈ variants, motive variant)
    (fun property => motive property.2.2) (fun property => motive property.2)
    scalar any object union
    (fun _ h => nomatch h)
    (fun _ _ hhead htail => List.forall_mem_cons.mpr ⟨hhead, htail⟩)
    (fun _ h => nomatch h)
    (fun _ _ hhead htail => List.forall_mem_cons.mpr ⟨hhead, htail⟩)
    (fun _ _ h => h) (fun _ _ h => h) outline

/-- Whether a property with this outline counts as required. One that accepts every value never
does. -/
def marks (required : Bool) : Outline → Bool
  | .any => false
  | _ => required

/-- The outline of a list with items of this outline. -/
def listed? : Outline → Option Outline
  | .scalar false kind => some (.scalar true kind)
  | .object false properties => some (.object true properties)
  | _ => none

theorem listed?_eq_some_iff {item outline : Outline} :
    item.listed? = some outline ↔
      (∃ kind, item = .scalar false kind ∧ outline = .scalar true kind) ∨
        ∃ properties, item = .object false properties ∧ outline = .object true properties := by
  unfold listed?
  split <;> simp_all [eq_comm]

/-- The name of the choice at a position of a union. -/
def choiceName (position : Nat) : Outline → String
  | .scalar false kind => kind.kind
  | .object false _ => "object"
  | .scalar true _ => "array"
  | .object true _ => "array"
  | _ => "variant" ++ toString position

@[simp] theorem marks_false (outline : Outline) : outline.marks false = false := by
  cases outline <;> rfl

mutual

/-- The items that an outline contributes under a name. -/
def items (name : String) (index : Nat) (required : Bool) : Outline → List Item
  | .scalar repeated kind => [.field ⟨name, index, kind.name, repeated, required⟩]
  | .any => [.field ⟨name, index, anyType, false, required⟩]
  | .object repeated properties =>
      [.message (Identifier.nested name) (propertyItems 0 properties),
        .field ⟨name, index, Identifier.nested name, repeated, required⟩]
  | .union variants => Schema.unionItems name index required (choiceItems 0 variants)

/-- The items of properties, the first of them at a given position. -/
def propertyItems (index : Nat) : List (String × Bool × Outline) → List Item
  | [] => []
  | (name, required, outline) :: rest =>
      outline.items name index required ++ propertyItems (index + 1) rest

/-- The items of the variants of a union, the first of them at a given position. -/
def choiceItems (position : Nat) : List Outline → List Item
  | [] => []
  | outline :: rest =>
      outline.items (outline.choiceName position) position false ++ choiceItems (position + 1) rest

end

end Outline

namespace Schema

mutual

/-- The outline of a schema that has one. -/
def outline? : Schema → Option Outline
  | .primitive kind _ => (Scalar.ofKind? kind).map (.scalar false)
  | .object properties required =>
      (propertyOutlines? required properties).map (.object false)
  | .array items _ => items.outline?.bind Outline.listed?
  | .union variants => (variantOutlines? variants).map .union
  | .any => some .any
  | .unrecognized _ => none

/-- The outlines of properties, if they all have one. -/
def propertyOutlines? (required : NameSet) :
    List (String × Schema) → Option (List (String × Bool × Outline))
  | [] => some []
  | (name, schema) :: rest => do
      let outline ← schema.outline?
      let others ← propertyOutlines? required rest
      some ((name, outline.marks (name ∈ required), outline) :: others)

/-- The outlines of variants, if they all have one. -/
def variantOutlines? : List Schema → Option (List Outline)
  | [] => some []
  | variant :: rest => do
      let outline ← variant.outline?
      let others ← variantOutlines? rest
      some (outline :: others)

end

variable {required : NameSet}

theorem propertyOutlines?_cons_eq_some_iff {name : String} {schema : Schema}
    {rest : List (String × Schema)} {outlines : List (String × Bool × Outline)} :
    propertyOutlines? required ((name, schema) :: rest) = some outlines ↔
      ∃ outline others, schema.outline? = some outline ∧
        propertyOutlines? required rest = some others ∧
        outlines = (name, outline.marks (name ∈ required), outline) :: others := by
  simp [propertyOutlines?, Option.bind_eq_some_iff, @eq_comm _ outlines]

theorem variantOutlines?_cons_eq_some_iff {variant : Schema} {rest : List Schema}
    {outlines : List Outline} :
    variantOutlines? (variant :: rest) = some outlines ↔
      ∃ outline others, variant.outline? = some outline ∧
        variantOutlines? rest = some others ∧ outlines = outline :: others := by
  simp [variantOutlines?, Option.bind_eq_some_iff, @eq_comm _ outlines]

theorem eq_primitive_of_outline {schema : Schema} {scalar : Scalar}
    (h : schema.outline? = some (.scalar false scalar)) :
    ∃ kind source, schema = .primitive kind source ∧ Scalar.ofKind? kind = some scalar := by
  cases schema with
  | primitive kind source =>
      obtain ⟨_, hkind, ⟨⟩⟩ := Option.map_eq_some_iff.mp h
      exact ⟨kind, source, rfl, hkind⟩
  | array items source =>
      obtain ⟨inner, _, hlisted⟩ := Option.bind_eq_some_iff.mp h
      simp [Outline.listed?_eq_some_iff] at hlisted
  | _ => simp [outline?] at h

theorem eq_object_of_outline {schema : Schema} {outlines : List (String × Bool × Outline)}
    (h : schema.outline? = some (.object false outlines)) :
    ∃ properties names, schema = .object properties names ∧
      propertyOutlines? names properties = some outlines := by
  cases schema with
  | object properties names =>
      obtain ⟨_, houtlines, ⟨⟩⟩ := Option.map_eq_some_iff.mp h
      exact ⟨properties, names, rfl, houtlines⟩
  | array items source =>
      obtain ⟨inner, _, hlisted⟩ := Option.bind_eq_some_iff.mp h
      simp [Outline.listed?_eq_some_iff] at hlisted
  | _ => simp [outline?] at h

theorem eq_any_of_outline {schema : Schema} (h : schema.outline? = some .any) :
    schema = .any := by
  cases schema with
  | array items source =>
      obtain ⟨inner, _, hlisted⟩ := Option.bind_eq_some_iff.mp h
      simp [Outline.listed?_eq_some_iff] at hlisted
  | any => rfl
  | _ => simp [outline?] at h

/-- A choice is named after its outline. -/
theorem choiceName_of_outline {variant : Schema} {outline : Outline} {position : Nat}
    (h : variant.outline? = some outline) :
    choiceName position variant = outline.choiceName position := by
  cases variant with
  | primitive kind source =>
      obtain ⟨scalar, hkind, rfl⟩ := Option.map_eq_some_iff.mp h
      rw [Scalar.ofKind?_eq_some_iff.mp hkind]
      rfl
  | object properties names =>
      obtain ⟨_, _, rfl⟩ := Option.map_eq_some_iff.mp h
      rfl
  | array items source =>
      obtain ⟨inner, _, hlisted⟩ := Option.bind_eq_some_iff.mp h
      rcases Outline.listed?_eq_some_iff.mp hlisted with ⟨_, rfl, rfl⟩ | ⟨_, rfl, rfl⟩
      · rfl
      · rfl
  | union variants =>
      obtain ⟨_, _, rfl⟩ := Option.map_eq_some_iff.mp h
      rfl
  | any =>
      cases h
      rfl
  | unrecognized source => cases h

/-- A schema is translated as its outline is. -/
def FollowsOutline (schema : Schema) : Prop :=
  ∀ name index required body, Yields name index required schema body ↔
    ∃ outline, schema.outline? = some outline ∧
      body = outline.items name index (outline.marks required)

theorem propertyItems_eq_ok_iff {properties : List (String × Schema)} {index : Nat}
    {body : List Item} (h : ∀ property ∈ properties, property.2.FollowsOutline) :
    (propertyItems required index properties).result = .ok body ↔
      ∃ outlines, propertyOutlines? required properties = some outlines ∧
        body = Outline.propertyItems index outlines := by
  induction properties generalizing index body with
  | nil => simp [propertyItems, propertyOutlines?, Outline.propertyItems, eq_comm]
  | cons property rest ih =>
      obtain ⟨name, schema⟩ := property
      obtain ⟨hschema, hrest⟩ := List.forall_mem_cons.mp h
      rw [propertyItems_cons_eq_ok_iff]
      simp only [propertyOutlines?_cons_eq_some_iff, hschema _ _ _ _, ih hrest]
      constructor
      · rintro ⟨_, _, ⟨outline, houtline, rfl⟩, ⟨others, hothers, rfl⟩, rfl⟩
        exact ⟨_, ⟨outline, others, houtline, hothers, rfl⟩, rfl⟩
      · rintro ⟨_, ⟨outline, others, houtline, hothers, rfl⟩, rfl⟩
        exact ⟨_, _, ⟨outline, houtline, rfl⟩, ⟨others, hothers, rfl⟩, rfl⟩

theorem choiceItems_eq_ok_iff {variants : List Schema} {position : Nat} {body : List Item}
    (h : ∀ variant ∈ variants, variant.FollowsOutline) :
    (choiceItems position variants).result = .ok body ↔
      ∃ outlines, variantOutlines? variants = some outlines ∧
        body = Outline.choiceItems position outlines := by
  induction variants generalizing position body with
  | nil => simp [choiceItems, variantOutlines?, Outline.choiceItems, eq_comm]
  | cons variant rest ih =>
      obtain ⟨hvariant, hrest⟩ := List.forall_mem_cons.mp h
      rw [choiceItems_cons_eq_ok_iff]
      simp only [variantOutlines?_cons_eq_some_iff, hvariant _ _ _ _, ih hrest]
      constructor
      · rintro ⟨_, _, ⟨outline, houtline, rfl⟩, ⟨others, hothers, rfl⟩, rfl⟩
        refine ⟨_, ⟨outline, others, houtline, hothers, rfl⟩, ?_⟩
        rw [choiceName_of_outline houtline, Outline.marks_false, Outline.choiceItems]
      · rintro ⟨_, ⟨outline, others, houtline, hothers, rfl⟩, rfl⟩
        refine ⟨_, _, ⟨outline, houtline, rfl⟩, ⟨others, hothers, rfl⟩, ?_⟩
        rw [choiceName_of_outline houtline, Outline.marks_false, Outline.choiceItems]

/-- The properties of an object follow their outlines if the object does. -/
theorem FollowsOutline.propertyItems {properties : List (String × Schema)}
    (h : (Schema.object properties required).FollowsOutline) {body : List Item} :
    (Schema.propertyItems required 0 properties).result = .ok body ↔
      ∃ outlines, propertyOutlines? required properties = some outlines ∧
        body = Outline.propertyItems 0 outlines := by
  have hyields : (Schema.propertyItems required 0 properties).result = .ok body ↔
      Yields "" 0 false (.object properties required)
        [.message (Identifier.nested "") body,
          .field ⟨"", 0, Identifier.nested "", false, false⟩] := by
    constructor
    · exact .object
    · rintro ⟨⟩
      assumption
  rw [hyields, h]
  constructor
  · rintro ⟨_, houtline, hitems⟩
    obtain ⟨outlines, houtlines, rfl⟩ := Option.map_eq_some_iff.mp houtline
    cases hitems
    exact ⟨outlines, houtlines, rfl⟩
  · rintro ⟨outlines, houtlines, rfl⟩
    exact ⟨.object false outlines, by simp [outline?, houtlines], rfl⟩

theorem followsOutline (schema : Schema) : schema.FollowsOutline := by
  intro name index required body
  induction schema generalizing name index required body with
  | primitive kind source =>
      constructor
      · intro h
        cases h with
        | @scalar _ scalar _ hkind =>
            exact ⟨.scalar false scalar, by simp [outline?, hkind], rfl⟩
      · rintro ⟨outline, houtline, rfl⟩
        obtain ⟨scalar, hkind, rfl⟩ := Option.map_eq_some_iff.mp houtline
        exact .scalar source hkind
  | object properties names ih =>
      constructor
      · intro h
        cases h with
        | object hbody =>
            obtain ⟨outlines, houtlines, rfl⟩ := (propertyItems_eq_ok_iff ih).mp hbody
            exact ⟨.object false outlines, by simp [outline?, houtlines], rfl⟩
      · rintro ⟨outline, houtline, rfl⟩
        obtain ⟨outlines, houtlines, rfl⟩ := Option.map_eq_some_iff.mp houtline
        exact .object ((propertyItems_eq_ok_iff ih).mpr ⟨outlines, houtlines, rfl⟩)
  | array items source ih =>
      constructor
      · intro h
        cases h with
        | @scalars _ scalar inner _ hkind =>
            exact ⟨.scalar true scalar, by simp [outline?, hkind, Outline.listed?], rfl⟩
        | objects _ hbody =>
            obtain ⟨outlines, houtlines, rfl⟩ := (FollowsOutline.propertyItems ih).mp hbody
            exact ⟨.object true outlines, by simp [outline?, houtlines, Outline.listed?], rfl⟩
      · rintro ⟨outline, houtline, rfl⟩
        obtain ⟨inner, hinner, hlisted⟩ := Option.bind_eq_some_iff.mp houtline
        rcases Outline.listed?_eq_some_iff.mp hlisted with ⟨scalar, rfl, rfl⟩ | ⟨outlines, rfl, rfl⟩
        · obtain ⟨kind, inner, rfl, hkind⟩ := eq_primitive_of_outline hinner
          exact .scalars inner source hkind
        · obtain ⟨properties, names, rfl, houtlines⟩ := eq_object_of_outline hinner
          exact .objects source ((FollowsOutline.propertyItems ih).mpr ⟨_, houtlines, rfl⟩)
  | union variants ih =>
      constructor
      · intro h
        cases h with
        | union hchoices =>
            obtain ⟨outlines, houtlines, rfl⟩ := (choiceItems_eq_ok_iff ih).mp hchoices
            exact ⟨.union outlines, by simp [outline?, houtlines], rfl⟩
      · rintro ⟨outline, houtline, rfl⟩
        obtain ⟨outlines, houtlines, rfl⟩ := Option.map_eq_some_iff.mp houtline
        exact .union ((choiceItems_eq_ok_iff ih).mpr ⟨outlines, houtlines, rfl⟩)
  | any =>
      constructor
      · intro h
        cases h
        exact ⟨.any, rfl, rfl⟩
      · rintro ⟨_, ⟨⟩, rfl⟩
        exact .any
  | unrecognized source =>
      constructor
      · intro h
        cases h
      · rintro ⟨_, ⟨⟩, _⟩

/-- A schema has a translation exactly if it has an outline, and then it is that of the outline. -/
theorem items_eq_ok_iff_outline {schema : Schema} {name : String} {index : Nat} {required : Bool}
    {body : List Item} :
    (items name index required schema).result = .ok body ↔
      ∃ outline, schema.outline? = some outline ∧
        body = outline.items name index (outline.marks required) :=
  items_eq_ok_iff.trans (schema.followsOutline name index required body)

end Schema

/-- The outlines of the properties of an object, if they all have one. -/
def ObjectSchema.outline? (shape : ObjectSchema) : Option (List (String × Bool × Outline)) :=
  Schema.propertyOutlines? shape.required shape.properties

/-- An object has a message exactly if its properties have outlines. -/
theorem ObjectSchema.message_eq_ok_iff_outline {name : String} {shape : ObjectSchema}
    {message : Message} :
    (shape.message name).result = .ok message ↔
      ∃ outlines, shape.outline? = some outlines ∧
        message = ⟨name, Outline.propertyItems 0 outlines⟩ := by
  rw [message_eq_ok_iff]
  simp only [Schema.propertyItems_eq_ok_iff fun property _ => property.2.followsOutline]
  constructor
  · rintro ⟨_, ⟨outlines, houtlines, rfl⟩, rfl⟩
    exact ⟨outlines, houtlines, rfl⟩
  · rintro ⟨outlines, houtlines, rfl⟩
    exact ⟨_, ⟨outlines, houtlines, rfl⟩, rfl⟩

end RouteIdl
