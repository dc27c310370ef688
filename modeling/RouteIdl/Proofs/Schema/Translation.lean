import RouteIdl.Schema.Items

/-!
# Successful translations

What a schema that has a translation is translated to, shape by shape. Objects, lists of objects and
unions contribute a message and then the field that refers to it; all other shapes contribute a
field alone.
-/

namespace RouteIdl

open Idl
open Traced (result_bind_eq_ok result_report_bind)

namespace Schema

/-- Induction over schemas, with a hypothesis for every property of an object and for every variant
of a union. -/
@[elab_as_elim, induction_eliminator]
theorem induct {motive : Schema → Prop}
    (primitive : ∀ kind source, motive (.primitive kind source))
    (object : ∀ properties required, (∀ property ∈ properties, motive property.2) →
      motive (.object properties required))
    (array : ∀ items source, motive items → motive (.array items source))
    (union : ∀ variants, (∀ variant ∈ variants, motive variant) → motive (.union variants))
    (any : motive .any) (unrecognized : ∀ source, motive (.unrecognized source))
    (schema : Schema) : motive schema :=
  @Schema.rec motive
    (fun properties => ∀ property ∈ properties, motive property.2)
    (fun variants => ∀ variant ∈ variants, motive variant)
    (fun property => motive property.2)
    primitive object array union any unrecognized
    (fun _ h => nomatch h)
    (fun _ _ hhead htail => List.forall_mem_cons.mpr ⟨hhead, htail⟩)
    (fun _ h => nomatch h)
    (fun _ _ hhead htail => List.forall_mem_cons.mpr ⟨hhead, htail⟩)
    (fun _ _ h => h) schema

/-- The items that each shape contributes under a name, given those of its parts. -/
inductive Yields (name : String) (index : Nat) (required : Bool) : Schema → List Item → Prop where
  | scalar {kind : String} {scalar : Scalar} (source : Json)
      (hkind : Scalar.ofKind? kind = some scalar) :
      Yields name index required (.primitive kind source)
        [.field ⟨name, index, scalar.name, false, required⟩]
  | scalars {kind : String} {scalar : Scalar} (inner source : Json)
      (hkind : Scalar.ofKind? kind = some scalar) :
      Yields name index required (.array (.primitive kind inner) source)
        [.field ⟨name, index, scalar.name, true, required⟩]
  | object {properties : List (String × Schema)} {names : NameSet} {body : List Item}
      (hbody : (propertyItems names 0 properties).result = .ok body) :
      Yields name index required (.object properties names)
        [.message (Identifier.nested name) body,
          .field ⟨name, index, Identifier.nested name, false, required⟩]
  | objects {properties : List (String × Schema)} {names : NameSet} {body : List Item}
      (source : Json) (hbody : (propertyItems names 0 properties).result = .ok body) :
      Yields name index required (.array (.object properties names) source)
        [.message (Identifier.nested name) body,
          .field ⟨name, index, Identifier.nested name, true, required⟩]
  | union {variants : List Schema} {choices : List Item}
      (hchoices : (choiceItems 0 variants).result = .ok choices) :
      Yields name index required (.union variants) (unionItems name index required choices)
  | any : Yields name index required .any [.field ⟨name, index, anyType, false, false⟩]

variable {name kind : String} {source : Json} {index : Nat} {required : Bool} {body : List Item}

theorem scalarType_eq_ok_iff {type : String} :
    (scalarType name kind source).result = .ok type ↔
      ∃ scalar, Scalar.ofKind? kind = some scalar ∧ type = scalar.name := by
  unfold scalarType
  cases Scalar.ofKind? kind <;> simp [eq_comm]

/-- A schema has a translation exactly if its shape yields one. -/
theorem items_eq_ok_iff {schema : Schema} :
    (items name index required schema).result = .ok body ↔
      Yields name index required schema body := by
  constructor
  · intro h
    unfold items at h
    split at h <;> rw [result_report_bind] at h
    next =>
      obtain ⟨inner, hinner, h⟩ := result_bind_eq_ok.mp h
      cases h
      exact .object hinner
    next =>
      obtain ⟨inner, hinner, h⟩ := result_bind_eq_ok.mp h
      cases h
      exact .objects _ hinner
    next =>
      obtain ⟨type, htype, h⟩ := result_bind_eq_ok.mp h
      obtain ⟨scalar, hkind, rfl⟩ := scalarType_eq_ok_iff.mp htype
      cases h
      exact .scalars _ _ hkind
    next => cases h
    next =>
      obtain ⟨choices, hchoices, h⟩ := result_bind_eq_ok.mp h
      cases h
      exact .union hchoices
    next =>
      cases h
      exact .any
    next =>
      obtain ⟨type, htype, h⟩ := result_bind_eq_ok.mp h
      obtain ⟨scalar, hkind, rfl⟩ := scalarType_eq_ok_iff.mp htype
      cases h
      exact .scalar _ hkind
    next => cases h
  · intro h
    cases h with
    | scalar source hkind =>
        rw [items, result_report_bind]
        exact result_bind_eq_ok.mpr ⟨_, scalarType_eq_ok_iff.mpr ⟨_, hkind, rfl⟩, rfl⟩
    | scalars inner source hkind =>
        rw [items, result_report_bind]
        exact result_bind_eq_ok.mpr ⟨_, scalarType_eq_ok_iff.mpr ⟨_, hkind, rfl⟩, rfl⟩
    | object hbody =>
        rw [items, result_report_bind]
        exact result_bind_eq_ok.mpr ⟨_, hbody, rfl⟩
    | objects source hbody =>
        rw [items, result_report_bind]
        exact result_bind_eq_ok.mpr ⟨_, hbody, rfl⟩
    | union hchoices =>
        rw [items, result_report_bind]
        exact result_bind_eq_ok.mpr ⟨_, hchoices, rfl⟩
    | any => rw [items, result_report_bind]; rfl

/-- Properties contribute one after the other. -/
theorem propertyItems_cons_eq_ok_iff {names : NameSet} {schema : Schema}
    {rest : List (String × Schema)} :
    (propertyItems names index ((name, schema) :: rest)).result = .ok body ↔
      ∃ first others, Yields name index (name ∈ names) schema first ∧
        (propertyItems names (index + 1) rest).result = .ok others ∧ body = first ++ others := by
  simp only [propertyItems, result_bind_eq_ok, items_eq_ok_iff, Traced.result_pure,
    Except.ok.injEq]
  constructor
  · rintro ⟨first, hfirst, others, hothers, rfl⟩
    exact ⟨first, others, hfirst, hothers, rfl⟩
  · rintro ⟨first, others, hfirst, hothers, rfl⟩
    exact ⟨first, hfirst, others, hothers, rfl⟩

/-- Variants contribute one after the other, none of them required. -/
theorem choiceItems_cons_eq_ok_iff {variant : Schema} {rest : List Schema} :
    (choiceItems index (variant :: rest)).result = .ok body ↔
      ∃ first others, Yields (choiceName index variant) index false variant first ∧
        (choiceItems (index + 1) rest).result = .ok others ∧ body = first ++ others := by
  simp only [choiceItems, result_bind_eq_ok, items_eq_ok_iff, Traced.result_pure,
    Except.ok.injEq]
  constructor
  · rintro ⟨first, hfirst, others, hothers, rfl⟩
    exact ⟨first, others, hfirst, hothers, rfl⟩
  · rintro ⟨first, others, hfirst, hothers, rfl⟩
    exact ⟨first, hfirst, others, hothers, rfl⟩

/-- Named schemas, each with whether it is required, contribute one after the other and are numbered
from a position on. -/
inductive YieldsAll : Nat → List (String × Bool × Schema) → List Item → Prop where
  | nil {index : Nat} : YieldsAll index [] []
  | cons {index : Nat} {name : String} {required : Bool} {schema : Schema}
      {rest : List (String × Bool × Schema)} {first others : List Item}
      (hfirst : Yields name index required schema first)
      (hothers : YieldsAll (index + 1) rest others) :
      YieldsAll index ((name, required, schema) :: rest) (first ++ others)

/-- The properties of an object, with whether it requires them. -/
def propertyParts (names : NameSet) (properties : List (String × Schema)) :
    List (String × Bool × Schema) :=
  properties.map fun property => (property.1, decide (property.1 ∈ names), property.2)

/-- The variants of a union, the first of them at a given position, with the names of their choices.
None of them is required. -/
def choiceParts (position : Nat) (variants : List Schema) : List (String × Bool × Schema) :=
  (variants.zipIdx position).map fun entry => (choiceName entry.2 entry.1, false, entry.1)

theorem propertyItems_yieldsAll {names : NameSet} {properties : List (String × Schema)}
    (h : (propertyItems names index properties).result = .ok body) :
    YieldsAll index (propertyParts names properties) body := by
  induction properties generalizing index body with
  | nil =>
      cases h
      exact .nil
  | cons property rest ih =>
      obtain ⟨name, schema⟩ := property
      obtain ⟨first, others, hfirst, hothers, rfl⟩ := propertyItems_cons_eq_ok_iff.mp h
      exact .cons hfirst (ih hothers)

theorem choiceItems_yieldsAll {variants : List Schema}
    (h : (choiceItems index variants).result = .ok body) :
    YieldsAll index (choiceParts index variants) body := by
  induction variants generalizing index body with
  | nil =>
      cases h
      exact .nil
  | cons variant rest ih =>
      obtain ⟨first, others, hfirst, hothers, rfl⟩ := choiceItems_cons_eq_ok_iff.mp h
      exact .cons hfirst (ih hothers)

/-- Every one of the named schemas contributes. -/
theorem YieldsAll.exists_yields {parts : List (String × Bool × Schema)}
    (h : YieldsAll index parts body) :
    ∀ part ∈ parts, ∃ position items, Yields part.1 position part.2.1 part.2.2 items := by
  induction h with
  | nil => exact List.forall_mem_nil _
  | cons hfirst _ ih => exact List.forall_mem_cons.mpr ⟨⟨_, _, hfirst⟩, ih⟩

end Schema

theorem ObjectSchema.message_eq_ok_iff {name : String} {shape : ObjectSchema} {message : Message} :
    (shape.message name).result = .ok message ↔
      ∃ body, (Schema.propertyItems shape.required 0 shape.properties).result = .ok body ∧
        message = ⟨name, body⟩ := by
  unfold ObjectSchema.message
  rw [result_bind_eq_ok]
  simp [eq_comm]

end RouteIdl
