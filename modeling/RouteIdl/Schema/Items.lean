import RouteIdl.Identifier
import RouteIdl.Idl.Declaration
import RouteIdl.Schema
import RouteIdl.Traced

/-!
# Message items of schemas

The items that a named schema contributes to the body of a message: a numbered field, and before it
the message that the field needs if the schema has structure of its own. Numbers are positions in
the enclosing object or union, counted from zero.
-/

namespace RouteIdl

open Idl

namespace Schema

/-- The scalar type of a kind, or the refusal of a field of that kind. -/
def scalarType (name kind : String) (source : Json) : Traced String :=
  match Scalar.ofKind? kind with
  | some scalar => pure scalar.name
  | none => Traced.fail (.invalidProperty name source)

/-- The name of the choice that a variant of a union contributes: the type it declares, else one
made from its position. -/
def choiceName (position : Nat) (variant : Schema) : String :=
  variant.declaredType?.getD ("variant" ++ toString position)

/-- The items of a union: a message that wraps the choices together with a message that lists
wrapped values, and the field that refers to the latter. -/
def unionItems (name : String) (index : Nat) (required : Bool) (choices : List Item) : List Item :=
  let wrapper := Identifier.oneOf name
  [.message wrapper
      [.oneOf "types" choices, .message name [.field ⟨name, 0, wrapper, true, false⟩]],
    .field ⟨name, index, name, false, required⟩]

mutual

/-- The items that a schema contributes under a name. -/
def items (name : String) (index : Nat) (required : Bool) (schema : Schema) : Traced (List Item) :=
  match schema with
  | .object properties names => do
      Traced.report (.propertyStarted name index required (toJson (.object properties names)))
      let body ← propertyItems names 0 properties
      let type := Identifier.nested name
      pure [.message type body, .field ⟨name, index, type, false, required⟩]
  | .array (.object properties names) source => do
      Traced.report (.propertyStarted name index required source)
      let body ← propertyItems names 0 properties
      let type := Identifier.nested name
      pure [.message type body, .field ⟨name, index, type, true, required⟩]
  | .array (.primitive kind _) source => do
      Traced.report (.propertyStarted name index required source)
      let type ← scalarType name kind source
      pure [.field ⟨name, index, type, true, required⟩]
  | .array _ source => do
      Traced.report (.propertyStarted name index required source)
      Traced.fail (.invalidProperty name source)
  | .union variants => do
      Traced.report (.propertyStarted name index required (toJson (.union variants)))
      let choices ← choiceItems 0 variants
      pure (unionItems name index required choices)
  | .any => do
      Traced.report (.propertyStarted name index required (toJson .any))
      pure [.field ⟨name, index, anyType, false, false⟩]
  | .primitive kind source => do
      Traced.report (.propertyStarted name index required source)
      let type ← scalarType name kind source
      pure [.field ⟨name, index, type, false, required⟩]
  | .unrecognized source => do
      Traced.report (.propertyStarted name index required source)
      Traced.fail (.invalidProperty name source)

/-- The items of properties, the first of them at a given position. -/
def propertyItems (required : NameSet) (index : Nat) (properties : List (String × Schema)) :
    Traced (List Item) :=
  match properties with
  | [] => pure []
  | (name, schema) :: rest => do
      let first ← items name index (name ∈ required) schema
      let others ← propertyItems required (index + 1) rest
      pure (first ++ others)

/-- The items of the variants of a union, the first of them at a given position. -/
def choiceItems (position : Nat) (variants : List Schema) : Traced (List Item) :=
  match variants with
  | [] => pure []
  | variant :: rest => do
      let first ← items (choiceName position variant) position false variant
      let others ← choiceItems (position + 1) rest
      pure (first ++ others)

end

end Schema

/-- The message with the properties of an object. -/
def ObjectSchema.message (name : String) (shape : ObjectSchema) : Traced Message := do
  let body ← Schema.propertyItems shape.required 0 shape.properties
  pure ⟨name, body⟩

end RouteIdl
