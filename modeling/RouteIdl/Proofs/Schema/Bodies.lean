import Mathlib.Data.List.Forall2
import RouteIdl.Proofs.Schema.Translation

/-!
# Bodies of messages

The lists of items that make up a message, at every depth, and what of a schema each of them comes
from. The bodies that a schema calls for are listed in the order in which they are opened, so that a
statement about all bodies of a message is one about the properties of an object or the variants of
a union.
-/

namespace RouteIdl

namespace Idl

/-- A list of items at some depth of a message, by what encloses it. -/
inductive Body where
  | message (items : List Item)
  | oneOf (items : List Item)

namespace Body

/-- The items that stand directly in a body. -/
def items : Body → List Item
  | message items => items
  | oneOf items => items

end Body

/-- The field that an item is. -/
def Item.field? : Item → Option Field
  | .field found => some found
  | _ => none

/-- The name of the message that an item is. -/
def Item.messageName? : Item → Option String
  | .message name _ => some name
  | _ => none

/-- The fields that stand directly in a list of items. -/
def fieldsOf (items : List Item) : List Field :=
  items.filterMap Item.field?

/-- The names of the messages that stand directly in a list of items. -/
def messageNamesOf (items : List Item) : List String :=
  items.filterMap Item.messageName?

/-- The fields that stand directly in a body. -/
def Body.fields (body : Body) : List Field :=
  fieldsOf body.items

/-- The names of the messages that stand directly in a body. -/
def Body.messageNames (body : Body) : List String :=
  messageNamesOf body.items

mutual

/-- The bodies of an item, each before those inside it. -/
def Item.bodies : Item → List Body
  | .field _ => []
  | .message _ items => .message items :: itemBodies items
  | .oneOf _ items => .oneOf items :: itemBodies items

/-- The bodies of several items. -/
def itemBodies : List Item → List Body
  | [] => []
  | item :: rest => item.bodies ++ itemBodies rest

end

/-- The bodies of a message, its own first. -/
def Message.bodies (message : Message) : List Body :=
  message.toItem.bodies

end Idl

open Idl

/-- What a body comes from. -/
inductive Origin where
  /-- The properties of an object. -/
  | object (shape : ObjectSchema)
  /-- The variants of a union. -/
  | choices (variants : List Schema)
  /-- A union, for the message that wraps its choices. -/
  | wrapper
  /-- A union, for the message that lists its wrapped values. -/
  | listing
  /-- A response that is not an object. -/
  | value (schema : Schema)
  /-- A response without a description. -/
  | nothing

/-- A body is the translation of what it comes from. -/
inductive Origin.Gives : Origin → Body → Prop where
  | object {shape : ObjectSchema} {items : List Item}
      (hitems : (Schema.propertyItems shape.required 0 shape.properties).result = .ok items) :
      Gives (.object shape) (.message items)
  | choices {variants : List Schema} {items : List Item}
      (hitems : (Schema.choiceItems 0 variants).result = .ok items) :
      Gives (.choices variants) (.oneOf items)
  | wrapper (name : String) (choices listing : List Item) :
      Gives .wrapper (.message [.oneOf "types" choices, .message name listing])
  | listing (name : String) :
      Gives .listing (.message [.field ⟨name, 0, Identifier.oneOf name, true, false⟩])
  | value {schema : Schema} {items : List Item}
      (hitems : (schema.items "value" 0 false).result = .ok items) :
      Gives (.value schema) (.message items)
  | nothing : Gives .nothing (.message [])

namespace Schema

mutual

/-- What the bodies in the translation of a schema come from. A list has those of its items. -/
def origins : Schema → List Origin
  | .object properties required => .object ⟨properties, required⟩ :: propertyOrigins properties
  | .array items _ => items.origins
  | .union variants => .wrapper :: .choices variants :: (variantOrigins variants ++ [.listing])
  | _ => []

/-- What the bodies of properties come from. -/
def propertyOrigins : List (String × Schema) → List Origin
  | [] => []
  | (_, schema) :: rest => schema.origins ++ propertyOrigins rest

/-- What the bodies of variants come from. -/
def variantOrigins : List Schema → List Origin
  | [] => []
  | variant :: rest => variant.origins ++ variantOrigins rest

end

theorem propertyOrigins_eq_flatMap (properties : List (String × Schema)) :
    propertyOrigins properties = properties.flatMap fun property => property.2.origins := by
  induction properties with
  | nil => rfl
  | cons property rest ih => rw [propertyOrigins, ih, List.flatMap_cons]

theorem variantOrigins_eq_flatMap (variants : List Schema) :
    variantOrigins variants = variants.flatMap origins := by
  induction variants with
  | nil => rfl
  | cons variant rest ih => rw [variantOrigins, ih, List.flatMap_cons]

end Schema

/-- What the bodies in the message of an object come from, the object itself first. -/
def ObjectSchema.origins (shape : ObjectSchema) : List Origin :=
  .object shape :: Schema.propertyOrigins shape.properties

end RouteIdl
