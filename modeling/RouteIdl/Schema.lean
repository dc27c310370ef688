import RouteIdl.Json.Value
import RouteIdl.NameSet

/-!
# Schemas

The shape that a JSON schema describes. The keywords of a schema object are looked at in a fixed
order: an object type, an array type with items, a list of alternatives, no keyword at all, and any
other type. Whatever fits none of these is kept as it is, so that it can be reported.
-/

namespace RouteIdl

/-- The shape that a schema describes. -/
inductive Schema where
  /-- A value of a named kind, with the schema as written. -/
  | primitive (kind : String) (source : Json)
  /-- An object with named properties, of which some are required. -/
  | object (properties : List (String × Schema)) (required : NameSet)
  /-- A list of values of one shape, with the schema as written. -/
  | array (items : Schema) (source : Json)
  /-- A value of exactly one of several shapes. -/
  | union (variants : List Schema)
  /-- Any value. -/
  | any
  /-- No known shape, with the schema as written. -/
  | unrecognized (source : Json)
  deriving Inhabited

/-- The shape of an object. -/
structure ObjectSchema where
  /-- The properties, in order of declaration. -/
  properties : List (String × Schema)
  /-- The names that are required. -/
  required : NameSet

/-- The object shape as a schema. -/
def ObjectSchema.toSchema (shape : ObjectSchema) : Schema :=
  .object shape.properties shape.required

namespace Schema

/-- The type that the keywords of a schema declare. -/
def typeKeyword? (members : List (String × Json)) : Option String :=
  (members.lookup "type").bind Json.text?

/-- The names in a list of required names; entries that are not strings do not count. -/
def requiredNames (keyword : Option Json) : List String :=
  ((keyword.bind Json.elements?).getD []).filterMap Json.text?

mutual

/-- The shape that a schema describes. -/
def ofJson : Json → Schema
  | .object members =>
      match typeKeyword? members with
      | some "object" =>
          .object (propertiesKeyword members)
            (NameSet.ofList (requiredNames (members.lookup "required")))
      | some "array" =>
          match itemsKeyword members with
          | some items => .array items (.object members)
          | none => .unrecognized (.object members)
      | declared =>
          match oneOfKeyword members with
          | some variants => .union variants
          | none =>
              if members.isEmpty then .any
              else
                match declared with
                | some kind => .primitive kind (.object members)
                | none => .unrecognized (.object members)
  | other => .unrecognized other

/-- The shapes under the first properties keyword, if it holds an object. -/
def propertiesKeyword : List (String × Json) → List (String × Schema)
  | [] => []
  | (key, value) :: rest =>
      if key = "properties" then propertiesOf value else propertiesKeyword rest

/-- The shapes of the members of an object. -/
def propertiesOf : Json → List (String × Schema)
  | .object members => ofMembers members
  | _ => []

/-- The shape of each member. -/
def ofMembers : List (String × Json) → List (String × Schema)
  | [] => []
  | (key, value) :: rest => (key, ofJson value) :: ofMembers rest

/-- The shape under the first items keyword. -/
def itemsKeyword : List (String × Json) → Option Schema
  | [] => none
  | (key, value) :: rest => if key = "items" then some (ofJson value) else itemsKeyword rest

/-- The shapes under the first oneOf keyword, if it holds a list. -/
def oneOfKeyword : List (String × Json) → Option (List Schema)
  | [] => none
  | (key, value) :: rest => if key = "oneOf" then variantsOf value else oneOfKeyword rest

/-- The shapes of the elements of a list. -/
def variantsOf : Json → Option (List Schema)
  | .array elements => some (ofElements elements)
  | _ => none

/-- The shape of each element. -/
def ofElements : List Json → List Schema
  | [] => []
  | element :: rest => ofJson element :: ofElements rest

end

/-- The type a schema was declared with. -/
def declaredType? : Schema → Option String
  | primitive kind _ => some kind
  | object _ _ => some "object"
  | array _ _ => some "array"
  | union _ => none
  | any => none
  | unrecognized source => (source.member? "type").bind Json.text?

mutual

/-- The schema as diagnostics show it: as written, or put together again from its parts. -/
def toJson : Schema → Json
  | primitive _ source => source
  | object properties required =>
      .object
        [("type", .string "object"),
          ("properties", .object (toMembers properties)),
          ("required", .array (required.toList.map .string))]
  | array _ source => source
  | union variants => .object [("oneOf", .array (toElements variants))]
  | any => .object []
  | unrecognized source => source

/-- Each property as diagnostics show it. -/
def toMembers : List (String × Schema) → List (String × Json)
  | [] => []
  | (name, schema) :: rest => (name, schema.toJson) :: toMembers rest

/-- Each variant as diagnostics show it. -/
def toElements : List Schema → List Json
  | [] => []
  | schema :: rest => schema.toJson :: toElements rest

end

theorem ofMembers_eq_map (members : List (String × Json)) :
    ofMembers members = members.map fun member => (member.1, ofJson member.2) := by
  induction members with
  | nil => rfl
  | cons member rest ih => simp [ofMembers, ih]

theorem ofElements_eq_map (elements : List Json) : ofElements elements = elements.map ofJson := by
  induction elements with
  | nil => rfl
  | cons element rest ih => simp [ofElements, ih]

theorem toMembers_eq_map (properties : List (String × Schema)) :
    toMembers properties = properties.map fun property => (property.1, property.2.toJson) := by
  induction properties with
  | nil => rfl
  | cons property rest ih => simp [toMembers, ih]

theorem toElements_eq_map (variants : List Schema) :
    toElements variants = variants.map toJson := by
  induction variants with
  | nil => rfl
  | cons variant rest ih => simp [toElements, ih]

end Schema

/-- The object shape that the keywords of a schema describe, whatever type they declare. -/
def ObjectSchema.ofMembers (members : List (String × Json)) : ObjectSchema where
  properties := Schema.propertiesKeyword members
  required := NameSet.ofList (Schema.requiredNames (members.lookup "required"))

end RouteIdl
