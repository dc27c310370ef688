import RouteIdl.Route
import RouteIdl.Schema

/-!
# Request parameters

The properties that the request schemas of a route declare, merged. A property that is declared
more than once keeps the place of its first declaration and has the schema of its last one.
-/

namespace RouteIdl

/-- Merged request parameters. -/
structure Params where
  /-- The schema of each property, in the order of first declaration. -/
  properties : List (String × Json) := []
  /-- The names that are required. -/
  required : NameSet := ∅

namespace Params

/-- Add the properties and the required names of one schema. -/
def absorb (params : Params) (slot : Json) : Params where
  properties :=
    (((slot.member? "properties").bind Json.members?).getD []).foldl
      (fun properties property => Json.put properties property.1 property.2) params.properties
  required := params.required.insertAll (Schema.requiredNames (slot.member? "required"))

/-- The parameters of a route: body, then path, then query string. -/
def ofRoute (route : Route) : Params :=
  ((route.schema.map RouteSchema.requestSlots).getD []).foldl absorb {}

/-- Whether no property is declared. -/
def isEmpty (params : Params) : Bool :=
  params.properties.isEmpty

/-- The parameters as the shape of an object. -/
def toObjectSchema (params : Params) : ObjectSchema where
  properties := params.properties.map fun property => (property.1, Schema.ofJson property.2)
  required := params.required

end Params

end RouteIdl
