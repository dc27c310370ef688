import RouteIdl.Json.Record
import RouteIdl.Settings

/-!
# Routes

An HTTP endpoint as it is declared: method, URL template, and the schemas of its input and its
responses, kept as JSON.
-/

namespace RouteIdl

/-- The schemas that a route declares. -/
structure RouteSchema where
  /-- The schema of the request body. -/
  body : Option Json := none
  /-- The schema of the path parameters. -/
  params : Option Json := none
  /-- The schema of the query string. -/
  querystring : Option Json := none
  /-- The schemas of the responses, by status. -/
  response : Option Json := none

/-- An HTTP endpoint. -/
structure Route where
  /-- The HTTP method. -/
  method : String
  /-- The URL template; a colon marks a path parameter. -/
  url : String
  /-- The schemas, if it declares any. -/
  schema : Option RouteSchema := none
  /-- Who may call it, if it declares that. -/
  visibility : Option String := none

namespace RouteSchema

/-- The schemas of the request, in the order in which they are merged. -/
def requestSlots (schema : RouteSchema) : List Json :=
  [schema.body, schema.params, schema.querystring].filterMap id

/-- The schema of the response with a status. -/
def responseFor? (schema : RouteSchema) (status : String) : Option Json :=
  schema.response.bind (·.member? status)

/-- The JSON form of the schemas. -/
def toJson (schema : RouteSchema) : Json :=
  .object
    [("body", schema.body.getD .null), ("params", schema.params.getD .null),
      ("querystring", schema.querystring.getD .null), ("response", schema.response.getD .null)]

/-- The entries of the schemas in a record. -/
def entries (room : Nat) : List (Json.Entry RouteSchema) :=
  [.of "body" false (Json.optional (Json.value room)) fun schema body => { schema with body },
    .of "params" false (Json.optional (Json.value room))
      fun schema params => { schema with params },
    .of "querystring" false (Json.optional (Json.value room))
      fun schema querystring => { schema with querystring },
    .of "response" false (Json.optional (Json.value room))
      fun schema response => { schema with response }]

/-- Read the schemas of a route. -/
def reader (room : Nat) : Json.Reader RouteSchema :=
  Json.record "RouteSchema" entries {} room

/-- The schemas that a text stands for. -/
def ofText (text : String) : Except Json.Fault RouteSchema :=
  Json.whole (reader Json.nestingLimit) (Json.Symbol.ofText text)

end RouteSchema

namespace Route

/-- The methods whose requests carry a body. -/
def bodyMethods : List String := ["post", "put", "patch"]

/-- Whether the requests of a route carry a body. The case of the method does not matter. -/
def hasRequestBody (route : Route) : Bool :=
  bodyMethods.contains (route.method.map Char.toLower)

/-- The visibility of a route under given settings. -/
def effectiveVisibility (route : Route) (settings : Settings) : String :=
  route.visibility.getD settings.defaultVisibility

/-- The JSON form of a route. -/
def toJson (route : Route) : Json :=
  .object
    [("method", .string route.method), ("url", .string route.url),
      ("schema", (route.schema.map RouteSchema.toJson).getD .null),
      ("visibility", Settings.optionalText route.visibility)]

/-- The entries of a route in a record. -/
def entries (room : Nat) : List (Json.Entry Route) :=
  [.of "method" true Json.stringValue fun route method => { route with method },
    .of "url" true Json.stringValue fun route url => { route with url },
    .of "schema" false (Json.optional (RouteSchema.reader room))
      fun route schema => { route with schema },
    .of "visibility" false (Json.optional Json.stringValue)
      fun route visibility => { route with visibility }]

/-- Read a route. -/
def reader (room : Nat) : Json.Reader Route :=
  Json.record "RouteDescriptor" entries ⟨"", "", none, none⟩ room

/-- The route that a text stands for. -/
def ofText (text : String) : Except Json.Fault Route :=
  Json.whole (reader Json.nestingLimit) (Json.Symbol.ofText text)

/-- The routes that a text lists. -/
def listOfSymbols (input : List Json.Symbol) : Except Json.Fault (List Route) :=
  Json.whole (Json.list reader Json.nestingLimit) input

end Route

end RouteIdl
