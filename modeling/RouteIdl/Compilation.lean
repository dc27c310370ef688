import RouteIdl.Idl.Layout
import RouteIdl.Params
import RouteIdl.Schema.Items
import RouteIdl.ServiceName

/-!
# Compilation

A list of routes becomes one document: for each route, in order, its request message, its response
message and its remote procedure. The first error ends the compilation.
-/

namespace RouteIdl

open Idl

namespace Route

/-- The RPC name of a route. -/
def rpcName (route : Route) : String :=
  Identifier.rpc route.method route.url

/-- The remote procedure of a route with the given name and merged parameters. Its messages are
those that the route contributes; without them, well-known types take their place. -/
def rpc (route : Route) (name : String) (params : Params) (service : String)
    (settings : Settings) : Rpc where
  name := name
  request := if params.isEmpty then emptyType else Identifier.request name
  response := if route.schema.isSome then Identifier.response name else textType
  url := "/" ++ service ++ route.url
  method := route.method
  timeout := 5000
  visibility := route.effectiveVisibility settings
  body := if route.hasRequestBody then some "request" else none

/-- The request message of a route, if it has parameters. -/
def requestMessages (name : String) (params : Params) : Traced (List Message) :=
  if params.isEmpty then pure []
  else do
    let message ← params.toObjectSchema.message (Identifier.request name)
    pure [message]

/-- The response message for a response schema. An object gives its properties, an absent or empty
schema nothing, and any other schema one field that holds the value. -/
def responseMessage (name : String) (schema : Option Json) : Traced Message :=
  match schema.map Schema.ofJson with
  | none => pure ⟨Identifier.response name, []⟩
  | some .any => pure ⟨Identifier.response name, []⟩
  | some (.object properties required) =>
      ObjectSchema.message (Identifier.response name) ⟨properties, required⟩
  | some other => do
      let items ← other.items "value" 0 false
      pure ⟨Identifier.response name, items⟩

/-- The response message of a route, if it declares schemas. -/
def responseMessages (route : Route) (name : String) (settings : Settings) :
    Traced (List Message) :=
  match route.schema with
  | none => pure []
  | some schema => do
      let message ← responseMessage name (schema.responseFor? settings.responseStatus)
      pure [message]

/-- Take note of an RPC name that occurred before, or refuse it. -/
def noteName (route : Route) (seen : List String) (settings : Settings) : Traced Unit :=
  if route.rpcName ∈ seen then
    match settings.duplicates with
    | .allow => Traced.report (.duplicateRpc route.rpcName route.url)
    | .reject => Traced.fail (.duplicateRpc route.rpcName)
  else pure ()

/-- What a route contributes to the document, after routes with the given RPC names. -/
def compile (route : Route) (seen : List String) (service : String) (settings : Settings) :
    Traced (List Message × Rpc) := do
  Traced.report (.routeStarted route.method route.url route.rpcName)
  route.noteName seen settings
  let params := Params.ofRoute route
  let request ← requestMessages route.rpcName params
  let response ← route.responseMessages route.rpcName settings
  pure (request ++ response, route.rpc route.rpcName params service settings)

/-- What routes contribute to the document, after routes with the given RPC names. -/
def compileAll (service : String) (settings : Settings) :
    List String → List Route → Traced (List Message × List Rpc)
  | _, [] => pure ([], [])
  | seen, route :: rest => do
      let (messages, rpc) ← route.compile seen service settings
      let (others, rpcs) ← compileAll service settings (route.rpcName :: seen) rest
      pure (messages ++ others, rpc :: rpcs)

end Route

/-- Compile routes into a document. -/
def compile (routes : List Route) (name : ServiceName) (settings : Settings) :
    Traced Document := do
  let service ← Traced.ofExcept name.resolve
  Traced.report (.passStarted service routes.length)
  let (messages, rpcs) ← Route.compileAll service settings [] routes
  Traced.report (.passFinished service messages.length rpcs.length)
  pure ⟨messages, Service.sole service rpcs⟩

/-- Compile routes into the text of a document. -/
def compileText (routes : List Route) (name : ServiceName) (settings : Settings) :
    Traced String := do
  let document ← compile routes name settings
  pure (document.text settings.presence)

end RouteIdl
