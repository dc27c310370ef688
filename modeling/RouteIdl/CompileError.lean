import RouteIdl.Json.Printer

/-!
# Compilation errors

Why a compilation yields no document. The first error ends it.
-/

namespace RouteIdl

/-- Why a compilation yields no document. -/
inductive CompileError where
  /-- No service name is configured and the API document has no title, or the name is empty. -/
  | missingServiceName
  /-- Nobody was named to receive the document. -/
  | missingHandler
  /-- The schema of a field has no counterpart in a message. -/
  | invalidProperty (field : String) (schema : Json)
  /-- Two routes have one RPC name, and the settings reject that. -/
  | duplicateRpc (name : String)

namespace CompileError

/-- The number by which a caller recognizes the error. -/
def code : CompileError → Nat
  | missingServiceName => 1
  | missingHandler => 2
  | invalidProperty _ _ => 3
  | duplicateRpc _ => 4

/-- The text of the error. -/
def message : CompileError → String
  | missingServiceName =>
      "missing service name: configure one or supply a document with a title"
  | missingHandler => "missing callback: a completion handler is required"
  | invalidProperty field schema =>
      "invalid property type for '" ++ field ++ "': " ++ schema.text
  | duplicateRpc name => "duplicate rpc name: " ++ name

end CompileError

end RouteIdl
