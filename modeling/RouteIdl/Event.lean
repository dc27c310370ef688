import RouteIdl.Json.Printer
import RouteIdl.Log.Record

/-!
# Events

What a compilation reports while it runs, and the log record of each report.
-/

namespace RouteIdl

/-- A step of a compilation that is worth a log record. -/
inductive Event where
  /-- A compilation begins. -/
  | passStarted (service : String) (routes : Nat)
  /-- A route is taken up. -/
  | routeStarted (method url rpc : String)
  /-- The RPC name of a route occurred before. -/
  | duplicateRpc (rpc url : String)
  /-- The schema of a property or choice is taken up. -/
  | propertyStarted (field : String) (index : Nat) (required : Bool) (schema : Json)
  /-- A compilation has succeeded. -/
  | passFinished (service : String) (messages rpcs : Nat)
  /-- A host has registered a route. -/
  | routeRegistered (method url : String)
  /-- The document has been written to a file. -/
  | documentWritten (path : String)

namespace Event

/-- The target of reports on a compilation as a whole. -/
def documentTarget : String := "routeproto_core::document"

/-- The target of reports on properties. -/
def messageTarget : String := "routeproto_core::message"

/-- The target of reports on registered routes. -/
def generatorTarget : String := "routeproto_core::generator"

/-- The target of reports of the command line. -/
def commandTarget : String := "routeproto::compile"

/-- The log record of an event. -/
def record : Event → Log.Record
  | passStarted service routes =>
      ⟨.debug, documentTarget, [(Log.messageField, "starting compilation pass"),
        ("service", service), ("routes", toString routes)]⟩
  | routeStarted method url rpc =>
      ⟨.debug, documentTarget, [(Log.messageField, "compiling route"),
        ("method", method), ("url", url), ("rpc", rpc)]⟩
  | duplicateRpc rpc url =>
      ⟨.warn, documentTarget, [(Log.messageField, "duplicate rpc name"),
        ("rpc", rpc), ("url", url)]⟩
  | propertyStarted field index required schema =>
      ⟨.trace, messageTarget, [(Log.messageField, "compiling property"),
        ("field", field), ("index", toString index),
        ("required", if required then "true" else "false"), ("schema", schema.text)]⟩
  | passFinished service messages rpcs =>
      ⟨.info, documentTarget, [(Log.messageField, "compilation pass finished"),
        ("service", service), ("messages", toString messages), ("rpcs", toString rpcs)]⟩
  | routeRegistered method url =>
      ⟨.debug, generatorTarget, [(Log.messageField, "route registered"),
        ("method", method), ("url", url)]⟩
  | documentWritten path =>
      ⟨.info, commandTarget, [(Log.messageField, "document written"), ("path", path)]⟩

end Event

end RouteIdl
