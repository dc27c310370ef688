import RouteIdl.Json.Record

/-!
# Settings

What one compilation is configured with, and the JSON form of it. Every component has a default.
-/

namespace RouteIdl

/-- How a required field is marked in the document. -/
inductive PresenceStyle where
  /-- By a word before the type. -/
  | label
  /-- By an option after the number. -/
  | fieldOption
  /-- By a comment at the end of the line. -/
  | comment
  deriving DecidableEq

/-- What to do with a route whose RPC name occurred before. -/
inductive DuplicatePolicy where
  /-- Declare both and log a warning. -/
  | allow
  /-- Refuse the route. -/
  | reject
  deriving DecidableEq

/-- The settings of one compilation. -/
structure Settings where
  /-- The name of the service, if it is configured. -/
  serviceName : Option String := none
  /-- The status whose response schema is used. -/
  responseStatus : String := "200"
  /-- The visibility of routes that do not declare one. -/
  defaultVisibility : String := "internal"
  /-- How required fields are marked. -/
  presence : PresenceStyle := .label
  /-- What to do with repeated RPC names. -/
  duplicates : DuplicatePolicy := .allow
  /-- The name of the log level. -/
  logLevel : String := "info"
  deriving DecidableEq

/-- The names of the presence styles. -/
def PresenceStyle.names : List (String × PresenceStyle) :=
  [("label", .label), ("field_option", .fieldOption), ("comment", .comment)]

/-- The name of a presence style. -/
def PresenceStyle.name : PresenceStyle → String
  | label => "label"
  | fieldOption => "field_option"
  | comment => "comment"

/-- The names of the policies. -/
def DuplicatePolicy.names : List (String × DuplicatePolicy) :=
  [("allow", .allow), ("reject", .reject)]

/-- The name of a policy. -/
def DuplicatePolicy.name : DuplicatePolicy → String
  | allow => "allow"
  | reject => "reject"

namespace Settings

/-- The JSON form of a text that may be absent. -/
def optionalText : Option String → Json
  | none => .null
  | some text => .string text

/-- The JSON form of settings. -/
def toJson (settings : Settings) : Json :=
  .object
    [("service_name", optionalText settings.serviceName),
      ("response_status", .string settings.responseStatus),
      ("default_visibility", .string settings.defaultVisibility),
      ("presence", .string settings.presence.name),
      ("duplicate_rpc_names", .string settings.duplicates.name),
      ("log_level", .string settings.logLevel)]

/-- The entries of settings in a record. -/
def entries (room : Nat) : List (Json.Entry Settings) :=
  [.of "service_name" false (Json.optional Json.stringValue)
      fun settings name => { settings with serviceName := name },
    .of "response_status" false Json.stringValue
      fun settings status => { settings with responseStatus := status },
    .of "default_visibility" false Json.stringValue
      fun settings visibility => { settings with defaultVisibility := visibility },
    .of "presence" false (Json.nameValue PresenceStyle.names room)
      fun settings style => { settings with presence := style },
    .of "duplicate_rpc_names" false (Json.nameValue DuplicatePolicy.names room)
      fun settings policy => { settings with duplicates := policy },
    .of "log_level" false Json.stringValue
      fun settings level => { settings with logLevel := level }]

/-- Read settings. -/
def reader (room : Nat) : Json.Reader Settings :=
  Json.record "CompilerConfig" entries {} room

/-- The settings that a text stands for. -/
def ofText (text : String) : Except Json.Fault Settings :=
  Json.whole (reader Json.nestingLimit) (Json.Symbol.ofText text)

end Settings

end RouteIdl
