import RouteIdl.Registration

/-!
# Descriptions for diagnosis

The text that shows a registration, with everything in it, to a person who looks for a fault.
-/

namespace RouteIdl

/-- A list in brackets. -/
def describeList (parts : List String) : String :=
  "[" ++ ", ".intercalate parts ++ "]"

/-- A value that may be absent. -/
def describeOptional {α : Type} (describe : α → String) : Option α → String
  | none => "None"
  | some value => "Some(" ++ describe value ++ ")"

/-- A record with its components by name. -/
def describeFields (title : String) (fields : List (String × String)) (suffix : String) :
    String :=
  title ++ " \x7b " ++
    ", ".intercalate (fields.map fun field => field.1 ++ ": " ++ field.2) ++ suffix ++ " \x7d"

mutual

/-- A JSON value with the kind of each part. -/
def Json.describe : Json → String
  | .null => "Null"
  | .bool value => "Bool(" ++ (if value then "true" else "false") ++ ")"
  | .integer value => "Number(" ++ (Json.integer value).text ++ ")"
  | .float value => "Number(" ++ (Json.float value).text ++ ")"
  | .string value => "String(" ++ Text.quoted value ++ ")"
  | .array elements => "Array " ++ describeList (Json.describeElements elements)
  | .object members =>
      "Object \x7b" ++ ", ".intercalate (Json.describeMembers members) ++ "\x7d"

/-- The elements of an array. -/
def Json.describeElements : List Json → List String
  | [] => []
  | element :: rest => element.describe :: Json.describeElements rest

/-- The members of an object. -/
def Json.describeMembers : List (String × Json) → List String
  | [] => []
  | (key, value) :: rest =>
      (Text.quoted key ++ ": " ++ value.describe) :: Json.describeMembers rest

end

/-- The name of a presence style. -/
def PresenceStyle.describe : PresenceStyle → String
  | label => "Label"
  | fieldOption => "FieldOption"
  | comment => "Comment"

/-- The name of a policy. -/
def DuplicatePolicy.describe : DuplicatePolicy → String
  | allow => "Allow"
  | reject => "Reject"

/-- The settings. -/
def Settings.describe (settings : Settings) : String :=
  describeFields "CompilerConfig"
    [("service_name", describeOptional Text.quoted settings.serviceName),
      ("response_status", Text.quoted settings.responseStatus),
      ("default_visibility", Text.quoted settings.defaultVisibility),
      ("presence", settings.presence.describe),
      ("duplicate_rpc_names", settings.duplicates.describe),
      ("log_level", Text.quoted settings.logLevel)] ""

/-- The schemas of a route. -/
def RouteSchema.describe (schema : RouteSchema) : String :=
  describeFields "RouteSchema"
    [("body", describeOptional Json.describe schema.body),
      ("params", describeOptional Json.describe schema.params),
      ("querystring", describeOptional Json.describe schema.querystring),
      ("response", describeOptional Json.describe schema.response)] ""

/-- A route. -/
def Route.describe (route : Route) : String :=
  describeFields "RouteDescriptor"
    [("method", Text.quoted route.method), ("url", Text.quoted route.url),
      ("schema", describeOptional RouteSchema.describe route.schema),
      ("visibility", describeOptional Text.quoted route.visibility)] ""

/-- A registration. The receiver of the document is not shown. -/
def Registration.describe (registration : Registration) : String :=
  describeFields "ProtoGenerator"
    [("config", registration.settings.describe),
      ("routes", describeList (registration.routes.map Route.describe))] ", .."

end RouteIdl
