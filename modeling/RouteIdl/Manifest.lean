import RouteIdl.Log.Level
import RouteIdl.Path
import RouteIdl.Settings
import RouteIdl.Text.Quoted
import RouteIdl.Toml.Reader

/-!
# Manifests

A manifest is a TOML document that names the service, the files that a compilation reads and writes,
and its settings. Everything in it is optional, and what it does not know it ignores.
-/

namespace RouteIdl

/-- The content of a manifest. -/
structure Manifest where
  /-- The name of the service. -/
  serviceName : Option String := none
  /-- The file that lists the routes. -/
  routes : Option String := none
  /-- The API document. -/
  document : Option String := none
  /-- The file that the document is written to. -/
  output : Option String := none
  /-- The settings of the compilation. -/
  settings : Settings := {}
  deriving DecidableEq

/-- Why a manifest cannot be used. -/
inductive ManifestError where
  /-- The file cannot be read as text. -/
  | unreadable (path : String)
  /-- The text is no manifest. -/
  | malformed
  /-- The name of the service is empty. -/
  | emptyServiceName
  /-- The path of the routes is empty. -/
  | emptyRoutes
  /-- The path of the API document is empty. -/
  | emptyDocument
  /-- The path of the output is empty. -/
  | emptyOutput
  /-- The response status is empty. -/
  | emptyResponseStatus
  /-- There is no such log level. -/
  | unknownLevel (level : Log.Level.Unknown)
  deriving DecidableEq

/-- The text of the error. -/
def ManifestError.message : ManifestError → String
  | unreadable path => "Failed to read manifest: " ++ Text.quoted path
  | malformed => "Failed to parse manifest"
  | emptyServiceName => "Service name cannot be empty"
  | emptyRoutes => "Routes path cannot be empty"
  | emptyDocument => "Document path cannot be empty"
  | emptyOutput => "Output path cannot be empty"
  | emptyResponseStatus => "Response status key cannot be empty"
  | unknownLevel level => level.message

/-! ## From TOML -/

namespace Toml

mutual

/-- Whether a value may stand under a key that means nothing. It is looked at all the same: its
whole numbers have to be within 128 bits, and its other numbers not too large. -/
def Value.ignorable : Value → Bool
  | .integer n => n.any fun n => decide (-(2 ^ 127) ≤ n ∧ n < 2 ^ 128)
  | .float x => x.isSome
  | .array elements => elementsIgnorable elements
  | .tables last earlier => entriesIgnorable last && tablesIgnorable earlier
  | .table _ entries => entriesIgnorable entries
  | _ => true

/-- Whether all elements of a list are ignorable. -/
def elementsIgnorable : List Value → Bool
  | [] => true
  | element :: rest => element.ignorable && elementsIgnorable rest

/-- Whether all entries of a table are ignorable. -/
def entriesIgnorable : List (String × Value) → Bool
  | [] => true
  | (_, value) :: rest => value.ignorable && entriesIgnorable rest

/-- Whether all tables of a list are ignorable. -/
def tablesIgnorable : List (List (String × Value)) → Bool
  | [] => true
  | entries :: rest => entriesIgnorable entries && tablesIgnorable rest

end

/-- The known entries of a record that is written as a table, or as an array of its values in order.
Nobody looks at the values that such an array has beyond them. A date stands for a record without
entries. -/
def Value.record? (names : List String) : Value → Option (List (String × Value))
  | .table _ entries =>
      if entries.all fun entry => names.contains entry.1 || entry.2.ignorable then some entries
      else none
  | .array elements => some (names.zip elements)
  | .tables last earlier =>
      some (names.zip ((last :: earlier).reverse.map (.table .header)))
  | .datetime => some []
  | _ => none

/-- A section of a document: the known entries of the record under a key, none without the key. -/
def section? (entries : List (String × Value)) (key : String) (names : List String) :
    Option (List (String × Value)) :=
  match entries.lookup key with
  | none => some []
  | some value => value.record? names

/-- The text under a key, or a default without the key. -/
def textOr (fallback : String) (entries : List (String × Value)) (key : String) :
    Option String :=
  match entries.lookup key with
  | none => some fallback
  | some (.string text) => some text
  | some _ => none

/-- The text under a key, which may be missing. -/
def optionalText (entries : List (String × Value)) (key : String) : Option (Option String) :=
  match entries.lookup key with
  | none => some none
  | some (.string text) => some (some text)
  | some _ => none

/-- What goes with the name under a key, or a default without the key. The name is a string, or the
one key of a table with an empty value. -/
def nameOr {α : Type} (fallback : α) (names : List (String × α)) (entries : List (String × Value))
    (key : String) : Option α :=
  match entries.lookup key with
  | none => some fallback
  | some (.string name) => names.lookup name
  | some (.table _ [(name, .table _ [])]) => names.lookup name
  | some (.table _ [(name, .array [])]) => names.lookup name
  | some _ => none

end Toml

namespace Manifest

/-- The settings in a section. -/
def settingsOf (entries : List (String × Toml.Value)) : Option Settings := do
  let defaults : Settings := {}
  return {
    serviceName := ← Toml.optionalText entries "service_name"
    responseStatus := ← Toml.textOr defaults.responseStatus entries "response_status"
    defaultVisibility := ← Toml.textOr defaults.defaultVisibility entries "default_visibility"
    presence := ← Toml.nameOr defaults.presence PresenceStyle.names entries "presence"
    duplicates :=
      ← Toml.nameOr defaults.duplicates DuplicatePolicy.names entries "duplicate_rpc_names"
    logLevel := ← Toml.textOr defaults.logLevel entries "log_level" }

/-- The manifest in the entries of a document. -/
def ofEntries? (entries : List (String × Toml.Value)) : Option Manifest := do
  let known ← (Toml.Value.table .header entries).record?
    ["service", "input", "output", "compiler"]
  let service ← Toml.section? known "service" ["name"]
  let input ← Toml.section? known "input" ["routes", "document"]
  let output ← Toml.section? known "output" ["path"]
  let compiler ← Toml.section? known "compiler"
    ["service_name", "response_status", "default_visibility", "presence", "duplicate_rpc_names",
      "log_level"]
  return {
    serviceName := ← Toml.optionalText service "name"
    routes := ← Toml.optionalText input "routes"
    document := ← Toml.optionalText input "document"
    output := ← Toml.optionalText output "path"
    settings := ← settingsOf compiler }

/-- The manifest that a text stands for. -/
def ofText (text : String) : Except ManifestError Manifest :=
  match (Toml.ofText? text).bind fun table => ofEntries? table.entries with
  | some manifest => .ok manifest
  | none => .error .malformed

/-! ## Use -/

/-- The explicit name of the service. The section on the service goes before the settings. -/
def explicitName (manifest : Manifest) : Option String :=
  manifest.serviceName <|> manifest.settings.serviceName

/-- Refuse a manifest with an empty name or path, or with a log level that does not exist. The first
fault in a fixed order counts. -/
def validate (manifest : Manifest) : Except ManifestError Unit := do
  if manifest.serviceName = some "" then .error .emptyServiceName
  else if manifest.routes = some "" then .error .emptyRoutes
  else if manifest.document = some "" then .error .emptyDocument
  else if manifest.output = some "" then .error .emptyOutput
  else if manifest.settings.responseStatus = "" then .error .emptyResponseStatus
  else
    match Log.Level.ofText manifest.settings.logLevel with
    | .ok _ => .ok ()
    | .error level => .error (.unknownLevel level)

/-- A path as seen from a directory. The empty path stays empty. -/
def rebasePath (base path : String) : String :=
  if path.isEmpty then path else Path.join base path

/-- The manifest with its paths as seen from a directory. -/
def rebase (manifest : Manifest) (base : String) : Manifest :=
  { manifest with
    routes := manifest.routes.map (rebasePath base)
    document := manifest.document.map (rebasePath base)
    output := manifest.output.map (rebasePath base) }

/-- The manifest in the file at a path, whose content is given if it can be read. Its paths are seen
from the directory of the file. -/
def ofFile (path : String) (content : Option ByteArray) : Except ManifestError Manifest :=
  match content.bind String.fromUTF8? with
  | none => .error (.unreadable path)
  | some text => do
      let manifest ← ofText text
      match Path.parent? path with
      | some base => .ok (manifest.rebase base)
      | none => .ok manifest

/-- The JSON form of a manifest. -/
def toJson (manifest : Manifest) : Json :=
  .object
    [("service", .object [("name", Settings.optionalText manifest.serviceName)]),
      ("input", .object
        [("routes", Settings.optionalText manifest.routes),
          ("document", Settings.optionalText manifest.document)]),
      ("output", .object [("path", Settings.optionalText manifest.output)]),
      ("compiler", manifest.settings.toJson)]

end Manifest

end RouteIdl
