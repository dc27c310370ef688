import RouteIdl.CompileError
import RouteIdl.Json.Record
import RouteIdl.Settings

/-!
# Service names

The name of the service comes from the settings or, if they have none, from the title of the API
document. An empty name is no name, and a configured one is not replaced by the title.
-/

namespace RouteIdl

/-- What an API document says about itself. -/
structure ApiInfo where
  /-- Its title. -/
  title : Option String := none
  deriving DecidableEq

/-- The part of an API document that matters here. -/
structure ApiDocument where
  /-- What it says about itself. -/
  info : ApiInfo := {}
  deriving DecidableEq

/-- Where a service name may come from. -/
structure ServiceName where
  /-- The configured name. -/
  explicit : Option String := none
  /-- The title of the API document. -/
  title : Option String := none
  deriving DecidableEq

namespace ApiDocument

/-- The title of a document. -/
def title (document : ApiDocument) : Option String :=
  document.info.title

/-- The document with a title and nothing else. -/
def ofTitle (title : String) : ApiDocument :=
  ⟨⟨some title⟩⟩

/-- The JSON form of a document. -/
def toJson (document : ApiDocument) : Json :=
  .object [("info", .object [("title", Settings.optionalText document.title)])]

/-- The entries of the information in a record. -/
def infoEntries (_room : Nat) : List (Json.Entry ApiInfo) :=
  [.of "title" false (Json.optional Json.stringValue) fun _ title => ⟨title⟩]

/-- The entries of a document in a record. -/
def entries (room : Nat) : List (Json.Entry ApiDocument) :=
  [.of "info" false (Json.record "ApiInfo" infoEntries {} room) fun _ info => ⟨info⟩]

/-- The document that encoded text stands for. -/
def ofSymbols (input : List Json.Symbol) : Except Json.Fault ApiDocument :=
  Json.whole (Json.record "ApiDocument" entries {} Json.nestingLimit) input

end ApiDocument

namespace ServiceName

/-- The sources of a name: a configured name and a document. -/
def ofSources (explicit : Option String) (document : Option ApiDocument) : ServiceName :=
  ⟨explicit, document.bind ApiDocument.title⟩

/-- The name, if there is one. -/
def resolve (sources : ServiceName) : Except CompileError String :=
  match sources.explicit <|> sources.title with
  | some name => if name.isEmpty then .error .missingServiceName else .ok name
  | none => .error .missingServiceName

end ServiceName

end RouteIdl
