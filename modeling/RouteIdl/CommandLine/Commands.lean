import RouteIdl.CommandLine.Help
import RouteIdl.CommandLine.Session
import RouteIdl.Log.Directive
import RouteIdl.Manifest
import RouteIdl.Registration
import RouteIdl.Text.Quoted

/-!
# Commands

What the program does on request: compile routes into a document, or check a manifest. Nothing is
written or printed to the output before everything that may fail has succeeded.
-/

namespace RouteIdl.CommandLine

/-- The files that a compilation reads. -/
inductive Source where
  /-- The routes. -/
  | routes
  /-- The API document. -/
  | document
  deriving DecidableEq

/-- Why a command fails. -/
inductive Failure where
  /-- The manifest cannot be used. -/
  | manifest (error : ManifestError)
  /-- There is no such log level. -/
  | unknownLevel (level : Log.Level.Unknown)
  /-- No file lists the routes. -/
  | noRoutes
  /-- A file cannot be read. -/
  | unreadable (source : Source) (path : String)
  /-- A file does not have the right form. -/
  | malformed (source : Source) (path : String)
  /-- The routes cannot be compiled. -/
  | compilation (error : CompileError)
  /-- The document cannot be written. -/
  | unwritable (path : String)

/-- How a failure names a file. -/
def Source.name : Source → String
  | routes => "routes"
  | document => "document"

/-- The text of a failure. -/
def Failure.message : Failure → String
  | manifest error => error.message
  | unknownLevel level => level.message
  | noRoutes => "No routes file given (use --routes or [input] routes)"
  | unreadable source path => "Failed to read " ++ source.name ++ ": " ++ Text.quoted path
  | malformed source path => "Failed to parse " ++ source.name ++ ": " ++ Text.quoted path
  | compilation error => error.message
  | unwritable path => "Failed to write output: " ++ Text.quoted path

/-- A session that may fail. -/
abbrev Task (α : Type) := ExceptT Failure Session α

/-- The manifest that is used if it is there and no other one is named. -/
def defaultManifest : String := "routeproto.toml"

/-- Read a file. -/
def readFile (path : String) : Task (Option ByteArray) :=
  ExceptT.lift (.read path .done)

/-- Print text to the output. -/
def print (text : String) : Task Unit :=
  ExceptT.lift (.print text (.done ()))

/-- Go on with a result or fail with its error. -/
def orFail {ε α : Type} (failure : ε → Failure) : Except ε α → Task α
  | .ok value => pure value
  | .error error => throw (failure error)

/-- Read a manifest. -/
def readManifest (path : String) : Task Manifest := do
  let content ← readFile path
  orFail .manifest (Manifest.ofFile path content)

/-- The manifest that is named, or the default one if it is there, or an empty one. -/
def loadManifest : Option String → Task Manifest
  | some path => readManifest path
  | none => do
      if ← ExceptT.lift (.isFile defaultManifest .done) then readManifest defaultManifest
      else pure {}

/-- Read a JSON file. -/
def readSource {α : Type} (source : Source)
    (reader : List Json.Symbol → Except Json.Fault α) (path : String) : Task α := do
  match ← readFile path with
  | none => throw (.unreadable source path)
  | some bytes => orFail (fun _ => .malformed source path) (reader (Json.Symbol.ofBytes bytes))

/-- Show the events whose records pass, in order. -/
def showEvents (passes : Log.Record → Bool) : List Event → Task Unit
  | [] => pure ()
  | event :: rest => do
      if passes event.record then
        ExceptT.lift (.note event.record.line (.done ()))
      showEvents passes rest

/-- Show the events of a computation and go on with its value. -/
def follow {α : Type} (passes : Log.Record → Bool) (computation : Traced α) : Task α := do
  showEvents passes computation.events
  orFail .compilation computation.result

/-- Register routes and compile them. -/
def generate (settings : Settings) (routes : List Route) (document : Option ApiDocument) :
    Traced String := do
  let registration ← Traced.ofExcept (Registration.start settings true)
  let registration ← registration.registerAll routes
  registration.finish document

/-- The document that a compilation reads besides the routes, if any is named. -/
def readDocument : Option String → Task (Option ApiDocument)
  | none => pure none
  | some path => do
      let document ← readSource .document ApiDocument.ofSymbols path
      pure (some document)

/-- The text that routes compile into. Options go before the manifest. -/
def produce (options : CompileOptions) (manifest : Manifest) (passes : Log.Record → Bool) :
    Task String :=
  match options.routes <|> manifest.routes with
  | none => throw .noRoutes
  | some path => do
      let routes ← readSource .routes Route.listOfSymbols path
      let document ← readDocument (options.document <|> manifest.document)
      let serviceName := options.serviceName <|> manifest.explicitName
      follow passes (generate { manifest.settings with serviceName } routes document)

/-- Write a text to a file or, if none is named, print it. A line feed goes after it. -/
def deliver (passes : Log.Record → Bool) (text : String) : Option String → Task Unit
  | none => print (text ++ "\n")
  | some path => do
      if ← ExceptT.lift (.write path (text ++ "\n").toUTF8 .done) then
        showEvents passes [.documentWritten path]
      else throw (.unwritable path)

/-- Compile routes into a document. Options go before the manifest. -/
def compile (options : CompileOptions) (directives : List Log.Directive) : Task Unit := do
  let manifest ← loadManifest options.manifest
  orFail .manifest manifest.validate
  let level ← orFail .unknownLevel
    (Log.Level.ofText (options.logLevel.getD manifest.settings.logLevel))
  let passes record := level.passes record.level && Log.Directive.allow directives record
  let text ← produce options manifest passes
  deliver passes text (options.output <|> manifest.output)

/-- Check a manifest and print what it names. -/
def check (path : String) : Task Unit := do
  print ("Checking manifest: " ++ path ++ "\n")
  let manifest ← readManifest path
  orFail .manifest manifest.validate
  print ("✓ Service: " ++ manifest.explicitName.getD "(from document title)" ++ "\n")
  print ("✓ Routes: " ++ manifest.routes.getD "(from --routes)" ++ "\n")
  print ("✓ Output: " ++ manifest.output.getD "stdout" ++ "\n")
  print "\nManifest is valid!\n"

/-- Carry out a task; the result is the exit code. A failure is shown as the last line for the
user. -/
def conclude (task : Task Unit) : Session Nat := do
  match ← task.run with
  | .ok () => pure 0
  | .error failure => .note ("Error: " ++ failure.message) (.done 1)

/-- The session for the arguments of the program and the log directives of the user. The result is
the exit code. -/
def session (arguments : List String) (directives : Option String) : Session Nat :=
  match Command.ofArguments arguments with
  | none => .done 2
  | some (.compile options) => conclude (compile options (Log.Directive.listOf directives))
  | some (.check manifest) => conclude (check (manifest.getD defaultManifest))
  | some .version => .print versionLine (.done 0)
  | some (.help topic) => .print topic.text (.done 0)

end RouteIdl.CommandLine
