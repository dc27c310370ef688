/-!
# Arguments

The arguments of a command: options with one value each. The value follows the name of the option,
as the next argument, after an equals sign, or right after the letter of the option.
-/

namespace RouteIdl.CommandLine

/-- An option of a command. -/
structure Flag where
  /-- Its name, after two dashes. -/
  name : String
  /-- Its letter, after one dash. -/
  letter : Char
  /-- Whether its value is a path, and so must not be empty. -/
  isPath : Bool
  /-- What it is for. -/
  purpose : String
  deriving DecidableEq

/-- What the user asks for. -/
structure CompileOptions where
  /-- The manifest. -/
  manifest : Option String := none
  /-- The file that lists the routes. -/
  routes : Option String := none
  /-- The API document. -/
  document : Option String := none
  /-- The name of the service. -/
  serviceName : Option String := none
  /-- The file that the document is written to. -/
  output : Option String := none
  /-- The log level. -/
  logLevel : Option String := none
  deriving DecidableEq

/-- What a user may ask for help with. -/
inductive Topic where
  /-- The program as a whole. -/
  | program
  /-- Compiling routes. -/
  | compile
  /-- Checking a manifest. -/
  | check
  /-- Asking for help. -/
  | help
  deriving DecidableEq

/-- A command with its options. -/
inductive Command where
  /-- Compile routes. -/
  | compile (options : CompileOptions)
  /-- Check a manifest. -/
  | check (manifest : Option String)
  /-- Show the version. -/
  | version
  /-- Show how the program or a command is used. -/
  | help (topic : Topic)
  deriving DecidableEq

/-- The options for compiling. -/
def compileFlags : List Flag :=
  [⟨"manifest", 'm', false,
      "Path to routeproto.toml manifest (default: ./routeproto.toml if present)"⟩,
    ⟨"routes", 'r', true, "JSON file holding the route descriptors"⟩,
    ⟨"document", 'd', true, "OpenAPI/Swagger JSON document whose title names the service"⟩,
    ⟨"service-name", 's', false, "Service name (overrides the manifest and the document title)"⟩,
    ⟨"output", 'o', true, "Output file (default: stdout)"⟩,
    ⟨"log-level", 'l', false, "Log level (trace, debug, info, warn, error, off)"⟩]

/-- The options for checking a manifest. -/
def checkFlags : List Flag :=
  [⟨"manifest", 'm', false, "Path to routeproto.toml (default: ./routeproto.toml)"⟩]

/-- Whether an argument looks like an option. A single dash does not. -/
def looksLikeFlag (argument : String) : Bool :=
  match argument.toList with
  | '-' :: _ :: _ => true
  | _ => false

/-- The option that an argument names, with the value attached to it, if there is one. -/
def readFlag (flags : List Flag) (argument : String) : Option (Flag × Option String) :=
  match argument.toList with
  | '-' :: '-' :: rest =>
      let name := rest.takeWhile (· != '=')
      let attached := (rest.drop name.length).tail
      (flags.find? (·.name == String.ofList name)).map fun flag =>
        (flag, if name.length < rest.length then some (String.ofList attached) else none)
  | '-' :: letter :: rest =>
      (flags.find? (·.letter == letter)).map fun flag =>
        match rest with
        | [] => (flag, none)
        | '=' :: attached => (flag, some (String.ofList attached))
        | attached => (flag, some (String.ofList attached))
  | _ => none

/-- Why the arguments of a command are not read to their end. -/
inductive Stop where
  /-- The user asks for help. -/
  | help
  /-- The arguments are malformed. -/
  | malformed
  deriving DecidableEq

/-- Whether an argument asks for help. -/
def asksForHelp (argument : String) : Bool :=
  argument == "--help" || argument.startsWith "-h"

/-- The value of an option in addition to those read so far. No option occurs twice, and a path is
not empty. -/
def addValue (values : List (String × String)) (flag : Flag) (value : String) :
    Except Stop (List (String × String)) :=
  if (values.lookup flag.name).isSome || (flag.isPath && value.isEmpty) then .error .malformed
  else .ok ((flag.name, value) :: values)

/-- The values of options by name. Two dashes end the options, and nothing may follow them. What
comes first counts: a request for help or a fault. -/
def readValues (flags : List Flag) (values : List (String × String)) :
    List String → Except Stop (List (String × String))
  | [] => .ok values
  | argument :: rest =>
      if asksForHelp argument then .error .help
      else if argument = "--" then if rest.isEmpty then .ok values else .error .malformed
      else
        match readFlag flags argument, rest with
        | none, _ => .error .malformed
        | some (flag, some value), rest => do
            let values ← addValue values flag value
            readValues flags values rest
        | some (_, none), [] => .error .malformed
        | some (flag, none), value :: rest =>
            if looksLikeFlag value then .error .malformed
            else do
              let values ← addValue values flag value
              readValues flags values rest

/-- The command with the values of its options, or help on its topic, if it is asked for first. -/
def Command.ofValues (topic : Topic) (command : List (String × String) → Command) :
    Except Stop (List (String × String)) → Option Command
  | .ok values => some (command values)
  | .error .help => some (.help topic)
  | .error .malformed => none

/-- The command that arguments stand for, if they are well-formed. -/
def Command.ofArguments : List String → Option Command
  | "compile" :: arguments =>
      ofValues .compile
        (fun values => .compile
          { manifest := values.lookup "manifest"
            routes := values.lookup "routes"
            document := values.lookup "document"
            serviceName := values.lookup "service-name"
            output := values.lookup "output"
            logLevel := values.lookup "log-level" })
        (readValues compileFlags [] arguments)
  | "check" :: arguments =>
      ofValues .check (fun values => .check (values.lookup "manifest"))
        (readValues checkFlags [] arguments)
  | ["help"] => some (.help .program)
  | ["help", "compile"] => some (.help .compile)
  | ["help", "check"] => some (.help .check)
  | ["help", "help"] => some (.help .help)
  | argument :: _ =>
      if argument = "--version" || argument.startsWith "-V" then some .version
      else if asksForHelp argument then some (.help .program)
      else none
  | [] => none

end RouteIdl.CommandLine
