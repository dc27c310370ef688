import RouteIdl.CommandLine.Arguments

/-!
# Help

The texts that tell a user which program this is and how it and its commands are used.
-/

namespace RouteIdl.CommandLine

/-- The name of the program. -/
def programName : String := "routeproto"

/-- The line that shows the version. -/
def versionLine : String := programName ++ " 0.3.0\n"

/-- A term that a user may write, and what it is for. -/
abbrev Explanation := String × String

/-- Explanations under a heading, one in a line. What the terms are for begins in one column. -/
def listing (heading : String) (explanations : List Explanation) : String :=
  let width := explanations.foldl (fun width term => max width term.1.length) 0
  let line (term : Explanation) : String :=
    "  " ++ term.1 ++ String.ofList (List.replicate (width + 2 - term.1.length) ' ') ++ term.2 ++
      "\n"
  "\n" ++ heading ++ ":\n" ++ String.join (explanations.map line)

/-- What stands for the value of an option: the name of the option in capitals. -/
def Flag.valueName (flag : Flag) : String :=
  flag.name.map fun c => if c = '-' then '_' else c.toUpper

/-- An option with both its names. -/
def Flag.explanation (flag : Flag) : Explanation :=
  ("-" ++ String.singleton flag.letter ++ ", --" ++ flag.name ++ " <" ++ flag.valueName ++ ">",
    flag.purpose)

/-- The option that asks for help. -/
def helpExplanation : Explanation := ("-h, --help", "Print help")

namespace Topic

/-- The name of the command, empty for the program as a whole. -/
def name : Topic → String
  | program => ""
  | compile => "compile"
  | check => "check"
  | help => "help"

/-- What the program or the command is for. -/
def purpose : Topic → String
  | program => "Compile HTTP routes into RPC definitions"
  | compile => "Compile a route list into a service definition document"
  | check => "Validate a routeproto.toml manifest"
  | help => "Print this message or the help of the given subcommand(s)"

/-- What is written after the name of the program. -/
def pattern : Topic → String
  | program => "<COMMAND>"
  | compile => "compile [OPTIONS]"
  | check => "check [OPTIONS]"
  | help => "help [COMMAND]..."

/-- The commands, options and arguments that there are. -/
def listings : Topic → String
  | program =>
      listing "Commands" ([compile, check, help].map fun topic => (topic.name, topic.purpose)) ++
        listing "Options" [helpExplanation, ("-V, --version", "Print version")]
  | compile => listing "Options" (compileFlags.map Flag.explanation ++ [helpExplanation])
  | check => listing "Options" (checkFlags.map Flag.explanation ++ [helpExplanation])
  | help => listing "Arguments" [("[COMMAND]...", "Print help for the subcommand(s)")]

/-- The help on a topic. -/
def text (topic : Topic) : String :=
  topic.purpose ++ "\n\nUsage: " ++ programName ++ " " ++ topic.pattern ++ "\n" ++ topic.listings

end Topic

end RouteIdl.CommandLine
