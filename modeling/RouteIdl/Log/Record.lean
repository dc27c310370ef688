import RouteIdl.Log.Level

/-!
# Log records

What is logged: a severity, where it comes from, and named values. The value named message leads
the text of the record.
-/

namespace RouteIdl.Log

/-- One log record. -/
structure Record where
  /-- How severe it is. -/
  level : Level
  /-- Where it comes from. -/
  target : String
  /-- The values that describe it, by name. -/
  fields : List (String × String)
  deriving DecidableEq

/-- The name of the value that leads the text. -/
def messageField : String := "message"

/-- The text of a record: its message, then the other values with their names, between spaces. Of
several messages the last one counts. -/
def Record.text (record : Record) : String :=
  let named := record.fields.partition fun field => field.1 == messageField
  let lead := named.1.getLast?.map Prod.snd
  " ".intercalate (lead.toList ++ named.2.map fun field => field.1 ++ "=" ++ field.2)

/-- The line that shows a record to a person. -/
def Record.line (record : Record) : String :=
  "[" ++ record.level.label ++ "] " ++ record.target ++ ": " ++ record.text

end RouteIdl.Log
