import RouteIdl.Json.Printer
import RouteIdl.Text.Quoted

/-!
# Refusals of a JSON text

Why a text is not the JSON form of the value asked for. The first obstacle from left to right is
the one reported.
-/

namespace RouteIdl.Json

/-- What stands where something else was asked for. -/
inductive Found where
  /-- The value null. -/
  | null
  /-- A truth value. -/
  | bool (value : Bool)
  /-- A number that keeps its digits. -/
  | integer (value : Int)
  /-- Any other number. -/
  | float (value : Float)
  /-- A string. -/
  | string (value : String)
  /-- The opening bracket of an array. -/
  | array
  /-- The opening brace of an object. -/
  | object
  deriving DecidableEq

/-- A well-formed text that is not the form asked for. -/
inductive Mismatch where
  /-- Another kind of value. -/
  | kind (found : Found) (expected : String)
  /-- An array that ends before a mandatory entry. -/
  | tooShort (length : Nat) (expected : String)
  /-- An object without a mandatory key. -/
  | missing (key : String)
  /-- An object that has a known key twice. -/
  | duplicate (key : String)
  /-- A name outside a closed list of names. -/
  | unknownName (name : String) (known : List String)
  deriving DecidableEq

/-- Why a text is refused. -/
inductive Fault where
  /-- The text ends inside a value. -/
  | truncated
  /-- No JSON text goes on like this, or none within the limits on numbers and nesting. -/
  | malformed
  /-- Well-formed so far, but not the form asked for. -/
  | mismatch (cause : Mismatch)
  deriving DecidableEq

/-- How a refusal names what it found. -/
def Found.describe : Found → String
  | null => "null"
  | bool value => "boolean `" ++ (if value then "true" else "false") ++ "`"
  | integer value => "integer `" ++ String.ofList (integerChars value) ++ "`"
  | float value => "floating point `" ++ String.ofList (floatChars value) ++ "`"
  | string value => "string " ++ Text.quoted value
  | array => "sequence"
  | object => "map"

/-- How a refusal lists the names that would have been accepted. -/
def describeNames (names : List String) : String :=
  match names.map fun name => "`" ++ name ++ "`" with
  | [one] => one
  | [one, other] => one ++ " or " ++ other
  | all => "one of " ++ ", ".intercalate all

/-- The text of a mismatch. -/
def Mismatch.message : Mismatch → String
  | kind found expected => "invalid type: " ++ found.describe ++ ", expected " ++ expected
  | tooShort length expected =>
      "invalid length " ++ toString length ++ ", expected " ++ expected
  | missing key => "missing field `" ++ key ++ "`"
  | duplicate key => "duplicate field `" ++ key ++ "`"
  | unknownName name known =>
      "unknown variant `" ++ name ++ "`, expected " ++ describeNames known

end RouteIdl.Json
