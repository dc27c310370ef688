import RouteIdl.Text.Case

/-!
# Generated identifiers

The names of everything a route or a property gives rise to. An RPC is named after the method and
the segments of the URL, each capitalized; a parameter marker reads as `By`.
-/

namespace RouteIdl.Identifier

/-- Characters that separate the segments of a URL template. -/
def isSeparator (c : Char) : Bool :=
  c == '/' || c == '-'

/-- The character that marks a path parameter in a URL template. -/
def marker : Char := ':'

/-- Capitalized, with the rest in lower case. -/
def titleCase (text : List Char) : List Char :=
  Text.capitalize (Text.lower text)

/-- The non-empty stretches of a URL template between separators. -/
def segments (url : List Char) : List (List Char) :=
  (url.splitOnP isSeparator).filter (!·.isEmpty)

/-- One segment in title case, with `By` for each marker and title case again after it. -/
def ofSegment (segment : List Char) : List Char :=
  match segment.splitOn marker with
  | [] => []
  | first :: parameters =>
      titleCase first ++ parameters.flatMap fun parameter => 'B' :: 'y' :: titleCase parameter

/-- The characters of an RPC name: the method, taken as one segment, then those of the URL. -/
def rpcChars (method url : List Char) : List Char :=
  ofSegment method ++ (segments url).flatMap ofSegment

/-- The RPC name of a route. -/
def rpc (method url : String) : String :=
  String.ofList (rpcChars method.toList url.toList)

/-- The name of the request message of an RPC. -/
def request (rpc : String) : String :=
  rpc ++ "Request"

/-- The name of the response message of an RPC. -/
def response (rpc : String) : String :=
  rpc ++ "Response"

/-- The name of the message nested for an object-typed field. -/
def nested (field : String) : String :=
  field ++ "Object"

/-- The name of the message that wraps the choices of a union-typed field. -/
def oneOf (field : String) : String :=
  field ++ "OneOf"

/-- The first letter in upper case and the rest as it is. -/
def capitalized (word : String) : String :=
  String.ofList (Text.capitalize word.toList)

@[simp] theorem ofSegment_nil : ofSegment [] = [] := by
  simp [ofSegment, titleCase]

@[simp] theorem nested_inj {field other : String} : nested field = nested other ↔ field = other :=
  String.append_left_inj "Object"

@[simp] theorem oneOf_inj {field other : String} : oneOf field = oneOf other ↔ field = other :=
  String.append_left_inj "OneOf"

/-- The suffixes of messages for objects and for unions end in different letters. -/
@[simp] theorem nested_ne_oneOf (field other : String) : nested field ≠ oneOf other := by
  intro heq
  have hlast := congrArg (fun name => name.toList.getLast?) heq
  simp [nested, oneOf, String.toList_append] at hlast

@[simp] theorem oneOf_ne_nested (field other : String) : oneOf field ≠ nested other :=
  (nested_ne_oneOf other field).symm

end RouteIdl.Identifier
