/-!
# Declarations

What a compiled document declares: messages with numbered fields, messages nested in messages, and
one service with its remote procedures.
-/

namespace RouteIdl.Idl

/-- The scalar types of fields. -/
inductive Scalar where
  /-- A number. -/
  | uint32
  /-- A text. -/
  | string
  deriving DecidableEq

/-- The scalar type for a kind of primitive value. No other kind has one. -/
def Scalar.ofKind? : String → Option Scalar
  | "number" => some uint32
  | "string" => some string
  | _ => none

/-- The name of a scalar type. -/
def Scalar.name : Scalar → String
  | uint32 => "uint32"
  | string => "string"

/-- The type of a field that may hold any value. -/
def anyType : String := "google.protobuf.Any"

/-- The request type of a procedure without input. -/
def emptyType : String := "google.protobuf.Empty"

/-- The response type of a procedure whose response is not described. -/
def textType : String := "string"

/-- A numbered field. -/
structure Field where
  /-- Its name. -/
  name : String
  /-- Its number. -/
  number : Nat
  /-- The name of its type. -/
  type : String
  /-- Whether it holds a list of values. -/
  repeated : Bool
  /-- Whether it has to be present. -/
  required : Bool
  deriving DecidableEq

/-- What may stand in the body of a message. -/
inductive Item where
  /-- A field. -/
  | field (field : Field)
  /-- A nested message. -/
  | message (name : String) (items : List Item)
  /-- A choice between fields. -/
  | oneOf (name : String) (items : List Item)

/-- A message. -/
structure Message where
  /-- Its name. -/
  name : String
  /-- Its body. -/
  items : List Item

/-- The message as an item of a body. -/
def Message.toItem (message : Message) : Item :=
  .message message.name message.items

/-- A remote procedure with its HTTP annotations. -/
structure Rpc where
  /-- Its name. -/
  name : String
  /-- The name of its request type. -/
  request : String
  /-- The name of its response type. -/
  response : String
  /-- The URL template under which it is reached. -/
  url : String
  /-- The HTTP method. -/
  method : String
  /-- How long a call may take, in milliseconds. -/
  timeout : Nat
  /-- Who may call it. -/
  visibility : String
  /-- Where the body of the HTTP request comes from, if it has one. -/
  body : Option String
  deriving DecidableEq

/-- A service. -/
structure Service where
  /-- Its name in the document. -/
  name : String
  /-- The name it is known under. -/
  knownAs : String
  /-- Its procedures. -/
  rpcs : List Rpc
  deriving DecidableEq

/-- The service of a document. A document has one, always of the same name. -/
def Service.sole (knownAs : String) (rpcs : List Rpc) : Service :=
  ⟨"Service", knownAs, rpcs⟩

/-- A compiled document. -/
structure Document where
  /-- Its messages. -/
  messages : List Message
  /-- Its service. -/
  service : Service

end RouteIdl.Idl
