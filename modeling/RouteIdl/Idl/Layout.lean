import RouteIdl.Idl.Declaration
import RouteIdl.Settings

/-!
# Layout of declarations

The text of a document, line by line. Each level of nesting is indented by two blanks, a block
without content is written on one line, and blank lines separate top-level blocks and procedures.
-/

namespace RouteIdl.Idl

/-- The indentation of a depth. -/
def indent (depth : Nat) : String :=
  String.ofList (List.replicate (2 * depth) ' ')

/-- The lines of a block at a depth: its header and its body, one level deeper, between braces. -/
def block (depth : Nat) (header : String) (body : List String) : List String :=
  if body.isEmpty then [indent depth ++ header ++ " \x7b\x7d"]
  else (indent depth ++ header ++ " \x7b") :: body ++ [indent depth ++ "\x7d"]

/-- A field without its indentation. -/
def Field.text (style : PresenceStyle) (field : Field) : String :=
  (if field.required && style == .label then "required " else "") ++
    (if field.repeated then "repeated " else "") ++
    field.type ++ " " ++ field.name ++ " = " ++ toString field.number ++
    (if field.required && style == .fieldOption then " [(msp.field).required = true]" else "") ++
    ";" ++
    (if field.required && style == .comment then " // required" else "")

mutual

/-- The lines of an item at a depth. -/
def Item.lines (style : PresenceStyle) (depth : Nat) : Item → List String
  | .field field => [indent depth ++ field.text style]
  | .message name items => block depth ("message " ++ name) (itemLines style (depth + 1) items)
  | .oneOf name items => block depth ("oneof " ++ name) (itemLines style (depth + 1) items)

/-- The lines of several items at a depth. -/
def itemLines (style : PresenceStyle) (depth : Nat) : List Item → List String
  | [] => []
  | item :: rest => item.lines style depth ++ itemLines style depth rest

end

/-- The lines of a message at the top level. -/
def Message.lines (style : PresenceStyle) (message : Message) : List String :=
  message.toItem.lines style 0

/-- The text of a message. -/
def Message.text (style : PresenceStyle) (message : Message) : String :=
  "\n".intercalate (message.lines style)

/-- The lines of a procedure at a depth. -/
def Rpc.lines (depth : Nat) (rpc : Rpc) : List String :=
  let option (name value : String) :=
    indent (depth + 1) ++ "option (msp.http)." ++ name ++ " = " ++ value ++ ";"
  let quoted (text : String) := "\"" ++ text ++ "\""
  block depth
    ("rpc " ++ rpc.name ++ "( " ++ rpc.request ++ " ) returns( " ++ rpc.response ++ " )")
    ([option "templatedUrl" (quoted rpc.url),
        option "method" (quoted rpc.method),
        option "timeout" (toString rpc.timeout),
        option "visibility" (quoted rpc.visibility)] ++
      (rpc.body.map fun source => option "body" (quoted source)).toList)

/-- The lines of a service. -/
def Service.lines (service : Service) : List String :=
  block 0 ("service " ++ service.name)
    ((indent 1 ++ "option (msp.net).alias = \"" ++ service.knownAs ++ "\";") ::
      service.rpcs.flatMap fun rpc => "" :: rpc.lines 1)

/-- The text of a service. -/
def Service.text (service : Service) : String :=
  "\n".intercalate service.lines

/-- The text of a document: its messages and then its service. -/
def Document.text (style : PresenceStyle) (document : Document) : String :=
  "\n\n".intercalate (document.messages.map (·.text style) ++ [document.service.text])

end RouteIdl.Idl
