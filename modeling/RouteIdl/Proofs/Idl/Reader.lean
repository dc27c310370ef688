import Mathlib.Data.List.Basic
import RouteIdl.Idl.Layout

/-!
# Reading declarations

A reader for the text of a message, line by line. The words of a line tell what it states: a field,
a block without content, or the beginning or the end of a block. Blocks that are still open are kept
until they end. Indentation is not looked at.
-/

namespace RouteIdl.Idl

/-! ## Lines -/

/-- The kinds of blocks in a message. -/
inductive Kind where
  | message
  | oneOf
  deriving DecidableEq

namespace Kind

/-- The word that a block begins with. -/
def keyword : Kind → String
  | message => "message"
  | oneOf => "oneof"

def ofKeyword? : String → Option Kind
  | "message" => some message
  | "oneof" => some oneOf
  | _ => none

/-- A block as an item. -/
def item : Kind → String → List Item → Item
  | message => .message
  | oneOf => .oneOf

end Kind

/-- What a line states. -/
inductive Line where
  | field (field : Field)
  | empty (kind : Kind) (name : String)
  | opening (kind : Kind) (name : String)
  | closing

/-- The words of a field. -/
def Field.words (style : PresenceStyle) (field : Field) : List String :=
  (if field.required && style == .label then ["required"] else []) ++
    (if field.repeated then ["repeated"] else []) ++
    [field.type, field.name, "="] ++
    match field.required, style with
    | true, .fieldOption => [toString field.number, "[(msp.field).required", "=", "true];"]
    | true, .comment => [toString field.number ++ ";", "//", "required"]
    | _, _ => [toString field.number ++ ";"]

/-- The words of a line. -/
def Line.words (style : PresenceStyle) : Line → List String
  | .field declared => declared.words style
  | .empty kind name => [kind.keyword, name, "\x7b\x7d"]
  | .opening kind name => [kind.keyword, name, "\x7b"]
  | .closing => ["\x7d"]

/-- The text of a line at a depth. -/
def Line.text (style : PresenceStyle) (depth : Nat) (line : Line) : String :=
  indent depth ++ " ".intercalate (line.words style)

/-- The lines of a block at a depth, each with its own depth. -/
def blockRows (depth : Nat) (kind : Kind) (name : String) (body : List (Nat × Line)) :
    List (Nat × Line) :=
  if body.isEmpty then [(depth, .empty kind name)]
  else (depth, .opening kind name) :: body ++ [(depth, .closing)]

mutual

/-- The lines of an item at a depth, each with its own depth. -/
def Item.rows (depth : Nat) : Item → List (Nat × Line)
  | .field field => [(depth, .field field)]
  | .message name items => blockRows depth .message name (itemRows (depth + 1) items)
  | .oneOf name items => blockRows depth .oneOf name (itemRows (depth + 1) items)

/-- The lines of several items at a depth, each with its own depth. -/
def itemRows (depth : Nat) : List Item → List (Nat × Line)
  | [] => []
  | item :: rest => item.rows depth ++ itemRows depth rest

end

/-! ## Words -/

/-- The lines of a text. -/
def linesOf (text : String) : List String :=
  (text.toList.splitOn '\n').map String.ofList

/-- The words of a line, whatever number of blanks is around them. -/
def wordsOf (line : String) : List String :=
  ((line.toList.splitOn ' ').filter (!·.isEmpty)).map String.ofList

/-- The number that a word begins with. -/
def numberOf (word : String) : Nat :=
  Nat.ofDigitChars 10 (word.toList.takeWhile Char.isDigit) 0

/-- The field that words may be those of, by their count. -/
def Field.likely? : PresenceStyle → List String → Option Field
  | _, [type, name, _, number] => some ⟨name, numberOf number, type, false, false⟩
  | .label, [mark, type, name, _, number] =>
      some ⟨name, numberOf number, type, mark == "repeated", mark == "required"⟩
  | _, [_, type, name, _, number] => some ⟨name, numberOf number, type, true, false⟩
  | .label, [_, _, type, name, _, number] => some ⟨name, numberOf number, type, true, true⟩
  | .comment, [type, name, _, number, _, _] => some ⟨name, numberOf number, type, false, true⟩
  | .comment, [_, type, name, _, number, _, _] => some ⟨name, numberOf number, type, true, true⟩
  | .fieldOption, [type, name, _, number, _, _, _] =>
      some ⟨name, numberOf number, type, false, true⟩
  | .fieldOption, [_, type, name, _, number, _, _, _] =>
      some ⟨name, numberOf number, type, true, true⟩
  | _, _ => none

/-- The field whose words are given. -/
def Field.ofWords? (style : PresenceStyle) (words : List String) : Option Field :=
  (likely? style words).filter fun field => field.words style = words

/-- The line whose words are given. -/
def Line.ofWords? (style : PresenceStyle) : List String → Option Line
  | [brace] => if brace = "\x7d" then some .closing else none
  | [keyword, name, braces] =>
      (Kind.ofKeyword? keyword).bind fun kind =>
        if braces = "\x7b\x7d" then some (.empty kind name)
        else if braces = "\x7b" then some (.opening kind name)
        else none
  | words => (Field.ofWords? style words).map .field

/-! ## Blocks -/

/-- A block that has not ended yet. -/
structure OpenBlock where
  kind : Kind
  name : String
  /-- The items that stand before the block, the last one first. -/
  before : List Item

/-- What has been read so far. -/
structure Reading where
  /-- The items of the innermost open block, the last one first. -/
  items : List Item := []
  /-- The open blocks, the innermost first. -/
  around : List OpenBlock := []

namespace Reading

/-- Add an item to the innermost open block. -/
def add (state : Reading) (item : Item) : Reading :=
  { state with items := item :: state.items }

/-- Take up a line. The end of a block makes it an item of the one around it. -/
def step (state : Reading) : Line → Option Reading
  | .field field => some (state.add (.field field))
  | .empty kind name => some (state.add (kind.item name []))
  | .opening kind name => some ⟨[], ⟨kind, name, state.items⟩ :: state.around⟩
  | .closing =>
      match state.around with
      | [] => none
      | block :: outer =>
          some ⟨block.kind.item block.name state.items.reverse :: block.before, outer⟩

/-- The message that has been read, if that is all. -/
def message? : Reading → Option Message
  | ⟨[.message name items], []⟩ => some ⟨name, items⟩
  | _ => none

end Reading

/-- The message that a text declares in a style. -/
def Message.ofText? (style : PresenceStyle) (text : String) : Option Message := do
  let lines ← (linesOf text).mapM fun line => Line.ofWords? style (wordsOf line)
  let reading ← lines.foldlM Reading.step {}
  reading.message?

end RouteIdl.Idl
