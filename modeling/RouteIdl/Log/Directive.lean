import RouteIdl.Log.Pattern
import RouteIdl.Log.Record
import RouteIdl.Text.CharClass

/-!
# Log directives

A user may narrow the log by directives. Each sets a threshold for the records from certain targets,
and may ask for a field that they have to have. Of several directives on a record the most specific
one counts.
-/

namespace RouteIdl.Log

/-- What a directive asks of a record, besides its target. -/
inductive Condition where
  /-- Nothing. -/
  | always
  /-- That it has a field of this name. -/
  | hasField (name : String)
  /-- That it was logged within a certain span, which is never the case: no spans are opened. -/
  | inSpan
  deriving DecidableEq

/-- Whether a record is as a condition asks. -/
def Condition.holds (condition : Condition) (record : Record) : Bool :=
  match condition with
  | always => true
  | hasField name => record.fields.any fun field => field.1 == name
  | inSpan => false

/-- The name of the field that a condition asks for, empty if there is none. -/
def Condition.fieldName : Condition → String
  | hasField name => name
  | _ => ""

/-- A threshold for some records. -/
structure Directive where
  /-- How their targets start. -/
  target : String
  /-- What is asked of them besides. -/
  condition : Condition
  /-- The least severity that is let through. -/
  threshold : Level
  deriving DecidableEq

namespace Directive

/-- The directive for all records. -/
def forAll (threshold : Level) : Directive := ⟨"", .always, threshold⟩

/-! ## Reading -/

/-- The threshold of a number, from nothing at all to everything. -/
def thresholdOfNumber? : Nat → Option Level
  | 0 => some .off
  | 1 => some .error
  | 2 => some .warn
  | 3 => some .info
  | 4 => some .debug
  | 5 => some .trace
  | _ => none

/-- The threshold of a name, whatever the case of its letters, or of a number. -/
def threshold? (text : String) : Option Level :=
  let digits := if text.startsWith "+" then (text.drop 1).toString else text
  if !digits.isEmpty && digits.all Char.isDigit then digits.toNat?.bind thresholdOfNumber?
  else
    match text.map Char.toLower with
    | "warning" => none
    | name => Level.ofName? name

/-- Whether a directive may start with a character, apart from an opening bracket. -/
def mayStart (c : Char) : Bool :=
  c == '-' || c == ':' || c == '_' || Text.CharSet.alphanumeric.contains c

/-- A text without the blanks around it. -/
def trimmed (text : List Char) : List Char :=
  let blank (c : Char) := Text.CharSet.whiteSpace.contains c
  ((text.dropWhile blank).reverse.dropWhile blank).reverse

/-- Whether a text is a decimal number without a sign, or the word for a special one. -/
def isNumber (text : List Char) : Bool :=
  let rest := text.dropWhile Char.isDigit
  let rest := if rest.head? = some '.' then (rest.drop 1).dropWhile Char.isDigit else rest
  let hasDigit := (text.take (text.length - rest.length)).any Char.isDigit
  let exponent (text : List Char) : Bool := !text.isEmpty && text.all Char.isDigit
  let ending : Bool :=
    match rest with
    | [] => true
    | letter :: sign :: rest =>
        (letter == 'e' || letter == 'E') &&
          exponent (if sign == '+' || sign == '-' then rest else sign :: rest)
    | _ => false
  (hasDigit && ending) ||
    ["inf", "infinity", "nan"].contains (String.ofList (text.map Char.toLower))

/-- Whether a text can be the value of a field: a number or a well-formed pattern. Numbers without a
plus sign are such patterns too. -/
def isFieldValue : List Char → Bool
  | '+' :: rest => isNumber rest
  | text => Pattern.isWellFormed text

/-- What is left of a text after so many bytes. -/
def dropBytes : Nat → List Char → List Char
  | _, [] => []
  | 0, text => text
  | count, c :: rest => dropBytes (count - c.utf8Size) rest

/-- The first characters of a text, up to so many bytes. -/
def takeBytes : Nat → List Char → List Char
  | _, [] => []
  | 0, _ => []
  | count, c :: rest => c :: takeBytes (count - c.utf8Size) rest

/-- A directive as it is written. Its parts are told by the marks between them, and the marks are
sought in the text without the blanks around it. The parts are cut from the whole text after the
same numbers of bytes, so that blanks in front of a directive displace its parts. -/
structure Source where
  /-- The whole text. -/
  text : List Char
  /-- The text without the blanks around it. -/
  marks : List Char

namespace Source

/-- How many bytes lie before a position. -/
def bytesBefore (source : Source) (position : Nat) : Nat :=
  (String.ofList (source.marks.take position)).utf8ByteSize

/-- The part from a position on. -/
def after (source : Source) (start : Nat) : String :=
  String.ofList (dropBytes (source.bytesBefore start) source.text)

/-- The part between two positions. -/
def between (source : Source) (start stop : Nat) : String :=
  let text := takeBytes (source.bytesBefore stop) source.text
  String.ofList (dropBytes (source.bytesBefore start) text)

/-- The first position from a given one on with one of the given marks, or the end. -/
def seek (source : Source) (marks : List Char) (start : Nat) : Nat :=
  start + ((source.marks.drop start).takeWhile fun c => !marks.contains c).length

/-- The threshold from a position to the end. Left out, it is the one for everything. -/
def thresholdFrom? (source : Source) (start : Nat) : Option Level :=
  match source.after start with
  | "" => some .trace
  | text => threshold? text

/-- The condition of a field from one position to another. The values of fields are known of spans
only. -/
def field? (source : Source) (start stop : Nat) : Option Condition :=
  match (source.between start stop).toList.splitOn '=' with
  | [] | [[]] => none
  | [name] => some (.hasField (String.ofList name))
  | _ :: value :: _ => if isFieldValue value then some .inSpan else none

/-- The condition after an opening bracket, with the position after the closing one: the name of a
span, a field between braces, or both. -/
def condition? (source : Source) (start : Nat) : Option (Condition × Nat) :=
  let stop := source.seek [']', '\x7b'] start
  match source.marks.drop stop with
  | ']' :: _ => some (.inSpan, stop + 1)
  | '\x7b' :: _ => do
      let close := source.seek ['\x7d'] (stop + 1)
      let field ← source.field? (stop + 1) close
      match source.marks.drop close with
      | '\x7d' :: ']' :: _ => some (if start = stop then field else .inSpan, close + 2)
      | _ => none
  | _ => none

/-- The directive with a target and a condition whose threshold, after an equals sign, begins at a
position. It may be left out. -/
def conclude? (source : Source) (target : String) (condition : Condition) (start : Nat) :
    Option Directive :=
  match source.marks.drop start with
  | [] => some ⟨target, condition, .trace⟩
  | '=' :: _ => (source.thresholdFrom? (start + 1)).map fun level => ⟨target, condition, level⟩
  | _ => none

/-- The directive of a source: a threshold alone, or a target, a condition and a threshold, of which
any but one may be left out. Blanks alone are none. -/
def directive? (source : Source) : Option Directive :=
  match source.marks with
  | [] => none
  | c :: _ =>
      if c != '[' && !mayStart c then none
      else
        let stop := source.seek ['=', '['] 0
        let target := source.between 0 stop
        match source.marks.drop stop with
        | [] =>
            let text := String.ofList source.text
            match threshold? text with
            | some level => some (forAll level)
            | none => some ⟨text, .always, .trace⟩
        | '[' :: _ => do
            let (condition, rest) ← source.condition? (stop + 1)
            source.conclude? target condition rest
        | _ => source.conclude? target .always stop

end Source

/-- The directive that a text stands for. -/
def ofText? (text : String) : Option Directive :=
  Source.directive? ⟨text.toList, trimmed text.toList⟩

/-- The directives in a text, between commas. A text without directives asks for errors only, and
one with a malformed directive for everything. -/
def listOfText (text : String) : List Directive :=
  let parts := (text.toList.splitOn ',').filter fun part => !part.isEmpty
  match parts.mapM fun part => ofText? (String.ofList part) with
  | some [] => [forAll .error]
  | some directives => directives
  | none => [forAll .trace]

/-- The directives in the text that a user may have given. Without one, everything is let
through. -/
def listOf : Option String → List Directive
  | none => [forAll .trace]
  | some text => listOfText text

/-! ## Use -/

/-- Whether a directive is about a record. -/
def concerns (directive : Directive) (record : Record) : Bool :=
  record.target.startsWith directive.target && directive.condition.holds record

/-- Whether a directive gives way to a later one about the same record: to a longer target, and with
the same target to a field name that does not come earlier in the alphabet. -/
def givesWayTo (directive other : Directive) : Bool :=
  directive.target.length < other.target.length ||
    (directive.target.length == other.target.length &&
      decide (directive.condition.fieldName ≤ other.condition.fieldName))

/-- The more specific of two directives about a record. -/
def moreSpecific (best : Option Directive) (next : Directive) : Option Directive :=
  match best with
  | none => some next
  | some best => if best.givesWayTo next then some next else some best

/-- Whether directives let a record through. -/
def allow (directives : List Directive) (record : Record) : Bool :=
  let relevant := directives.filter fun directive => directive.concerns record
  match relevant.foldl moreSpecific none with
  | none => false
  | some directive => directive.threshold.passes record.level

end Directive

end RouteIdl.Log
